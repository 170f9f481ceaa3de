import Clearance.Decoding.Basic

/-!
# What decodes

Each way of decoding is described by the documents it accepts and the value it gives for them. The
faults of the others are left to the definitions.
-/

namespace Clearance

namespace Decoded

variable {ε δ α β : Type}

@[simp]
theorem bind_eq_ok {x : Except ε α} {f : α → Except ε β} {b : β} :
    (x >>= f) = .ok b ↔ ∃ a, x = .ok a ∧ f a = .ok b := by
  cases x <;> simp [bind, Except.bind]

theorem check_bind_eq_ok {x : Except ε Unit} {f : Unit → Except ε β} {b : β} :
    (x >>= f) = .ok b ↔ x = .ok () ∧ f () = .ok b := by
  cases x <;> simp [bind, Except.bind]

theorem bind_eq_error {x : Except ε α} {f : α → Except ε β} {e : ε} :
    (x >>= f) = .error e ↔ x = .error e ∨ ∃ a, x = .ok a ∧ f a = .error e := by
  cases x <;> simp [bind, Except.bind]

@[simp]
theorem pure_ne_error {e : ε} {a : α} : (pure a : Except ε α) ≠ .error e := by
  simp [pure, Except.pure]

@[simp]
theorem pure_eq_ok {a b : α} : (pure a : Except ε α) = .ok b ↔ a = b := by
  simp [pure, Except.pure]

@[simp]
theorem throw_ne_ok {e : ε} {a : α} : (throw e : Except ε α) ≠ .ok a := by
  simp [throw, throwThe, MonadExceptOf.throw]

@[simp]
theorem map_eq_ok {x : Except ε α} {f : α → β} {b : β} :
    x.map f = .ok b ↔ ∃ a, x = .ok a ∧ f a = b := by
  cases x <;> simp [Except.map]

@[simp]
theorem mapError_ok {f : ε → δ} {a : α} : (Except.ok a).mapError f = .ok a :=
  rfl

@[simp]
theorem mapError_error {f : ε → δ} {e : ε} :
    (Except.error e : Except ε α).mapError f = .error (f e) :=
  rfl

@[simp]
theorem mapError_eq_ok {x : Except ε α} {f : ε → δ} {a : α} :
    x.mapError f = .ok a ↔ x = .ok a := by
  cases x <;> simp

/-- What reads back is never written alike for different values. -/
theorem injective_of_reads_back {read : β → Except ε α} {write : α → β}
    (h : ∀ x, read (write x) = .ok x) : Function.Injective write := by
  intro x y hwritten
  have hread := h x
  rw [hwritten, h y] at hread
  exact (Except.ok.inj hread).symm

end Decoded

namespace Document

theorem asUuid_eq_ok {d : Document} {u : Uuid} :
    d.asUuid = .ok u ↔ ∃ s, d = .text s ∧ Uuid.read s = .ok u := by
  cases d <;> simp [asUuid]

theorem asId_eq_ok {entity : Entity} {d : Document} {i : Id entity} :
    d.asId entity = .ok i ↔ ∃ s, d = .text s ∧ Uuid.read s = .ok i.uuid := by
  obtain ⟨u⟩ := i
  simp [asId, asUuid_eq_ok]

theorem asOptional_eq_ok {α : Type} {decode : Document → Decoded α} {d : Document} {x? : Option α} :
    d.asOptional decode = .ok x? ↔
      d = .null ∧ x? = none ∨ d ≠ .null ∧ ∃ x, decode d = .ok x ∧ some x = x? := by
  cases d with
  | null => simp [asOptional, eq_comm]
  | _ => simp [asOptional]

/-- Only a text can have values that cannot be passed over. -/
theorem passOver_of_ne_json {medium : Medium} (hmedium : medium ≠ .json) (d : Document) :
    d.passOver medium = .ok () := by
  rw [passOver, if_neg (fun h => hmedium h.1)]

theorem store_of_ne_json {medium : Medium} (hmedium : medium ≠ .json) (d : Document) :
    d.store medium = .ok () := by
  rw [store, if_neg (fun h => hmedium h.1)]

end Document

end Clearance
