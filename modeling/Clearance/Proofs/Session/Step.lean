import Clearance.Proofs.Decoding.Basic
import Clearance.Session.Basic

/-!
# What a step does

A step uses one name at most and writes two at most. `Step.Writes` lists the steps that succeed with
what they write, and all that is said about steps elsewhere comes from it and from two facts: what a
step comes to depends only on the name that it uses, and a name that it does not write stands for
what it stood for.
-/

namespace Clearance

/-! ### Names -/

namespace Step

/-- The name of what a step uses, if it uses anything. -/
def source? : Step → Option String
  | makeBuilder _ _ | makeRegistry _ _ _ | define _ _ _ => none
  | build source _ _ | rule source _ _ _ _ | because source _ | policyInto source _ _
  | size source | inspect source | config source | policy source _ _ _ | clone source _
  | rules source | ask source _ _ _ | query source _ _ | matrix source _ => some source

/-- The names that a step writes when it succeeds. -/
def touched : Step → List String
  | makeBuilder dest _ | makeRegistry dest _ _ | define dest _ _ | policy _ _ _ dest
  | clone _ dest => [dest]
  | build source dest _ => [source, dest]
  | rule source _ _ _ _ | because source _ | policyInto source _ _ => [source]
  | size _ | inspect _ | config _ | rules _ | ask _ _ _ _ | query _ _ _ | matrix _ _ => []

end Step

/-! ### Changes of builders -/

/-- A change of a builder. -/
inductive Edit where
  | rule (inverted : Bool) (action : Action) (subject : SubjectMatcher)
      (condition : Option Condition)
  | because (reason : String)
  | policy (role : Role) (user : UserId)
deriving DecidableEq, Repr

namespace Edit

def apply (b : AbilityBuilder) : Edit → AbilityBuilder
  | rule inverted action subject condition =>
      if inverted then b.deny action subject condition else b.allow action subject condition
  | because reason => b.because reason
  | policy role user => role.policy ⟨user⟩ b

/-- The step that makes a change to the builder under a name. -/
def step (source : String) : Edit → Step
  | rule inverted action subject condition =>
      .rule source inverted (.ok action) (.ok subject) (.ok condition)
  | because reason => .because source (.ok reason)
  | policy role user => .policyInto source (.ok role) (.ok user)

end Edit

/-- The change that a step makes to the builder under a name, if the step is one and its fields are
understood. -/
def Step.edit? (name : String) : Step → Option Edit
  | .rule source inverted (.ok action) (.ok subject) (.ok condition) =>
      if source = name then some (.rule inverted action subject condition) else none
  | .because source (.ok reason) => if source = name then some (.because reason) else none
  | .policyInto source (.ok role) (.ok user) =>
      if source = name then some (.policy role user) else none
  | _ => none

namespace Edit

theorem edit?_step (name : String) (e : Edit) : (e.step name).edit? name = some e := by
  cases e <;> simp [step, Step.edit?]

theorem eq_step_of_edit? {name : String} {other : Step} {e : Edit}
    (h : other.edit? name = some e) : other = e.step name := by
  rw [Step.edit?.eq_def] at h
  split at h
  · obtain ⟨rfl, rfl⟩ := by simpa using h
    rfl
  · obtain ⟨rfl, rfl⟩ := by simpa using h
    rfl
  · obtain ⟨rfl, rfl⟩ := by simpa using h
    rfl
  · cases h

end Edit

namespace Session

variable {s : Session} {name : String}

theorem builder_eq_ok {b : AbilityBuilder} :
    s.builder name = .ok b ↔ s.slot name = some (.builder b) := by
  rw [builder]
  split <;> simp_all

theorem registry_eq_ok {g : PolicyRegistry} :
    s.registry name = .ok g ↔ s.slot name = some (.registry g) := by
  rw [registry]
  split <;> simp_all

theorem any_eq_ok {x : Slot} : s.any name = .ok x ↔ s.slot name = some x := by
  rw [any]
  split <;> simp_all

end Session

namespace Step

/-- The steps that succeed in a session, and what they write. -/
inductive Writes (s : Session) : Step → List (String × Option Slot) → Prop where
  | makeBuilder (dest : String) (config : AbilityConfig) :
      Writes s (.makeBuilder dest (.ok config)) [(dest, some (.builder (.new config)))]
  | makeRegistry (dest : String) (config : AbilityConfig) (resolver : Resolver) :
      Writes s (.makeRegistry dest (.ok config) (.ok resolver))
        [(dest, some (.registry ⟨resolver, config⟩))]
  | define (dest : String) (role : Role) (user : UserId) :
      Writes s (.define dest (.ok role) (.ok user))
        [(dest, some (.ability (defineAbilityFor user role)))]
  | build {source : String} {b : AbilityBuilder} (stands : s.slot source = some (.builder b))
      (dest : String) (resolver : Resolver) :
      Writes s (.build source dest (.ok resolver))
        [(source, none), (dest, some (.ability (b.build resolver)))]
  | edit {source : String} {b : AbilityBuilder} (stands : s.slot source = some (.builder b))
      (e : Edit) : Writes s (e.step source) [(source, some (.builder (e.apply b)))]
  | policy {source : String} {g : PolicyRegistry} (stands : s.slot source = some (.registry g))
      (dest : String) (role : Role) (user : UserId) :
      Writes s (.policy source (.ok role) (.ok user) dest)
        [(dest, some (.ability (g.buildAbility role ⟨user⟩)))]
  | clone {source : String} {x : Slot} (stands : s.slot source = some x)
      (noBuilder : ∀ b, x ≠ .builder b) (dest : String) :
      Writes s (.clone source dest) [(dest, some x)]
  | query {step : Step} (silent : step.touched = []) : Writes s step []

/-- A step that touches nothing only answers. -/
theorem writes_of_silent {s : Session} {step : Step} {e : Effect} (silent : step.touched = [])
    (h : step.effect s = .ok e) : e.writes = [] := by
  cases step with
  | size source =>
    simp only [effect, Decoded.bind_eq_ok] at h
    obtain ⟨x, -, h⟩ := h
    cases x with
    | registry g => simp at h
    | _ => exact Decoded.pure_eq_ok.mp h ▸ rfl
  | inspect source =>
    simp only [effect, Decoded.bind_eq_ok] at h
    obtain ⟨x, -, h⟩ := h
    cases x <;> exact Decoded.pure_eq_ok.mp h ▸ rfl
  | config source =>
    simp only [effect, Decoded.bind_eq_ok, Decoded.pure_eq_ok] at h
    obtain ⟨g, -, rfl⟩ := h
    rfl
  | rules source =>
    simp only [effect, Decoded.bind_eq_ok, Decoded.pure_eq_ok] at h
    obtain ⟨a, -, rfl⟩ := h
    rfl
  | ask source question action target =>
    simp only [effect, Decoded.bind_eq_ok] at h
    obtain ⟨a, -, action, -, target, -, h⟩ := h
    split at h
    · exact Decoded.pure_eq_ok.mp h ▸ rfl
    · simp at h
  | query source action target =>
    simp only [effect, Decoded.bind_eq_ok] at h
    obtain ⟨a, -, action, -, target, -, h⟩ := h
    split at h
    · exact Decoded.pure_eq_ok.mp h ▸ rfl
    · simp at h
  | matrix source targets =>
    simp only [effect, Decoded.bind_eq_ok, Decoded.pure_eq_ok] at h
    obtain ⟨a, -, targets, -, rfl⟩ := h
    rfl
  | _ => cases silent

theorem writes_of_effect {s : Session} {step : Step} {e : Effect} (h : step.effect s = .ok e) :
    Writes s step e.writes := by
  cases step with
  | makeBuilder dest config =>
    simp only [effect, Decoded.bind_eq_ok, Decoded.pure_eq_ok] at h
    obtain ⟨config, rfl, rfl⟩ := h
    exact .makeBuilder dest config
  | makeRegistry dest config resolver =>
    simp only [effect, Decoded.bind_eq_ok, Decoded.pure_eq_ok] at h
    obtain ⟨config, rfl, resolver, rfl, rfl⟩ := h
    exact .makeRegistry dest config resolver
  | define dest role user =>
    simp only [effect, Decoded.bind_eq_ok, Decoded.pure_eq_ok] at h
    obtain ⟨role, rfl, user, rfl, rfl⟩ := h
    exact .define dest role user
  | build source dest resolver =>
    simp only [effect, Decoded.bind_eq_ok, Decoded.pure_eq_ok, Session.builder_eq_ok] at h
    obtain ⟨resolver, rfl, b, stands, rfl⟩ := h
    exact .build stands dest resolver
  | rule source inverted action subject condition =>
    simp only [effect, Decoded.bind_eq_ok, Decoded.pure_eq_ok, Session.builder_eq_ok] at h
    obtain ⟨b, stands, action, rfl, subject, rfl, condition, rfl, rfl⟩ := h
    exact .edit stands (.rule inverted action subject condition)
  | because source reason =>
    simp only [effect, Decoded.bind_eq_ok, Decoded.pure_eq_ok, Session.builder_eq_ok] at h
    obtain ⟨b, stands, reason, rfl, rfl⟩ := h
    exact .edit stands (.because reason)
  | policyInto source role user =>
    simp only [effect, Decoded.bind_eq_ok, Decoded.pure_eq_ok, Session.builder_eq_ok] at h
    obtain ⟨b, stands, role, rfl, user, rfl, rfl⟩ := h
    exact .edit stands (.policy role user)
  | policy source role user dest =>
    simp only [effect, Decoded.bind_eq_ok, Decoded.pure_eq_ok, Session.registry_eq_ok] at h
    obtain ⟨g, stands, role, rfl, user, rfl, rfl⟩ := h
    exact .policy stands dest role user
  | clone source dest =>
    simp only [effect, Decoded.bind_eq_ok, Session.any_eq_ok] at h
    obtain ⟨x, stands, h⟩ := h
    cases x with
    | builder b => simp at h
    | registry g =>
      obtain rfl := Decoded.pure_eq_ok.mp h
      exact .clone stands (by simp) dest
    | ability a =>
      obtain rfl := Decoded.pure_eq_ok.mp h
      exact .clone stands (by simp) dest
  | _ =>
    rw [writes_of_silent rfl h]
    exact .query rfl

theorem Writes.names {s : Session} {step : Step} {writes : List (String × Option Slot)}
    (h : Writes s step writes) : writes.map Prod.fst = step.touched := by
  cases h with
  | query silent => exact silent.symm
  | edit stands e => cases e <;> rfl
  | _ => rfl

/-- A step depends on nothing but what stands under the name it uses. -/
theorem effect_congr {s s' : Session} {step : Step}
    (h : ∀ source, step.source? = some source → s.slot source = s'.slot source) :
    step.effect s = step.effect s' := by
  cases step with
  | makeBuilder dest config => rfl
  | makeRegistry dest config resolver => rfl
  | define dest role user => rfl
  | _ =>
    simp only [effect, Session.builder, Session.registry, Session.ability, Session.any, h _ rfl]

end Step

/-! ### The session afterwards -/

namespace Session

variable {s s' : Session} {step : Step} {name : String}

theorem slot_writeAll_of_not_mem {writes : List (String × Option Slot)}
    (h : name ∉ writes.map Prod.fst) : (s.writeAll writes).slot name = s.slot name := by
  induction writes generalizing s with
  | nil => rfl
  | cons w rest ih =>
    obtain ⟨other, x⟩ := w
    rw [List.map_cons, List.mem_cons, not_or] at h
    rw [writeAll_cons, ih h.2, slot_write, if_neg h.1]

/-- A name that was written stands for something that was written there. -/
theorem mem_of_slot_writeAll {writes : List (String × Option Slot)}
    (h : name ∈ writes.map Prod.fst) : (name, (s.writeAll writes).slot name) ∈ writes := by
  induction writes generalizing s with
  | nil => cases h
  | cons w rest ih =>
    obtain ⟨other, x⟩ := w
    rw [writeAll_cons]
    by_cases hrest : name ∈ rest.map Prod.fst
    · exact List.mem_cons_of_mem _ (ih hrest)
    · obtain rfl : name = other := by
        rw [List.map_cons, List.mem_cons] at h
        exact h.resolve_right hrest
      rw [slot_writeAll_of_not_mem hrest, slot_write, if_pos rfl]
      exact List.mem_cons_self

theorem slot_writeAll_congr {writes : List (String × Option Slot)}
    (h : name ∈ writes.map Prod.fst ∨ s.slot name = s'.slot name) :
    (s.writeAll writes).slot name = (s'.writeAll writes).slot name := by
  induction writes generalizing s s' with
  | nil => exact h.resolve_left List.not_mem_nil
  | cons w rest ih =>
    obtain ⟨other, x⟩ := w
    rw [writeAll_cons, writeAll_cons]
    apply ih
    rw [slot_write, slot_write]
    by_cases hname : name = other
    · exact .inr (by rw [if_pos hname, if_pos hname])
    · rw [List.map_cons, List.mem_cons, or_assoc] at h
      rw [if_neg hname, if_neg hname]
      exact h.resolve_left hname

/-- A name that a step does not touch stands for what it stood for. -/
theorem slot_take_of_not_mem (h : name ∉ step.touched) :
    (s.take step).2.slot name = s.slot name := by
  rw [take]
  cases heffect : step.effect s with
  | error failure => rfl
  | ok e =>
    rw [← (Step.writes_of_effect heffect).names] at h
    exact slot_writeAll_of_not_mem h

/-- A step that fails changes nothing. -/
theorem take_of_failure {failure : Failure} (h : (s.take step).1.1 = .error failure) :
    (s.take step).2 = s := by
  rw [take] at h ⊢
  cases heffect : step.effect s with
  | error failure => rfl
  | ok e =>
    rw [heffect] at h
    cases h

/-- A step that only asks changes nothing. -/
theorem take_of_silent (h : step.touched = []) : (s.take step).2 = s := by
  rw [take]
  cases heffect : step.effect s with
  | error failure => rfl
  | ok e => simp only [Step.writes_of_silent h heffect, writeAll_nil]

/-- What a step writes that succeeds is what changes. -/
theorem take_of_writes {writes : List (String × Option Slot)} (h : step.Writes s writes) :
    (s.take step).2 = s.writeAll writes := by
  cases h with
  | build stands dest resolver =>
    simp only [take, Step.effect, builder_eq_ok.mpr stands]
    rfl
  | edit stands e =>
    cases e <;> simp only [take, Edit.step, Step.effect, builder_eq_ok.mpr stands] <;> rfl
  | policy stands dest role user =>
    simp only [take, Step.effect, registry_eq_ok.mpr stands]
    rfl
  | @clone source x stands noBuilder dest =>
    simp only [take, Step.effect, any_eq_ok.mpr stands]
    cases x with
    | builder b => exact absurd rfl (noBuilder b)
    | registry g => rfl
    | ability a => rfl
  | query silent => exact take_of_silent silent
  | _ => rfl

end Session

end Clearance
