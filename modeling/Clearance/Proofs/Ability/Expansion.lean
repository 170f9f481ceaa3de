import Clearance.Proofs.Ability.Congruence
import Mathlib.Logic.Relation

/-!
# Writing matchers out

A matcher for all types or for a set of them saves writing the same rule once for each type. Such a
rule may be replaced by these copies, in any order and any of them more than once: at most one type
is asked about, so that either none of the copies applies or the same ones do that say what the rule
said. This holds between any other rules, hence after any number of replacements, and every list can
be brought down to rules about single types.
-/

namespace Clearance

namespace Rule

/-! ### One rule -/

/-- The rule once for each of the types, and about that type alone. -/
def copies (r : Rule) (types : List SubjectType) : List Rule :=
  types.map fun t => { r with subject := .type t }

/-- The rule as it would be about every type. Rules that look the same so differ in their matchers
at most. -/
def untyped (r : Rule) : Rule :=
  { r with subject := .all }

theorem untyped_of_mem_copies {r q : Rule} {types : List SubjectType} (h : q ∈ r.copies types) :
    q.untyped = r.untyped := by
  obtain ⟨t, -, rfl⟩ := List.mem_map.mp h
  rfl

theorem exists_copy_applies {r : Rule} {types : List SubjectType} {action : Action}
    {t : SubjectType} {instance? : Option Subject} :
    (∃ q ∈ r.copies types, q.applies action t instance?) ↔
      t ∈ types ∧ r.action.covers action ∧ conditionHolds r.condition instance? := by
  have hcopy : ∀ u, { r with subject := .type u }.applies action t instance? ↔
      u = t ∧ r.action.covers action ∧ conditionHolds r.condition instance? := by
    intro u
    simp [applies, SubjectMatcher.covers, and_assoc]
  constructor
  · rintro ⟨q, hq, happlies⟩
    obtain ⟨u, hu, rfl⟩ := List.mem_map.mp hq
    obtain ⟨rfl, hrest⟩ := (hcopy u).mp happlies
    exact ⟨hu, hrest⟩
  · rintro ⟨ht, hrest⟩
    exact ⟨_, List.mem_map_of_mem ht, (hcopy t).mpr ⟨rfl, hrest⟩⟩

theorem decideAlike_copies {r : Rule} {types : List SubjectType}
    (h : ∀ t, t ∈ types ↔ r.subject.covers t = true) :
    Ability.DecideAlike untyped [r] (r.copies types) := by
  have hrule : ∀ q ∈ [r], q.untyped = r.untyped := by
    intro q hq
    rw [List.mem_singleton.mp hq]
  apply Ability.DecideAlike.of_uniform hrule fun q hq => untyped_of_mem_copies hq
  intro action t instance?
  rw [exists_copy_applies, h]
  simp [applies, and_assoc]

/-- The lists of rules that a rule may be replaced by. A rule about a set of types becomes a copy
for each of them, so that one about the empty set vanishes. -/
inductive WrittenOut (r : Rule) : List Rule → Prop where
  | anyOf (types types' : List SubjectType) (matcher : r.subject = .anyOf types)
      (same : ∀ t, t ∈ types' ↔ t ∈ types) : r.WrittenOut (r.copies types')
  | all (types : List SubjectType) (matcher : r.subject = .all) (every : ∀ t, t ∈ types) :
      r.WrittenOut (r.copies types)

theorem WrittenOut.decideAlike {r : Rule} {rules : List Rule} (h : r.WrittenOut rules) :
    Ability.DecideAlike untyped [r] rules := by
  cases h with
  | anyOf types types' hmatcher hsame =>
    apply decideAlike_copies
    intro t
    rw [hmatcher, hsame, SubjectMatcher.covers, List.contains_iff_mem]
  | all types hmatcher hevery =>
    apply decideAlike_copies
    intro t
    rw [hmatcher]
    exact iff_of_true (hevery t) rfl

/-- A rule for each type that the rule covers, in the order of its matcher. -/
def singleTyped (r : Rule) : List Rule :=
  match r.subject with
  | .all => r.copies SubjectType.all
  | .type _ => [r]
  | .anyOf types => r.copies types

theorem singleTyped_eq_or_writtenOut (r : Rule) :
    r.singleTyped = [r] ∨ r.WrittenOut r.singleTyped := by
  rw [singleTyped]
  cases hsubject : r.subject with
  | all => exact .inr (.all SubjectType.all hsubject SubjectType.mem_all)
  | type t => exact .inl rfl
  | anyOf types => exact .inr (.anyOf types types hsubject fun _ => Iff.rfl)

theorem subject_of_mem_singleTyped {r q : Rule} (h : q ∈ r.singleTyped) :
    ∃ t, q.subject = .type t := by
  rw [singleTyped] at h
  cases hsubject : r.subject with
  | type t =>
    rw [hsubject, List.mem_singleton] at h
    exact ⟨t, by rw [h, hsubject]⟩
  | _ =>
    rw [hsubject] at h
    obtain ⟨t, -, rfl⟩ := List.mem_map.mp h
    exact ⟨t, rfl⟩

end Rule

namespace Ability

/-! ### A rule among others -/

/-- One rule of a list is replaced, and the others stay where they are. -/
inductive WritesOut : List Rule → List Rule → Prop where
  | rule (xs ys : List Rule) (r : Rule) (mid : List Rule) (h : r.WrittenOut mid) :
      WritesOut (xs ++ [r] ++ ys) (xs ++ mid ++ ys)

theorem WritesOut.decideAlike {rules rules' : List Rule} (h : WritesOut rules rules') :
    DecideAlike Rule.untyped rules rules' := by
  obtain ⟨xs, ys, r, mid, hmid⟩ := h
  exact hmid.decideAlike.between xs ys

theorem WritesOut.append_left {rules rules' : List Rule} (xs : List Rule)
    (h : WritesOut rules rules') : WritesOut (xs ++ rules) (xs ++ rules') := by
  obtain ⟨zs, ys, r, mid, hmid⟩ := h
  simpa only [List.append_assoc] using WritesOut.rule (xs ++ zs) ys r mid hmid

/-- What one replacement keeps, any number of them keeps. -/
theorem decideAlike_of_writesOut {rules rules' : List Rule}
    (h : Relation.ReflTransGen WritesOut rules rules') :
    DecideAlike Rule.untyped rules rules' := by
  induction h with
  | refl => exact .refl rules
  | tail _ hstep ih => exact ih.trans hstep.decideAlike

/-- Rule by rule, a whole list can be written out. -/
theorem writesOut_singleTyped (rules : List Rule) :
    Relation.ReflTransGen WritesOut rules (rules.flatMap Rule.singleTyped) := by
  induction rules with
  | nil => exact .refl
  | cons r rest ih =>
    rw [List.flatMap_cons]
    have hrest : ∀ xs, Relation.ReflTransGen WritesOut (xs ++ rest)
        (xs ++ rest.flatMap Rule.singleTyped) :=
      fun xs => ih.lift (xs ++ ·) fun _ _ h => h.append_left xs
    rcases r.singleTyped_eq_or_writtenOut with hsame | hwritten
    · rw [hsame]
      exact hrest [r]
    · exact .head (.rule [] rest r r.singleTyped hwritten) (hrest r.singleTyped)

/-- **Writing matchers out.** However often rules about all types or about sets of types are
replaced by copies for the single types, the answers stay as they are, and the rule that decides
differs in its matcher at most. A rule about the empty set is replaced by nothing. Every list of
rules comes down to one with rules about single types alone. -/
theorem matchers_written_out :
    (∀ rules rules', Relation.ReflTransGen WritesOut rules rules' →
      Interchangeable Rule.untyped rules rules') ∧
    (∀ (xs ys : List Rule) (r : Rule), r.subject = .anyOf [] →
      WritesOut (xs ++ [r] ++ ys) (xs ++ ys)) ∧
    ∀ rules : List Rule,
      Relation.ReflTransGen WritesOut rules (rules.flatMap Rule.singleTyped) ∧
      ∀ r ∈ rules.flatMap Rule.singleTyped, ∃ t, r.subject = .type t := by
  refine ⟨fun rules rules' h => ?_, fun xs ys r hr => ?_, fun rules => ?_⟩
  · exact (decideAlike_of_writesOut h).interchangeable fun _ => rfl
  · have hempty : r.WrittenOut [] := .anyOf [] [] hr fun _ => Iff.rfl
    have hstep := WritesOut.rule xs ys r [] hempty
    rwa [List.append_nil] at hstep
  · refine ⟨writesOut_singleTyped rules, fun q hq => ?_⟩
    obtain ⟨r, -, hr⟩ := List.mem_flatMap.mp hq
    exact Rule.subject_of_mem_singleTyped hr

/-- A right to update what somebody owns, first written out for projects, organizations and projects
again, and then the denial behind it, for the types in another order; a rule about no type vanishes.
The organization's owner still reads why the update is denied. -/
theorem matchers_written_out_denial :
    let u : UserId := ⟨⟨7⟩⟩
    let s := Subject.organization ⟨⟨⟨1⟩⟩, u⟩
    let grant : Rule :=
      ⟨.manage, .anyOf [.organization, .project], some (.ownedBy u), false, none⟩
    let denial : Rule := ⟨.update, .all, none, true, some "read only"⟩
    let idle : Rule := ⟨.update, .anyOf [], none, false, none⟩
    let orders : List SubjectType := [.billing, .organization, .user, .invite, .project]
    let rules := [grant, denial, idle]
    let rules' := grant.copies [.project, .organization, .project] ++ denial.copies orders
    let ability := fun rules => Ability.mk rules .byVariant .default
    Relation.ReflTransGen WritesOut rules rules' ∧ idle.subject = .anyOf [] ∧
      Interchangeable Rule.untyped rules rules' ∧ WritesOut rules [grant, denial] ∧
      (ability rules').decide .update (.subject s) = .ok (.denied (some "read only")) ∧
      (ability rules').relevantRule .update (.subject s) =
        .ok (some { denial with subject := .type .organization }) := by
  intro u s grant denial idle orders rules rules' ability
  obtain ⟨hanswers, hdelete, -⟩ := matchers_written_out
  have hgrant : grant.WrittenOut (grant.copies [.project, .organization, .project]) :=
    .anyOf _ _ rfl fun t => by cases t <;> decide
  have hdenial : denial.WrittenOut (denial.copies orders) :=
    .all orders rfl fun t => by cases t <;> decide
  have hempty : WritesOut rules [grant, denial] := hdelete [grant, denial] [] idle rfl
  have hfirst := WritesOut.rule [] [denial] grant _ hgrant
  have hsecond := WritesOut.rule (grant.copies [.project, .organization, .project]) [] denial _
    hdenial
  have hall : Relation.ReflTransGen WritesOut rules rules' :=
    ((Relation.ReflTransGen.single hempty).tail hfirst).tail hsecond
  exact ⟨hall, rfl, hanswers rules rules' hall, hempty, rfl, rfl⟩

end Ability

end Clearance
