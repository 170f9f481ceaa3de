import Clearance.Proofs.Ability.Congruence
import Clearance.Proofs.Ability.Scan

/-!
# Conditions that can hold

A subject has identifiers for attributes and nothing else, and which attributes it has depends on
its type. So a condition holds on some instance of a type exactly when it asks for identifiers
alone, of attributes that the type carries; the instance that it asks for can be written down. No
type carries both an owner and an author. A rule that asks for both, or for a text that spells an
identifier, is never heard, and it may be left out of any list.
-/

namespace Clearance

/-! ### What a type carries -/

/-- The attributes that the instances of a type have or may have. -/
def SubjectType.attributes : SubjectType → List Attribute
  | user => [.id]
  | project => [.id, .ownerId, .organizationId]
  | organization => [.id, .ownerId]
  | invite => [.id, .organizationId, .authorId]
  | billing => [.organizationId]

theorem SubjectType.owner_or_author (t : SubjectType) :
    .ownerId ∉ t.attributes ∨ .authorId ∉ t.attributes := by
  cases t <;> decide

theorem SubjectType.mem_attributes_of_ne {x : Attribute} :
    (x ≠ .authorId → x ∈ project.attributes) ∧ (x ≠ .ownerId → x ∈ invite.attributes) := by
  cases x <;> decide

theorem Subject.of_lookup_eq_some {s : Subject} {x : Attribute} {v : AttrValue}
    (h : s.lookup x = some v) : (∃ u, v = .id u) ∧ x ∈ s.subjectType.attributes := by
  cases s with
  | user s =>
    cases x <;> cases h
    exact ⟨⟨_, rfl⟩, List.mem_of_elem_eq_true rfl⟩
  | project s =>
    obtain ⟨i, owner, _ | organization⟩ := s <;> cases x <;> cases h <;>
      exact ⟨⟨_, rfl⟩, List.mem_of_elem_eq_true rfl⟩
  | organization s =>
    cases x <;> cases h <;> exact ⟨⟨_, rfl⟩, List.mem_of_elem_eq_true rfl⟩
  | invite s =>
    obtain ⟨i, organization, _ | author⟩ := s <;> cases x <;> cases h <;>
      exact ⟨⟨_, rfl⟩, List.mem_of_elem_eq_true rfl⟩
  | billing s =>
    cases x <;> cases h
    exact ⟨⟨_, rfl⟩, List.mem_of_elem_eq_true rfl⟩

def AttrValue.isId : AttrValue → Bool
  | id _ => true
  | _ => false

theorem AttrValue.isId_iff {v : AttrValue} : v.isId = true ↔ ∃ u, v = .id u := by
  cases v <;> simp [isId]

namespace Condition

/-! ### The instance that is asked for -/

/-- The identifier that a condition asks for in an attribute. -/
def askedId? (c : Condition) (x : Attribute) : Option Uuid :=
  match c.get? x with
  | some (.id u) => some u
  | _ => none

/-- An identifier that every instance of a type has: the one asked for, or else any. -/
def neededId (c : Condition) {entity : Entity} (x : Attribute) : Id entity :=
  ⟨(c.askedId? x).getD ⟨0⟩⟩

/-- An identifier that an instance may have: the one asked for, or else none. -/
def optionalId (c : Condition) {entity : Entity} (x : Attribute) : Option (Id entity) :=
  (c.askedId? x).map Id.mk

/-- The instance of a type that has what a condition asks for, as far as the type carries it. -/
def instanceOf (c : Condition) : SubjectType → Subject
  | .user => .user ⟨c.neededId .id⟩
  | .project =>
      .project ⟨c.neededId .id, c.neededId .ownerId, c.optionalId .organizationId⟩
  | .organization => .organization ⟨c.neededId .id, c.neededId .ownerId⟩
  | .invite =>
      .invite ⟨c.neededId .id, c.neededId .organizationId, c.optionalId .authorId⟩
  | .billing => .billing ⟨c.neededId .organizationId⟩

theorem subjectType_instanceOf (c : Condition) (t : SubjectType) :
    (c.instanceOf t).subjectType = t := by
  cases t <;> rfl

theorem lookup_instanceOf {c : Condition} {t : SubjectType} {x : Attribute} {u : Uuid}
    (hx : x ∈ t.attributes) (hu : c.get? x = some (.id u)) :
    (c.instanceOf t).lookup x = some (.id u) := by
  have hasked : c.askedId? x = some u := by
    rw [askedId?, hu]
  have hneeded : ∀ entity, AttrValue.ofId (c.neededId x : Id entity) = .id u := by
    intro entity
    rw [AttrValue.ofId, neededId, hasked, Option.getD_some]
  have hoptional : ∀ entity,
      (c.optionalId x : Option (Id entity)).map AttrValue.ofId = some (.id u) := by
    intro entity
    rw [optionalId, hasked]
    rfl
  cases t <;> simp only [SubjectType.attributes, List.mem_cons, List.not_mem_nil, or_false] at hx
  case user =>
    subst hx
    exact congrArg some (hneeded _)
  case project =>
    rcases hx with rfl | rfl | rfl
    · exact congrArg some (hneeded _)
    · exact congrArg some (hneeded _)
    · exact hoptional _
  case organization =>
    rcases hx with rfl | rfl
    · exact congrArg some (hneeded _)
    · exact congrArg some (hneeded _)
  case invite =>
    rcases hx with rfl | rfl | rfl
    · exact congrArg some (hneeded _)
    · exact congrArg some (hneeded _)
    · exact hoptional _
  case billing =>
    subst hx
    exact congrArg some (hneeded _)

theorem exists_holds_iff (c : Condition) (t : SubjectType) :
    (∃ s, s.subjectType = t ∧ c.holds s = true) ↔
      ∀ x v, c.get? x = some v → (∃ u, v = .id u) ∧ x ∈ t.attributes := by
  constructor
  · rintro ⟨s, rfl, hs⟩ x v hv
    exact Subject.of_lookup_eq_some (holds_iff.mp hs x v hv)
  · intro h
    refine ⟨c.instanceOf t, c.subjectType_instanceOf t, holds_iff.mpr fun x v hv => ?_⟩
    obtain ⟨⟨u, rfl⟩, hx⟩ := h x v hv
    exact lookup_instanceOf hx hv

/-! ### Conditions for any type -/

/-- A condition asks for identifiers alone, and not for an owner and an author at once. -/
structure Attainable (c : Condition) : Prop where
  identifiers : ∀ x v, c.get? x = some v → ∃ u, v = .id u
  ownerOrAuthor : c.get? .ownerId = none ∨ c.get? .authorId = none

/-- Some type carries all that an attainable condition asks for: invites where it asks for no owner,
and projects where it asks for no author. -/
theorem Attainable.carried {c : Condition} (h : c.Attainable) :
    ∃ t : SubjectType, ∀ x v, c.get? x = some v → x ∈ t.attributes := by
  rcases h.ownerOrAuthor with howner | hauthor
  · refine ⟨.invite, fun x v hv => SubjectType.mem_attributes_of_ne.2 ?_⟩
    rintro rfl
    simp [howner] at hv
  · refine ⟨.project, fun x v hv => SubjectType.mem_attributes_of_ne.1 ?_⟩
    rintro rfl
    simp [hauthor] at hv

theorem attainable_iff_exists (c : Condition) : c.Attainable ↔ ∃ s, c.holds s = true := by
  constructor
  · intro h
    obtain ⟨t, ht⟩ := h.carried
    obtain ⟨s, -, hs⟩ :=
      (c.exists_holds_iff t).mpr fun x v hv => ⟨h.identifiers x v hv, ht x v hv⟩
    exact ⟨s, hs⟩
  · rintro ⟨s, hs⟩
    have hcarried := (c.exists_holds_iff s.subjectType).mp ⟨s, rfl, hs⟩
    have hnone : ∀ x, x ∉ s.subjectType.attributes → c.get? x = none := by
      intro x hx
      cases hv : c.get? x with
      | none => rfl
      | some v => exact absurd (hcarried x v hv).2 hx
    exact ⟨fun x v hv => (hcarried x v hv).1,
      s.subjectType.owner_or_author.imp (hnone .ownerId) (hnone .authorId)⟩

/-- The two demands, checked attribute by attribute. -/
theorem attainable_iff (c : Condition) :
    c.Attainable ↔ (∀ x ∈ Attribute.all, ∀ v ∈ c.get? x, v.isId = true) ∧
      (c.get? .ownerId = none ∨ c.get? .authorId = none) := by
  constructor
  · rintro ⟨hids, hnone⟩
    exact ⟨fun x _ v hv => AttrValue.isId_iff.mpr (hids x v hv), hnone⟩
  · rintro ⟨hids, hnone⟩
    exact ⟨fun x v hv => AttrValue.isId_iff.mp (hids x x.mem_all v hv), hnone⟩

instance decidableAttainable (c : Condition) : Decidable c.Attainable :=
  decidable_of_iff _ c.attainable_iff.symm

/-- A rule that applies somewhere has no condition or one that can hold. -/
theorem attainable_of_applies {r : Rule} {action : Action} {t : SubjectType}
    {instance? : Option Subject} (h : r.applies action t instance? = true) :
    r.condition.all (·.Attainable) = true := by
  cases hcondition : r.condition with
  | none => rfl
  | some c =>
    obtain ⟨s, -, hmet⟩ := (Rule.applies_iff.mp h).met hcondition
    have hattainable := c.attainable_iff_exists.mpr ⟨s, holds_iff.mpr hmet⟩
    exact decide_eq_true hattainable

end Condition

namespace Ability

/-- **Conditions that can hold.** Some instance of a type meets a condition exactly when all that it
asks for are identifiers, in attributes that the type carries; some subject at all meets it exactly
when all that it asks for are identifiers, not of an owner and an author at once. Rules with other
conditions may be left out of a list, all of them: every query has the same answers and is decided
by the same rule. -/
theorem attainable_conditions :
    (∀ (c : Condition) (t : SubjectType), (∃ s, s.subjectType = t ∧ c.holds s = true) ↔
      ∀ x v, c.get? x = some v → (∃ u, v = .id u) ∧ x ∈ t.attributes) ∧
    (∀ c : Condition, (∃ s, c.holds s = true) ↔ c.Attainable) ∧
    ∀ rules : List Rule,
      Interchangeable id rules (rules.filter fun r => r.condition.all (·.Attainable)) := by
  refine ⟨Condition.exists_holds_iff, fun c => c.attainable_iff_exists.symm, fun rules => ?_⟩
  have halike : DecideAlike id rules (rules.filter fun r => r.condition.all (·.Attainable)) :=
    .filter rules fun _ _ _ _ _ happlies => Condition.attainable_of_applies happlies
  exact halike.interchangeable_id

-- a text is not taken for the identifier that it spells
example : ¬ (Condition.empty.insert .id (.text (Uuid.text ⟨7⟩))).Attainable := by decide

end Ability

end Clearance
