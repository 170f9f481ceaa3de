import Clearance.Ability.Policy
import Clearance.Proofs.Ability.Scan

/-!
# Identifiers are only compared

Rules and subjects carry identifiers, and nothing is done with these but to ask whether two are
equal. So the identifiers may be exchanged for others, in rules and subjects alike, as long as
different ones stay different: the same rule decides as before. The policies name no identifier but
the user's, so that what they say for another user is what they say for this one, renamed.
-/

namespace Clearance

/-! ### Renaming -/

section Renaming

variable (f : Uuid → Uuid)

def Id.rename {entity : Entity} (i : Id entity) : Id entity :=
  ⟨f i.uuid⟩

/-- The subject with every identifier renamed. -/
def Subject.rename : Subject → Subject
  | user s => user ⟨s.id.rename f⟩
  | project s =>
      project ⟨s.id.rename f, s.ownerId.rename f, s.organizationId.map (Id.rename f)⟩
  | organization s => organization ⟨s.id.rename f, s.ownerId.rename f⟩
  | invite s =>
      invite ⟨s.id.rename f, s.organizationId.rename f, s.authorId.map (Id.rename f)⟩
  | billing s => billing ⟨s.organizationId.rename f⟩

/-- An identifier is renamed, even where it is the value of a condition; all else stays. -/
def AttrValue.rename : AttrValue → AttrValue
  | id u => id (f u)
  | text s => text s
  | bool b => bool b
  | int n => int n

def Condition.rename (c : Condition) : Condition where
  id := c.id.map (AttrValue.rename f)
  ownerId := c.ownerId.map (AttrValue.rename f)
  organizationId := c.organizationId.map (AttrValue.rename f)
  authorId := c.authorId.map (AttrValue.rename f)

def Rule.rename (r : Rule) : Rule :=
  { r with condition := r.condition.map (Condition.rename f) }

@[simp]
theorem Subject.subjectType_rename (s : Subject) : (s.rename f).subjectType = s.subjectType := by
  cases s <;> rfl

@[simp]
theorem Subject.lookup_rename (s : Subject) (x : Attribute) :
    (s.rename f).lookup x = (s.lookup x).map (AttrValue.rename f) := by
  cases s with
  | user s => cases x <;> rfl
  | project s =>
    obtain ⟨i, owner, _ | organization⟩ := s <;> cases x <;> rfl
  | organization s => cases x <;> rfl
  | invite s =>
    obtain ⟨i, organization, _ | author⟩ := s <;> cases x <;> rfl
  | billing s => cases x <;> rfl

@[simp]
theorem Condition.get?_rename (c : Condition) (x : Attribute) :
    (c.rename f).get? x = (c.get? x).map (AttrValue.rename f) := by
  cases x <;> rfl

@[simp]
theorem Rule.outcome_rename (r : Rule) :
    Ability.outcome (some (r.rename f)) = Ability.outcome (some r) :=
  rfl

end Renaming

/-! ### What renaming keeps -/

section Injective

variable {f : Uuid → Uuid} (hf : Function.Injective f)

include hf

/-- Different values stay different, those of different kinds too. -/
theorem AttrValue.rename_injective : Function.Injective (AttrValue.rename f) := by
  intro v w h
  cases v with
  | id u =>
    cases w with
    | id u' => exact congrArg AttrValue.id (hf (AttrValue.id.inj h))
    | _ => cases h
  | text s =>
    cases w <;> cases h
    rfl
  | bool b =>
    cases w <;> cases h
    rfl
  | int n =>
    cases w <;> cases h
    rfl

theorem Condition.holds_rename (c : Condition) (s : Subject) :
    (c.rename f).holds (s.rename f) = c.holds s := by
  rw [Bool.eq_iff_iff, holds_iff, holds_iff]
  simp only [get?_rename, Subject.lookup_rename, Option.map_eq_some_iff]
  constructor
  · intro h x v hv
    obtain ⟨w, hw, hrenamed⟩ := h x (v.rename f) ⟨v, hv, rfl⟩
    rw [hw, AttrValue.rename_injective hf hrenamed]
  · rintro h x _ ⟨v, hv, rfl⟩
    exact ⟨v, h x v hv, rfl⟩

theorem Rule.applies_rename (r : Rule) (action : Action) (t : SubjectType) (s : Subject) :
    (r.rename f).applies action t (some (s.rename f)) = r.applies action t (some s) := by
  obtain ⟨ruled, subject, condition, inverted, reason⟩ := r
  cases condition with
  | none => rfl
  | some c =>
    have hholds := c.holds_rename hf s
    simp only [rename, Option.map_some, applies, conditionHolds, hholds]

end Injective

namespace Ability

/-- The answers about a renamed subject over renamed rules are the answers as they were, and the
rule that decides is the renamed one at the same place. -/
structure AnswersRenamed (f : Uuid → Uuid) (action : Action) (a : Ability) (target : Target)
    (b : Ability) (target' : Target) : Prop where
  find : b.find action target' = a.find action target
  decide : b.decide action target' = a.decide action target
  can : b.can action target' = a.can action target
  cannot : b.cannot action target' = a.cannot action target
  relevantRule : b.relevantRule action target' =
    (a.relevantRule action target).map (Option.map (Rule.rename f))

section Injective

variable {f : Uuid → Uuid} (hf : Function.Injective f) (rules : List Rule) (action : Action)
  (t : SubjectType) (s : Subject)

include hf

theorem lastApplicable?_rename :
    lastApplicable? (rules.map (Rule.rename f)) action t (some (s.rename f)) =
      lastApplicable? rules action t (some s) := by
  rw [lastApplicable?, lastIndex?_map]
  exact lastIndex?_congr fun r _ => r.applies_rename hf action t s

theorem decisive?_rename :
    decisive? (rules.map (Rule.rename f)) action t (some (s.rename f)) =
      (decisive? rules action t (some s)).map (Rule.rename f) := by
  have hfilter : (fun r => r.applies action t (some (s.rename f))) ∘ Rule.rename f =
      fun r => r.applies action t (some s) :=
    funext fun r => r.applies_rename hf action t s
  rw [decisive?, List.filter_map, hfilter, List.getLast?_map, decisive?]

theorem answersRenamed_of_resolver {a b : Ability} (hrules : b.rules = a.rules.map (Rule.rename f))
    (hresolver : b.resolver (s.rename f) = a.resolver s) :
    AnswersRenamed f action a (.subject s) b (.subject (s.rename f)) := by
  have htype : b.typeOf (.subject (s.rename f)) = a.typeOf (.subject s) := hresolver
  have hfind : b.find action (.subject (s.rename f)) = a.find action (.subject s) := by
    rw [find_eq, find_eq, htype, hrules]
    cases a.typeOf (.subject s) with
    | error e => rfl
    | ok t =>
      exact congrArg (fun index => Except.ok (t, index))
        (lastApplicable?_rename hf a.rules action t s)
  have hrelevant : b.relevantRule action (.subject (s.rename f)) =
      (a.relevantRule action (.subject s)).map (Option.map (Rule.rename f)) := by
    rw [relevantRule_eq, relevantRule_eq, htype, hrules]
    cases a.typeOf (.subject s) with
    | error e => rfl
    | ok t => exact congrArg Except.ok (decisive?_rename hf a.rules action t s)
  have hdecide : b.decide action (.subject (s.rename f)) = a.decide action (.subject s) := by
    rw [decide_eq, decide_eq, hrelevant, map_outcome_map (Rule.outcome_rename f)]
  obtain ⟨hcan, hcannot⟩ := can_cannot_of_decide hdecide
  exact ⟨hfind, hdecide, hcan, hcannot, hrelevant⟩

end Injective

/-- The policies name the user and nobody else. -/
theorem rules_defineAbilityFor_rename (f : Uuid → Uuid) (role : Role) (u : UserId) :
    (defineAbilityFor (u.rename f) role).rules =
      (defineAbilityFor u role).rules.map (Rule.rename f) := by
  cases role <;> rfl

/-- **Identifiers are only compared.** With all identifiers renamed, in the rules as in the
instance, the answers about an instance stay as they are, if only the resolver says of the renamed
instance what was said of the instance before. The rules of a role for a renamed user are the
renamed rules for the user, so that one may do with a renamed instance what the other may do with
the instance. -/
theorem answers_rename {f : Uuid → Uuid} (hf : Function.Injective f) :
    (∀ (a : Ability) (resolver' : Resolver) (action : Action) (s : Subject),
      resolver' (s.rename f) = a.resolver s →
        AnswersRenamed f action a (.subject s)
          { a with rules := a.rules.map (Rule.rename f), resolver := resolver' }
          (.subject (s.rename f))) ∧
    ∀ (role : Role) (u : UserId),
      (defineAbilityFor (u.rename f) role).rules =
          (defineAbilityFor u role).rules.map (Rule.rename f) ∧
        ∀ (action : Action) (s : Subject),
          AnswersRenamed f action (defineAbilityFor u role) (.subject s)
            (defineAbilityFor (u.rename f) role) (.subject (s.rename f)) := by
  refine ⟨fun a resolver' action s h => answersRenamed_of_resolver hf action s rfl h,
    fun role u => ?_⟩
  have hrules := rules_defineAbilityFor_rename f role u
  refine ⟨hrules, fun action s => answersRenamed_of_resolver hf action s hrules ?_⟩
  exact congrArg Except.ok (s.subjectType_rename f)

/-- A project that is frozen for its organization stays so when every identifier is raised by one,
and a member that may update the project as its owner still may. -/
theorem answers_rename_successor :
    let f : Uuid → Uuid := fun u => ⟨u.bits + 1⟩
    let u : UserId := ⟨⟨7⟩⟩
    let s := Subject.project ⟨⟨⟨1⟩⟩, u, some ⟨⟨2⟩⟩⟩
    let a : Ability := ⟨[⟨.manage, .all, some (.ownedBy u), false, none⟩,
      ⟨.update, .type .project, some (Condition.empty.insert .organizationId (.id ⟨2⟩)), true,
        some "frozen"⟩], .byVariant, ⟨false⟩⟩
    let resolver' : Resolver := fun _ => .ok .project
    Function.Injective f ∧ resolver' (s.rename f) = a.resolver s ∧
      AnswersRenamed f .update a (.subject s)
        { a with rules := a.rules.map (Rule.rename f), resolver := resolver' }
        (.subject (s.rename f)) ∧
      a.decide .update (.subject s) = .ok (.denied (some "frozen")) ∧
      AnswersRenamed f .update (defineAbilityFor u .member) (.subject s)
        (defineAbilityFor (u.rename f) .member) (.subject (s.rename f)) ∧
      (defineAbilityFor u .member).can .update (.subject s) = .ok true := by
  intro f u s a resolver'
  have hf : Function.Injective f := by
    intro v w h
    obtain ⟨v⟩ := v
    obtain ⟨w⟩ := w
    have hbits : v + 1 = w + 1 := Uuid.mk.inj h
    rw [BitVec.add_left_inj] at hbits
    rw [hbits]
  exact ⟨hf, rfl, (answers_rename hf).1 a resolver' .update s rfl, rfl,
    ((answers_rename hf).2 .member u).2 .update s, rfl⟩

end Ability

end Clearance
