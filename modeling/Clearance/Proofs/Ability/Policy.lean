import Clearance.Ability.Policy
import Clearance.Proofs.Ability.Search

/-!
# What the policies come to

Each policy is a chain of statements to a builder, and a later statement overrides an earlier one
where both apply. Here every role's chain is brought down to a table: the verdict on an action and a
type, which depends on the user and on the instance only through the question whether the user owns
the instance. `verdict_allow` and `verdict_because` say what one statement adds to the rules before
it; a change to a policy changes its table and the one theorem about it.
-/

namespace Clearance

/-! ### What one statement adds -/

namespace AbilityBuilder

theorem modifyLast_concat {α : Type} (f : α → α) (xs : List α) (x : α) :
    modifyLast f (xs ++ [x]) = xs ++ [f x] := by
  induction xs with
  | nil => rfl
  | cons y ys ih =>
    obtain ⟨z, zs, hz⟩ : ∃ z zs, ys ++ [x] = z :: zs := by
      cases ys with
      | nil => exact ⟨x, [], rfl⟩
      | cons z zs => exact ⟨z, zs ++ [x], rfl⟩
    rw [List.cons_append, hz, modifyLast, ← hz, ih, List.cons_append]

/-- What the rules of a builder come to for a query, were they frozen as they are. -/
def verdict (b : AbilityBuilder) (action : Action) (t : SubjectType)
    (instance? : Option Subject) : Decision :=
  Ability.outcome (Ability.decisive? b.rules action t instance?)

variable (b : AbilityBuilder) (action : Action) (t : SubjectType) (instance? : Option Subject)

theorem verdict_new (config : AbilityConfig) :
    (new config).verdict action t instance? = .denied none :=
  rfl

theorem verdict_push (r : Rule) :
    (b.push r).verdict action t instance? =
      if r.applies action t instance? then Ability.outcome (some r)
      else b.verdict action t instance? := by
  rw [verdict, push, Ability.decisive?_concat]
  by_cases h : r.applies action t instance?
  · rw [if_pos h, if_pos h]
  · rw [if_neg h, if_neg h, verdict]

theorem verdict_allow (ruled : Action) (subject : SubjectMatcher) (condition : Option Condition) :
    (b.allow ruled subject condition).verdict action t instance? =
      if subject.covers t && ruled.covers action &&
        Rule.conditionHolds (normalize condition) instance? then .allowed
      else b.verdict action t instance? := by
  rw [allow, verdict_push]
  rfl

/-- A denial with its reason; the reason belongs to the rule that was appended last. -/
theorem verdict_because (ruled : Action) (subject : SubjectMatcher) (condition : Option Condition)
    (reason : String) :
    ((b.deny ruled subject condition).because reason).verdict action t instance? =
      if subject.covers t && ruled.covers action &&
        Rule.conditionHolds (normalize condition) instance? then .denied (some reason)
      else b.verdict action t instance? := by
  have hpush : (b.deny ruled subject condition).because reason =
      b.push ⟨ruled, subject, normalize condition, true, some reason⟩ := by
    rw [because, deny, push, push, modifyLast_concat]
  rw [hpush, verdict_push]
  rfl

theorem decide_build (resolver : Resolver) (target : Target) :
    (b.build resolver).decide action target =
      ((b.build resolver).typeOf target).map fun t => b.verdict action t target.instance? := by
  rw [Ability.decide_eq, Ability.relevantRule_eq]
  cases (b.build resolver).typeOf target <;> rfl

end AbilityBuilder

/-! ### Ownership -/

/-- Whether a query is about an instance that has the user as its owner. -/
def Target.isOwnedBy (u : UserId) : Target → Bool
  | type _ => false
  | subject s => s.lookup .ownerId = some (.id u.uuid)

theorem conditionHolds_ownedBy (u : UserId) (target : Target) :
    Rule.conditionHolds (AbilityBuilder.normalize (some (Condition.ownedBy u))) target.instance? =
      target.isOwnedBy u := by
  cases target with
  | type t => rfl
  | subject s =>
    have hnormal : AbilityBuilder.normalize (some (Condition.ownedBy u)) =
        some (Condition.ownedBy u) := rfl
    have hentries : (Condition.ownedBy u).entries = [(.ownerId, .id u.uuid)] := rfl
    rw [hnormal, Target.instance?, Rule.conditionHolds, Condition.holds, hentries]
    simp [Target.isOwnedBy]

/-! ### The tables -/

/-- An administrator may do everything, but neither updates nor hands over an organization of
somebody else. -/
def Policy.adminVerdict (action : Action) (t : SubjectType) (own : Bool) : Decision :=
  if t = .organization ∧ action = .update ∧ own = false then
    .denied (some "only the organization owner can update it")
  else if t = .organization ∧ action = .transferOwnership ∧ own = false then
    .denied (some "only the organization owner can transfer ownership")
  else .allowed

/-- A member sees users and projects, creates projects and updates its own; the reason for a denial
is told for deleting a project alone. -/
def Policy.memberVerdict (action : Action) (t : SubjectType) (own : Bool) : Decision :=
  if (action = .get ∧ (t = .user ∨ t = .project)) ∨ (action = .create ∧ t = .project) ∨
      (action = .update ∧ t = .project ∧ own = true) then .allowed
  else if action = .delete ∧ t = .project then .denied (some "members cannot delete projects")
  else .denied none

/-- Billing may be dealt with in every way and nothing else in any. -/
def Policy.billingVerdict (t : SubjectType) : Decision :=
  if t = .billing then .allowed else .denied none

/-- The verdict of a role's policy on an action on a type, for a user that owns the subject or does
not. -/
def Role.verdict : Role → Action → SubjectType → Bool → Decision
  | admin => Policy.adminVerdict
  | member => Policy.memberVerdict
  | billing => fun _ t _ => Policy.billingVerdict t

variable (u : UserId) (config : AbilityConfig) (action : Action) (t : SubjectType)
  (target : Target)

theorem verdict_admin :
    (Policy.admin ⟨u⟩ (AbilityBuilder.new config)).verdict action t target.instance? =
      Policy.adminVerdict action t (target.isOwnedBy u) := by
  simp only [Policy.admin, AbilityBuilder.verdict_allow, AbilityBuilder.verdict_because,
    conditionHolds_ownedBy]
  generalize target.isOwnedBy u = own
  by_cases ht : t = .organization
  · subst ht
    cases action <;> cases own <;> rfl
  · -- the four statements about organizations do not apply, and the first covers everything
    have hcovers : (SubjectMatcher.type .organization).covers t = false := by
      simp [SubjectMatcher.covers, Ne.symm ht]
    simp only [hcovers, Bool.false_and, Bool.false_eq_true, if_false]
    have htable : Policy.adminVerdict action t own = .allowed := by
      rw [Policy.adminVerdict, if_neg fun h => ht h.1, if_neg fun h => ht h.1]
    rw [htable]
    rfl

theorem verdict_member :
    (Policy.member ⟨u⟩ (AbilityBuilder.new config)).verdict action t target.instance? =
      Policy.memberVerdict action t (target.isOwnedBy u) := by
  simp only [Policy.member, AbilityBuilder.verdict_allow, AbilityBuilder.verdict_because,
    conditionHolds_ownedBy, AbilityBuilder.verdict_new]
  generalize target.isOwnedBy u = own
  cases action <;> cases t <;> cases own <;> rfl

theorem verdict_billing :
    (Policy.billing ⟨u⟩ (AbilityBuilder.new config)).verdict action t target.instance? =
      Policy.billingVerdict t := by
  simp only [Policy.billing, AbilityBuilder.verdict_allow, AbilityBuilder.verdict_new]
  cases t <;> rfl

theorem Role.verdict_policy (role : Role) :
    (role.policy ⟨u⟩ (AbilityBuilder.new config)).verdict action t target.instance? =
      role.verdict action t (target.isOwnedBy u) := by
  cases role with
  | admin => exact verdict_admin u config action t target
  | member => exact verdict_member u config action t target
  | billing => exact verdict_billing u config action t target

/-- **What the roles may do.** The ability of a role for a user decides every query as the table of
the role says: about a bare type as about something that the user does not own, and about an
instance for the type that the resolver gives and by its owner. -/
theorem PolicyRegistry.buildAbility_decide (g : PolicyRegistry) (role : Role) :
    (∀ t, (g.buildAbility role ⟨u⟩).decide action (.type t) = .ok (role.verdict action t false)) ∧
    ∀ s, (g.buildAbility role ⟨u⟩).decide action (.subject s) =
      (g.resolver s).map fun t =>
        role.verdict action t (s.lookup .ownerId = some (.id u.uuid)) := by
  constructor
  · intro t
    rw [buildAbility, AbilityBuilder.decide_build]
    exact congrArg Except.ok (role.verdict_policy u g.config action t (.type t))
  · intro s
    rw [buildAbility, AbilityBuilder.decide_build]
    exact congrArg (Except.map · (g.resolver s)) (funext fun t =>
      role.verdict_policy u g.config action t (.subject s))

end Clearance
