import Clearance.Proofs.Ability.Scan

/-!
# Instances as types

What an instance adds to its type is which conditions hold on it. Once that is settled for every
rule, no rule looks at the instance any more: a query about the instance is a query about its bare
type, over the rules whose conditions hold and without these conditions. A query about a bare type
in turn never gets past a condition, and never asks the resolver.
-/

namespace Clearance

namespace Rule

/-- The rule as it would be without a condition. -/
def unconditioned (r : Rule) : Rule :=
  { r with condition := none }

/-- What is left of a rule for one instance: a condition that holds is dropped, and a rule with one
that does not hold is dropped with it. -/
def residual? (s : Subject) (r : Rule) : Option Rule :=
  match r.condition with
  | none => some r
  | some c => if c.holds s then some r.unconditioned else none

@[simp]
theorem outcome_unconditioned (r : Rule) :
    Ability.outcome (some r.unconditioned) = Ability.outcome (some r) :=
  rfl

@[simp]
theorem unconditioned_unconditioned (r : Rule) : r.unconditioned.unconditioned = r.unconditioned :=
  rfl

theorem unconditioned_of_none {r : Rule} (h : r.condition = none) : r.unconditioned = r := by
  rw [unconditioned, ← h]

theorem applies_unconditioned (r : Rule) (action : Action) (t : SubjectType)
    (instance? : Option Subject) :
    r.unconditioned.applies action t instance? =
      (r.subject.covers t && r.action.covers action) := by
  simp [applies, unconditioned, conditionHolds]

/-- Both queries stop at what is left of a rule exactly when the one about the instance stops at the
rule. -/
theorem residual?_filter_applies (s : Subject) (r : Rule) (action : Action) (t : SubjectType) :
    (r.residual? s).filter (fun q => q.applies action t none) =
      if r.applies action t (some s) then some r.unconditioned else none := by
  cases hcondition : r.condition with
  | none =>
    have hsame : r.applies action t none = r.applies action t (some s) := by
      rw [applies, applies, hcondition, conditionHolds, conditionHolds]
    simp only [residual?, hcondition, Option.filter_some, hsame, unconditioned_of_none hcondition]
  | some c =>
    have happlies : r.applies action t (some s) =
        (r.subject.covers t && r.action.covers action && c.holds s) := by
      rw [applies, hcondition, conditionHolds]
    simp only [residual?, hcondition, happlies]
    cases c.holds s with
    | false => simp
    | true => simp [applies_unconditioned, Option.filter_some]

theorem conditionHolds_none (condition : Option Condition) :
    conditionHolds condition none = condition.isNone := by
  cases condition <;> rfl

end Rule

namespace Ability

/-- The rules that are left for one instance, in their order. -/
def specialize (a : Ability) (s : Subject) : Ability :=
  { a with rules := a.rules.filterMap (Rule.residual? s) }

/-- The rules without a condition, in their order, asked with any resolver. -/
def unconditional (a : Ability) (resolver : Resolver) : Ability :=
  { a with rules := a.rules.filter (·.condition.isNone), resolver := resolver }

section

variable (rules : List Rule) (action : Action) (t : SubjectType)

theorem filter_residual (s : Subject) :
    (rules.filterMap (Rule.residual? s)).filter (fun r => r.applies action t none) =
      (rules.filter fun r => r.applies action t (some s)).map Rule.unconditioned := by
  rw [List.filter_filterMap, ← List.filterMap_eq_map, List.filterMap_filter]
  exact congrArg (List.filterMap · rules)
    (funext fun r => r.residual?_filter_applies s action t)

theorem decisive?_residual (s : Subject) :
    decisive? (rules.filterMap (Rule.residual? s)) action t none =
      (decisive? rules action t (some s)).map Rule.unconditioned := by
  rw [decisive?, filter_residual, List.getLast?_map, decisive?]

theorem decisive?_unconditional :
    decisive? (rules.filter (·.condition.isNone)) action t none =
      decisive? rules action t none := by
  rw [decisive?, List.filter_filter, decisive?]
  congr 2
  funext r
  rw [Rule.applies, Rule.conditionHolds_none]
  cases r.condition.isNone <;> simp

end

variable (a : Ability) (action : Action)

theorem specialize_answersAlike {s : Subject} {t : SubjectType} (h : a.resolver s = .ok t) :
    AnswersAlike Rule.unconditioned action a (.subject s) (a.specialize s) (.type t) := by
  refine answersAlike_of_relevantRule Rule.outcome_unconditioned ?_
  have hinstance : a.relevantRule action (.subject s) =
      .ok (decisive? a.rules action t (some s)) := by
    rw [relevantRule_eq, typeOf, h]
    rfl
  have htype : (a.specialize s).relevantRule action (.type t) =
      .ok ((decisive? a.rules action t (some s)).map Rule.unconditioned) := by
    rw [relevantRule_eq, ← decisive?_residual]
    rfl
  rw [hinstance, htype]
  simp [Except.map, Function.comp_def]

theorem unconditional_answersAlike (t : SubjectType) (resolver : Resolver) :
    AnswersAlike id action a (.type t) (a.unconditional resolver) (.type t) := by
  refine answersAlike_of_relevantRule (fun _ => rfl) ?_
  have htype : (a.unconditional resolver).relevantRule action (.type t) =
      a.relevantRule action (.type t) := by
    rw [relevantRule_eq, relevantRule_eq]
    exact congrArg Except.ok (decisive?_unconditional a.rules action t)
  rw [htype]

/-- **Instances as types.** A query about an instance is answered as the one about its type over the
rules that are left for the instance, and the rules that decide the two differ in the condition at
most. A query about a type is answered as over the rules without a condition alone, and with one
resolver as with any other. -/
theorem instance_query_eq_type_query :
    (∀ s, match a.resolver s with
      | .ok t => AnswersAlike Rule.unconditioned action a (.subject s) (a.specialize s) (.type t)
      | .error e => a.FailsWith action (.subject s) e) ∧
    ∀ t resolver,
      AnswersAlike id action a (.type t) (a.unconditional resolver) (.type t) ∧
      AnswersAlike id action a (.type t) { a with resolver := resolver } (.type t) := by
  refine ⟨fun s => ?_, fun t resolver => ⟨unconditional_answersAlike a action t resolver, ?_⟩⟩
  · cases h : a.resolver s with
    | ok t => exact specialize_answersAlike a action h
    | error e => exact failsWith_of_typeOf a action (.subject s) h
  · exact ⟨rfl, rfl, rfl, rfl⟩

end Ability

end Clearance
