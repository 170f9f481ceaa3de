import Clearance.Ability.Basic

/-!
# The last rule that applies

An ability searches its rules from the back. Here is what that search finds: the rule at the index
it gives is the last of the rules that apply, so that a rule appended to a list decides every query
it applies to and leaves the others as they were. The rest of the theory reaches the search only
through these facts.
-/

namespace Clearance

section Search

variable {α : Type} {p : α → Bool}

theorem lastIndex?_append (xs ys : List α) :
    lastIndex? p (xs ++ ys) = ((lastIndex? p ys).map (xs.length + ·)).or (lastIndex? p xs) := by
  induction xs with
  | nil => simp [lastIndex?]
  | cons x xs ih =>
    rw [List.cons_append, lastIndex?, ih, lastIndex?]
    cases lastIndex? p ys with
    | none => rfl
    | some i =>
      have hindex : xs.length + i + 1 = xs.length + 1 + i := by omega
      simp [hindex]

theorem lastIndex?_concat (xs : List α) (x : α) :
    lastIndex? p (xs ++ [x]) = if p x then some xs.length else lastIndex? p xs := by
  rw [lastIndex?_append]
  by_cases hx : p x <;> simp [lastIndex?, hx]

/-- Predicates that agree on the elements of a list find the same index in it. -/
theorem lastIndex?_congr {q : α → Bool} {xs : List α} (h : ∀ x ∈ xs, p x = q x) :
    lastIndex? p xs = lastIndex? q xs := by
  induction xs with
  | nil => rfl
  | cons x xs ih =>
    obtain ⟨hx, hxs⟩ := List.forall_mem_cons.mp h
    rw [lastIndex?, ih hxs, hx, lastIndex?]

theorem lastIndex?_map {β : Type} (f : β → α) (xs : List β) :
    lastIndex? p (xs.map f) = lastIndex? (fun x => p (f x)) xs := by
  induction xs with
  | nil => rfl
  | cons x xs ih => rw [List.map_cons, lastIndex?, ih, lastIndex?]

theorem getElem?_of_lastIndex? {xs : List α} {i : Nat} (h : lastIndex? p xs = some i) :
    ∃ x, xs[i]? = some x ∧ p x = true := by
  induction xs generalizing i with
  | nil => simp [lastIndex?] at h
  | cons x xs ih =>
    rw [lastIndex?] at h
    cases hrest : lastIndex? p xs with
    | some j =>
      rw [hrest] at h
      obtain rfl : j + 1 = i := Option.some.inj h
      obtain ⟨y, hy, hp⟩ := ih hrest
      exact ⟨y, by rw [List.getElem?_cons_succ, hy], hp⟩
    | none =>
      rw [hrest] at h
      by_cases hx : p x
      · simp only [hx, if_true, Option.some.injEq] at h
        subst h
        exact ⟨x, rfl, hx⟩
      · simp [hx] at h

theorem lastIndex?_eq_none {xs : List α} (h : lastIndex? p xs = none) : xs.filter p = [] := by
  induction xs with
  | nil => rfl
  | cons x xs ih =>
    rw [lastIndex?] at h
    cases hrest : lastIndex? p xs with
    | some j => rw [hrest] at h; simp at h
    | none =>
      rw [hrest] at h
      have hx : ¬ p x := by
        intro hx
        simp [hx] at h
      rw [List.filter_cons_of_neg hx, ih hrest]

/-- Behind the index that is found nothing satisfies the predicate. -/
theorem eq_false_of_lastIndex?_lt {xs : List α} {i j : Nat} {x : α} (h : lastIndex? p xs = some i)
    (hij : i < j) (hx : xs[j]? = some x) : p x = false := by
  induction xs generalizing i j with
  | nil => simp at hx
  | cons y ys ih =>
    obtain ⟨k, rfl⟩ : ∃ k, j = k + 1 := ⟨j - 1, by omega⟩
    rw [List.getElem?_cons_succ] at hx
    rw [lastIndex?] at h
    cases hrest : lastIndex? p ys with
    | some i' =>
      rw [hrest] at h
      obtain rfl : i' + 1 = i := Option.some.inj h
      exact ih hrest (Nat.lt_of_succ_lt_succ hij) hx
    | none =>
      have hnone := List.filter_eq_nil_iff.mp (lastIndex?_eq_none hrest)
      simpa using hnone x (List.mem_of_getElem? hx)

/-- A predicate that holds of more is not found any earlier. -/
theorem le_lastIndex?_of_imp {q : α → Bool} {xs : List α} {i : Nat}
    (himp : ∀ x, p x = true → q x = true) (hi : lastIndex? p xs = some i) :
    ∃ j, lastIndex? q xs = some j ∧ i ≤ j := by
  obtain ⟨x, hx, hp⟩ := getElem?_of_lastIndex? hi
  cases hj : lastIndex? q xs with
  | none =>
    have hnone := List.filter_eq_nil_iff.mp (lastIndex?_eq_none hj)
    exact absurd (himp x hp) (hnone x (List.mem_of_getElem? hx))
  | some j =>
    refine ⟨j, rfl, Nat.le_of_not_lt fun hlt => ?_⟩
    have hq := eq_false_of_lastIndex?_lt hj hlt hx
    simp [himp x hp] at hq

/-- The element at the index found is the last of those that satisfy the predicate. -/
theorem lastIndex?_bind_getElem? (xs : List α) :
    (lastIndex? p xs).bind (xs[·]?) = (xs.filter p).getLast? := by
  induction xs with
  | nil => rfl
  | cons x xs ih =>
    rw [lastIndex?]
    cases hrest : lastIndex? p xs with
    | some i =>
      obtain ⟨y, hy, -⟩ := getElem?_of_lastIndex? hrest
      have hlast : (xs.filter p).getLast? = some y := by rw [← ih, hrest, Option.bind_some, hy]
      by_cases hx : p x
      · rw [List.filter_cons_of_pos hx, List.getLast?_cons, hlast]
        simpa using hy
      · rw [List.filter_cons_of_neg hx, hlast]
        simpa using hy
    | none =>
      have hnone := lastIndex?_eq_none hrest
      by_cases hx : p x
      · rw [List.filter_cons_of_pos hx, hnone]
        simp [hx]
      · rw [List.filter_cons_of_neg hx, hnone]
        simp [hx]

end Search

namespace Ability

/-- The rule that decides: the last of those that apply. -/
def decisive? (rules : List Rule) (action : Action) (t : SubjectType)
    (instance? : Option Subject) : Option Rule :=
  (rules.filter fun r => r.applies action t instance?).getLast?

theorem decisive?_concat (rules : List Rule) (r : Rule) (action : Action) (t : SubjectType)
    (instance? : Option Subject) :
    decisive? (rules ++ [r]) action t instance? =
      if r.applies action t instance? then some r else decisive? rules action t instance? := by
  rw [decisive?, List.filter_append]
  by_cases h : r.applies action t instance?
  · have hone : [r].filter (fun r => r.applies action t instance?) = [r] := by simp [h]
    rw [hone, List.getLast?_concat, if_pos h]
  · have hnone : [r].filter (fun r => r.applies action t instance?) = [] := by simp [h]
    rw [hnone, List.append_nil, if_neg h, decisive?]

/-- Rules that stand behind others decide before them. -/
theorem decisive?_append (xs ys : List Rule) (action : Action) (t : SubjectType)
    (instance? : Option Subject) :
    decisive? (xs ++ ys) action t instance? =
      (decisive? ys action t instance?).or (decisive? xs action t instance?) := by
  rw [decisive?, List.filter_append, List.getLast?_append, decisive?, decisive?]

theorem lastApplicable?_bind_getElem? (rules : List Rule) (action : Action) (t : SubjectType)
    (instance? : Option Subject) :
    (lastApplicable? rules action t instance?).bind (rules[·]?) =
      decisive? rules action t instance? :=
  lastIndex?_bind_getElem? rules

/-- The rules have no part in what type a target is of. -/
theorem typeOf_rules (rules rules' : List Rule) (resolver : Resolver) (config : AbilityConfig)
    (target : Target) :
    typeOf ⟨rules, resolver, config⟩ target = typeOf ⟨rules', resolver, config⟩ target := by
  cases target <;> rfl

variable (a : Ability) (action : Action) (target : Target)

theorem find_eq :
    a.find action target = (a.typeOf target).map fun t =>
      (t, lastApplicable? a.rules action t target.instance?) := by
  rw [find]
  cases a.typeOf target <;> rfl

theorem relevantRule_eq :
    a.relevantRule action target = (a.typeOf target).map fun t =>
      decisive? a.rules action t target.instance? := by
  rw [relevantRule, find_eq]
  cases a.typeOf target with
  | error e => rfl
  | ok t => exact congrArg Except.ok (lastApplicable?_bind_getElem? a.rules action t _)

theorem find_of_typeOf {action : Action} {target : Target} {t : SubjectType}
    (h : a.typeOf target = .ok t) :
    a.find action target = .ok (t, lastApplicable? a.rules action t target.instance?) := by
  rw [find_eq, h]
  rfl

theorem relevantRule_of_typeOf {action : Action} {target : Target} {t : SubjectType}
    (h : a.typeOf target = .ok t) :
    a.relevantRule action target = .ok ((lastApplicable? a.rules action t target.instance?).bind
      (a.rules[·]?)) := by
  rw [relevantRule_eq, h, lastApplicable?_bind_getElem?]
  rfl

theorem decide_eq :
    a.decide action target = (a.relevantRule action target).map outcome := by
  rw [decide, relevantRule]
  cases a.find action target <;> rfl

theorem can_eq : a.can action target = (a.decide action target).map Decision.isAllowed := by
  rw [can]
  cases a.decide action target <;> rfl

theorem cannot_eq : a.cannot action target = (a.can action target).map (!·) := by
  rw [cannot]
  cases a.can action target <;> rfl

/-! ### Queries with the same answers -/

/-- Two queries, each with an ability of its own, have the same answers. The rules that decide them
look the same to `view`, or neither is decided by a rule. -/
structure AnswersAlike (view : Rule → Rule) (action : Action) (a : Ability) (target : Target)
    (b : Ability) (target' : Target) : Prop where
  decide : a.decide action target = b.decide action target'
  can : a.can action target = b.can action target'
  cannot : a.cannot action target = b.cannot action target'
  relevantRule : (a.relevantRule action target).map (Option.map view) =
    (b.relevantRule action target').map (Option.map view)

theorem outcome_map {view : Rule → Rule} (hview : ∀ r, outcome (some (view r)) = outcome (some r))
    (r? : Option Rule) : outcome (r?.map view) = outcome r? := by
  cases r? with
  | none => rfl
  | some r => exact hview r

theorem map_outcome_map {view : Rule → Rule}
    (hview : ∀ r, outcome (some (view r)) = outcome (some r))
    (answer : Except AbilityError (Option Rule)) :
    (answer.map (Option.map view)).map outcome = answer.map outcome := by
  cases answer with
  | error e => rfl
  | ok r? => exact congrArg Except.ok (outcome_map hview r?)

/-- Whether something is allowed or not is read off the decision. -/
theorem can_cannot_of_decide {action : Action} {a b : Ability} {target target' : Target}
    (hdecide : a.decide action target = b.decide action target') :
    a.can action target = b.can action target' ∧
      a.cannot action target = b.cannot action target' := by
  have hcan : a.can action target = b.can action target' := by rw [can_eq, can_eq, hdecide]
  have hcannot : a.cannot action target = b.cannot action target' := by
    rw [cannot_eq, cannot_eq, hcan]
  exact ⟨hcan, hcannot⟩

/-- All answers come from the rule that decides, so that it is enough to look at that. -/
theorem answersAlike_of_relevantRule {view : Rule → Rule}
    (hview : ∀ r, outcome (some (view r)) = outcome (some r)) {action : Action} {a b : Ability}
    {target target' : Target}
    (h : (a.relevantRule action target).map (Option.map view) =
      (b.relevantRule action target').map (Option.map view)) :
    AnswersAlike view action a target b target' := by
  have hdecide : a.decide action target = b.decide action target' := by
    rw [decide_eq, decide_eq, ← map_outcome_map hview, h, map_outcome_map hview]
  obtain ⟨hcan, hcannot⟩ := can_cannot_of_decide hdecide
  exact ⟨hdecide, hcan, hcannot, h⟩

end Ability

end Clearance
