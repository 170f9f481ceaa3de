import Clearance.Ability.Scan
import Clearance.Proofs.Ability.Search

/-!
# Search and scan agree

The search from the back stops at the first rule that applies; the scan goes through all rules and
lets each that speaks about the query replace the outcome so far. After every prefix of the list the
scan stands where a search of that prefix ends, which is what one step of the scan preserves. So the
two give the same answers to all questions, over any list of rules and with any resolver.
-/

namespace Clearance

/-! ### What a rule speaks about -/

/-- A rule is about the type and the action of a query, and every value it asks for stands on the
instance. Where there is no instance a rule with a condition is about nothing. -/
structure Rule.SpeaksAbout (r : Rule) (action : Action) (t : SubjectType)
    (instance? : Option Subject) : Prop where
  type : r.subject = .all ∨ r.subject = .type t ∨ ∃ types, r.subject = .anyOf types ∧ t ∈ types
  action : r.action = .manage ∨ r.action = action
  condition : r.condition = none ∨ ∃ c s, r.condition = some c ∧ instance? = some s ∧
    ∀ a v, c.get? a = some v → s.lookup a = some v

theorem SubjectMatcher.covers_iff (m : SubjectMatcher) (t : SubjectType) :
    m.covers t = true ↔ m = .all ∨ m = .type t ∨ ∃ types, m = .anyOf types ∧ t ∈ types := by
  cases m <;> simp [covers]

namespace Scan

theorem conditionMet_iff (condition : Option Condition) (instance? : Option Subject) :
    conditionMet condition instance? = true ↔ condition = none ∨ ∃ c s, condition = some c ∧
      instance? = some s ∧ ∀ a v, c.get? a = some v → s.lookup a = some v := by
  cases condition with
  | none => simp [conditionMet]
  | some c =>
    cases instance? with
    | none => simp [conditionMet]
    | some s =>
      simp [conditionMet, Attribute.mem_all, Option.all_eq_true]

theorem speaks_iff (action : Action) (t : SubjectType) (instance? : Option Subject) (r : Rule) :
    speaks action t instance? r = true ↔ r.SpeaksAbout action t instance? := by
  simp only [speaks, Bool.and_eq_true, Bool.or_eq_true, decide_eq_true_eq, conditionMet_iff,
    SubjectMatcher.covers_iff]
  exact ⟨fun ⟨⟨ht, ha⟩, hc⟩ => ⟨ht, ha, hc⟩, fun ⟨ht, ha, hc⟩ => ⟨⟨ht, ha⟩, hc⟩⟩

theorem conditionMet_eq (condition : Option Condition) (instance? : Option Subject) :
    conditionMet condition instance? = Rule.conditionHolds condition instance? := by
  cases condition with
  | none => rfl
  | some c =>
    cases instance? with
    | none => rfl
    | some s =>
      rw [conditionMet, Rule.conditionHolds, Condition.holds, Condition.entries,
        List.all_filterMap]
      refine congrArg Attribute.all.all (funext fun a => ?_)
      cases c.get? a <;> rfl

theorem speaks_eq_applies (action : Action) (t : SubjectType) (instance? : Option Subject)
    (r : Rule) : speaks action t instance? r = r.applies action t instance? := by
  rw [speaks, Rule.applies, conditionMet_eq, Action.covers]

/-! ### One step and a whole pass -/

/-- The state that a search from the back stands for: what the rule it stops at says. -/
def afterSearch (action : Action) (t : SubjectType) (instance? : Option Subject)
    (rules : List Rule) : State :=
  match Ability.lastApplicable? rules action t instance? with
  | none => start
  | some i => (rules[i]?.map fun r => ⟨r.allows, some (i, r)⟩).getD start

variable (action : Action) (t : SubjectType) (instance? : Option Subject)

/-- A scan that stands where the search of the rules so far ends stands there after one more. -/
theorem step_afterSearch (seen : List Rule) (r : Rule) :
    step action t instance? (afterSearch action t instance? seen) r seen.length =
      afterSearch action t instance? (seen ++ [r]) := by
  rw [step, speaks_eq_applies]
  by_cases h : r.applies action t instance?
  · have hfound : Ability.lastApplicable? (seen ++ [r]) action t instance? = some seen.length := by
      rw [Ability.lastApplicable?, lastIndex?_concat, if_pos h]
    rw [if_pos h, afterSearch, hfound]
    simp [Rule.allows]
  · have hfound : Ability.lastApplicable? (seen ++ [r]) action t instance? =
        Ability.lastApplicable? seen action t instance? := by
      rw [Ability.lastApplicable?, lastIndex?_concat, if_neg h, Ability.lastApplicable?]
    rw [if_neg h, afterSearch, afterSearch, hfound]
    cases hindex : Ability.lastApplicable? seen action t instance? with
    | none => rfl
    | some i =>
      obtain ⟨q, hq, -⟩ := getElem?_of_lastIndex? hindex
      have hlt : i < seen.length := (List.getElem?_eq_some_iff.mp hq).1
      simp only [hq, List.getElem?_append_left hlt]

theorem run_afterSearch (seen rest : List Rule) :
    run action t instance? (afterSearch action t instance? seen) seen.length rest =
      afterSearch action t instance? (seen ++ rest) := by
  induction rest generalizing seen with
  | nil => rw [run, List.append_nil]
  | cons r rest ih =>
    have hlength : seen.length + 1 = (seen ++ [r]).length := by simp
    rw [run, step_afterSearch, hlength, ih, List.append_assoc, List.singleton_append]

/-- The whole pass ends where the search does. -/
theorem scan_eq_afterSearch (rules : List Rule) :
    scan rules action t instance? = afterSearch action t instance? rules := by
  simpa [scan, afterSearch, Ability.lastApplicable?, lastIndex?] using
    run_afterSearch action t instance? [] rules

/-! ### What a pass remembers -/

theorem remembered_index (rules : List Rule) :
    (scan rules action t instance?).remembered.map Prod.fst =
      Ability.lastApplicable? rules action t instance? := by
  rw [scan_eq_afterSearch, afterSearch]
  cases hindex : Ability.lastApplicable? rules action t instance? with
  | none => rfl
  | some i =>
    obtain ⟨r, hr, -⟩ := getElem?_of_lastIndex? hindex
    simp [hr]

theorem remembered_rule (rules : List Rule) :
    (scan rules action t instance?).remembered.map Prod.snd =
      Ability.decisive? rules action t instance? := by
  rw [← Ability.lastApplicable?_bind_getElem?, scan_eq_afterSearch, afterSearch]
  cases hindex : Ability.lastApplicable? rules action t instance? with
  | none => rfl
  | some i =>
    obtain ⟨r, hr, -⟩ := getElem?_of_lastIndex? hindex
    simp [hr]

/-- The rule that is remembered stands at the index that is remembered with it. -/
theorem getElem?_of_remembered (rules : List Rule) (i : Nat) (r : Rule)
    (h : (scan rules action t instance?).remembered = some (i, r)) : rules[i]? = some r := by
  have hindex := remembered_index action t instance? rules
  have hrule := remembered_rule action t instance? rules
  rw [h] at hindex hrule
  rw [← Ability.lastApplicable?_bind_getElem?, ← hindex] at hrule
  simpa using hrule.symm

theorem decision_eq (rules : List Rule) :
    (scan rules action t instance?).decision =
      Ability.outcome (Ability.decisive? rules action t instance?) := by
  rw [← remembered_rule, scan_eq_afterSearch, afterSearch]
  cases hindex : Ability.lastApplicable? rules action t instance? with
  | none => rfl
  | some i =>
    obtain ⟨r, hr, -⟩ := getElem?_of_lastIndex? hindex
    cases hallows : r.allows <;> simp [hr, State.decision, Ability.outcome, hallows]

theorem isAllowed_decision (state : State) : state.decision.isAllowed = state.result := by
  cases hresult : state.result <;> simp [State.decision, hresult, Decision.isAllowed]

end Scan

/-! ### The conditions of the search -/

/-- A rule applies to the queries that it speaks about. -/
theorem Rule.applies_iff {r : Rule} {action : Action} {t : SubjectType}
    {instance? : Option Subject} :
    r.applies action t instance? = true ↔ r.SpeaksAbout action t instance? := by
  rw [← Scan.speaks_eq_applies, Scan.speaks_iff]

/-- A rule with a condition speaks about instances alone, and these have every value it asks for. -/
theorem Rule.SpeaksAbout.met {r : Rule} {action : Action} {t : SubjectType}
    {instance? : Option Subject} (h : r.SpeaksAbout action t instance?) {c : Condition}
    (hc : r.condition = some c) :
    ∃ s, instance? = some s ∧ ∀ a v, c.get? a = some v → s.lookup a = some v := by
  rcases h.condition with hnone | ⟨c', s, hc', hs, hmet⟩
  · simp [hc] at hnone
  · obtain rfl : c = c' := Option.some.inj (hc.symm.trans hc')
    exact ⟨s, hs, hmet⟩

theorem Condition.holds_iff {c : Condition} {s : Subject} :
    c.holds s = true ↔ ∀ a v, c.get? a = some v → s.lookup a = some v := by
  have hmet := Scan.conditionMet_iff (some c) (some s)
  rw [Scan.conditionMet_eq, Rule.conditionHolds] at hmet
  simpa using hmet

/-! ### The answers -/

namespace Ability

variable (a : Ability) (action : Action) (target : Target)

/-- All questions about a query are answered, and as a scan that ends in `state` says. -/
structure AnswersAs (t : SubjectType) (state : Scan.State) : Prop where
  find : a.find action target = .ok (t, state.remembered.map Prod.fst)
  can : a.can action target = .ok state.result
  cannot : a.cannot action target = .ok (!state.result)
  decide : a.decide action target = .ok
    (if state.result then .allowed else .denied (state.remembered.bind fun (_, r) => r.reason))
  relevantRule : a.relevantRule action target = .ok (state.remembered.map Prod.snd)
  remembered : ∀ i r, state.remembered = some (i, r) → a.rules[i]? = some r

/-- No question about a query is answered; all come to the same error. -/
structure FailsWith (e : AbilityError) : Prop where
  find : a.find action target = .error e
  can : a.can action target = .error e
  cannot : a.cannot action target = .error e
  decide : a.decide action target = .error e
  relevantRule : a.relevantRule action target = .error e

theorem answersAs_scan {t : SubjectType} (h : a.typeOf target = .ok t) :
    a.AnswersAs action target t (scan a.rules action t target.instance?) := by
  have hrelevant : a.relevantRule action target =
      .ok ((scan a.rules action t target.instance?).remembered.map Prod.snd) := by
    rw [relevantRule_eq, h, Scan.remembered_rule]
    rfl
  have hdecide : a.decide action target =
      .ok (scan a.rules action t target.instance?).decision := by
    rw [decide_eq, hrelevant, Scan.decision_eq, Scan.remembered_rule]
    rfl
  have hcan : a.can action target = .ok (scan a.rules action t target.instance?).result := by
    rw [can_eq, hdecide, ← Scan.isAllowed_decision]
    rfl
  exact {
    find := by
      rw [find_eq, h, Scan.remembered_index]
      rfl
    can := hcan
    cannot := by
      rw [cannot_eq, hcan]
      rfl
    decide := hdecide
    relevantRule := hrelevant
    remembered := Scan.getElem?_of_remembered action t target.instance? a.rules }

theorem failsWith_of_typeOf {e : AbilityError} (h : a.typeOf target = .error e) :
    a.FailsWith action target e := by
  have hrelevant : a.relevantRule action target = .error e := by
    rw [relevantRule_eq, h]
    rfl
  have hdecide : a.decide action target = .error e := by
    rw [decide_eq, hrelevant]
    rfl
  have hcan : a.can action target = .error e := by
    rw [can_eq, hdecide]
    rfl
  exact {
    find := by
      rw [find_eq, h]
      rfl
    can := hcan
    cannot := by
      rw [cannot_eq, hcan]
      rfl
    decide := hdecide
    relevantRule := hrelevant }

/-- **Search and scan agree.** A query about a bare type is always answered, and as the scan of the
rules says, whatever the resolver; a query about an instance is answered so for the type that the
resolver gives, and fails only with the error of the resolver. -/
theorem answers_eq_scan :
    (∀ t, a.AnswersAs action (.type t) t (scan a.rules action t none)) ∧
    (∀ s, match a.resolver s with
      | .ok t => a.AnswersAs action (.subject s) t (scan a.rules action t (some s))
      | .error e => a.FailsWith action (.subject s) e) ∧
    ∀ t instance? r, Scan.speaks action t instance? r = true ↔
      r.SpeaksAbout action t instance? := by
  refine ⟨fun t => answersAs_scan a action (.type t) rfl, fun s => ?_, Scan.speaks_iff action⟩
  cases h : a.resolver s with
  | ok t => exact answersAs_scan a action (.subject s) h
  | error e => exact failsWith_of_typeOf a action (.subject s) h

end Ability

end Clearance
