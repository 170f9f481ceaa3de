import Clearance.Proofs.Ability.Congruence
import Clearance.Proofs.Ability.Widening

/-!
# Shadowed rules

A rule never gets to decide where a later rule applies to all that it applies to. Whether a rule is
shadowed so can be told from the two rules alone: the later one is about the same action or about
all, covers the types of the earlier one, and has no condition. A condition of the earlier rule does
not matter, and neither do grants and denials: the shadowed rule may be left out.
-/

namespace Clearance

/-- The second rule is about all that the first is about, under no condition. -/
structure Rule.ShadowedBy (r r' : Rule) : Prop where
  unconditioned : r'.condition = none
  action : r'.action = r.action ∨ r'.action = .manage
  types : ∀ t, r.subject.covers t = true → r'.subject.covers t = true

theorem Rule.ShadowedBy.within {r r' : Rule} (h : r.ShadowedBy r') : r.Within r' := by
  refine within_iff.mpr fun action t _ hspeaks => ⟨?_, ?_, .inl h.unconditioned⟩
  · rw [← SubjectMatcher.covers_iff]
    exact h.types t ((SubjectMatcher.covers_iff r.subject t).mpr hspeaks.type)
  · rcases h.action with hsame | hmanage
    · rw [hsame]
      exact hspeaks.action
    · exact .inl hmanage

/-- A rule about every action and every type, under no condition. -/
structure Rule.Sweeping (r : Rule) : Prop where
  unconditioned : r.condition = none
  action : r.action = .manage
  types : r.subject = .all

theorem Rule.Sweeping.shadows {r' : Rule} (h : r'.Sweeping) (r : Rule) : r.ShadowedBy r' where
  unconditioned := h.unconditioned
  action := .inr h.action
  types _ _ := by rw [h.types, SubjectMatcher.covers]

theorem Rule.Sweeping.applies {r : Rule} (h : r.Sweeping) (action : Action) (t : SubjectType)
    (instance? : Option Subject) : r.applies action t instance? = true :=
  applies_iff.mpr ⟨.inl h.types, .inl h.action, .inl h.unconditioned⟩

namespace Ability

/-- Rules that apply only where a rule behind them applies are never reached by the search. -/
theorem decideAlike_of_within {dead live : List Rule}
    (h : ∀ r ∈ dead, ∃ r' ∈ live, r.Within r') : DecideAlike id (dead ++ live) live := by
  intro action t instance?
  rw [decisive?_append]
  cases hdead : decisive? dead action t instance? with
  | none => rw [Option.or_none]
  | some r =>
    obtain ⟨hr, happlies⟩ := of_decisive?_eq_some hdead
    obtain ⟨r', hr', hwithin⟩ := h r hr
    cases hlive : decisive? live action t instance? with
    | none =>
      have hnone := decisive?_eq_none_iff.mp hlive r' hr'
      exact absurd (hwithin action t instance? happlies) hnone
    | some q => rw [Option.some_or]

/-- The rule at an index decides a query, and the answers are what it says by itself. -/
structure DecidedBy (a : Ability) (action : Action) (target : Target) (t : SubjectType)
    (index : Nat) (r : Rule) : Prop where
  find : a.find action target = .ok (t, some index)
  decide : a.decide action target = .ok (if r.inverted then .denied r.reason else .allowed)
  can : a.can action target = .ok (!r.inverted)
  cannot : a.cannot action target = .ok r.inverted
  relevantRule : a.relevantRule action target = .ok (some r)

theorem outcome_some (r : Rule) :
    outcome (some r) = if r.inverted then .denied r.reason else .allowed := by
  rw [outcome, Rule.allows]
  cases r.inverted <;> rfl

/-- The last rule decides the queries that it applies to. -/
theorem decidedBy_concat {a : Ability} {xs : List Rule} {r : Rule} {action : Action}
    {target : Target} {t : SubjectType} (hrules : a.rules = xs ++ [r])
    (ht : a.typeOf target = .ok t) (happlies : r.applies action t target.instance? = true) :
    a.DecidedBy action target t xs.length r := by
  have hindex : lastApplicable? a.rules action t target.instance? = some xs.length := by
    rw [hrules, lastApplicable?, lastIndex?_concat, if_pos happlies]
  have hrelevant : a.relevantRule action target = .ok (some r) := by
    rw [relevantRule_of_typeOf a ht, lastApplicable?_bind_getElem?, hrules, decisive?_concat,
      if_pos happlies]
  have hdecide : a.decide action target =
      .ok (if r.inverted then .denied r.reason else .allowed) := by
    rw [decide_eq, hrelevant, ← outcome_some]
    rfl
  have hcan : a.can action target = .ok (!r.inverted) := by
    rw [can_eq, hdecide]
    cases r.inverted <;> rfl
  exact {
    find := by rw [find_of_typeOf a ht, hindex]
    decide := hdecide
    can := hcan
    cannot := by
      rw [cannot_eq, hcan]
      cases r.inverted <;> rfl
    relevantRule := hrelevant }

/-- **Shadowed rules are dead.** A rule that a later one shadows can be left out, wherever the two
stand and whatever stands around them: every query is decided by the same rule as before. A last
rule about everything shadows all rules before it, so that it decides alone whatever the resolver
can tell the type of. -/
theorem shadowed_rules_dead (xs : List Rule) :
    (∀ r ys, (∃ r' ∈ ys, r.ShadowedBy r') → Interchangeable id (xs ++ [r] ++ ys) (xs ++ ys)) ∧
    ∀ r : Rule, r.Sweeping →
      Interchangeable id (xs ++ [r]) [r] ∧
      ∀ resolver config action target,
        let a : Ability := ⟨xs ++ [r], resolver, config⟩
        match a.typeOf target with
        | .ok t => a.DecidedBy action target t xs.length r
        | .error e => a.FailsWith action target e := by
  refine ⟨fun r ys ⟨r', hr', hshadowed⟩ => ?_, fun r hsweeping => ⟨?_, ?_⟩⟩
  · have hdead : DecideAlike id ([r] ++ ys) ys := by
      refine decideAlike_of_within fun q hq => ⟨r', hr', ?_⟩
      rw [List.mem_singleton.mp hq]
      exact hshadowed.within
    rw [List.append_assoc]
    exact ((DecideAlike.refl xs).append hdead).interchangeable_id
  · have hdead : DecideAlike id (xs ++ [r]) [r] :=
      decideAlike_of_within fun q _ =>
        ⟨r, List.mem_singleton_self r, (hsweeping.shadows q).within⟩
    exact hdead.interchangeable_id
  · intro resolver config action target a
    cases ht : a.typeOf target with
    | ok t => exact decidedBy_concat rfl ht (hsweeping.applies action t target.instance?)
    | error e => exact failsWith_of_typeOf a action target ht

/-- An owner's right to update a project is dead behind the freeze of projects that comes later, two
rules on; and all are dead once nothing is allowed any more. -/
theorem shadowed_rules_dead_frozen :
    let u : UserId := ⟨⟨7⟩⟩
    let s := Subject.project ⟨⟨⟨1⟩⟩, u, none⟩
    let xs : List Rule := [⟨.get, .all, none, false, none⟩]
    let r : Rule := ⟨.update, .type .project, some (.ownedBy u), false, none⟩
    let freeze : Rule := ⟨.manage, .anyOf [.invite, .project], none, true, some "frozen"⟩
    let ys : List Rule := [⟨.delete, .type .invite, none, false, none⟩, freeze]
    let closed : Rule := ⟨.manage, .all, none, true, some "closed"⟩
    let ability := fun rules => Ability.mk rules .byVariant .default
    ((∃ r' ∈ ys, r.ShadowedBy r') ∧ Interchangeable id (xs ++ [r] ++ ys) (xs ++ ys) ∧
        r.applies .update .project (some s) = true ∧
        (ability (xs ++ [r] ++ ys)).decide .update (.subject s) = .ok (.denied (some "frozen"))) ∧
      closed.Sweeping ∧ Interchangeable id (xs ++ [r] ++ [closed]) [closed] ∧
        (ability (xs ++ [r] ++ [closed])).DecidedBy .get (.subject s) .project 2 closed := by
  intro u s xs r freeze ys closed ability
  have htypes : ∀ t, r.subject.covers t = true → freeze.subject.covers t = true := by
    intro t ht
    cases t with
    | project => rfl
    | _ => cases ht
  have hshadowed : ∃ r' ∈ ys, r.ShadowedBy r' :=
    ⟨freeze, List.mem_cons_of_mem _ (List.mem_singleton_self freeze), rfl, .inr rfl, htypes⟩
  have hsweeping : closed.Sweeping := ⟨rfl, rfl, rfl⟩
  obtain ⟨hall, hdecided⟩ := (shadowed_rules_dead (xs ++ [r])).2 closed hsweeping
  exact ⟨⟨hshadowed, (shadowed_rules_dead xs).1 r ys hshadowed, rfl, rfl⟩, hsweeping,
    hall, hdecided .byVariant .default .get (.subject s)⟩

end Ability

end Clearance
