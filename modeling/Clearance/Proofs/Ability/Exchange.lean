import Clearance.Proofs.Ability.Congruence
import Clearance.Proofs.Ability.Widening

/-!
# When the order of rules does not matter

Later rules override earlier ones, so that the order of rules is part of what they say. There are
two exceptions. Among rules that all grant or all deny, any of those that apply gives the same
truth, and they may be put in any order; the reason for a denial may then be another one. And two
rules that never apply to the same query never compete: these may change places without any trace.
-/

namespace Clearance

namespace Rule

/-! ### Rules that never meet -/

/-- There is no query that both rules apply to. -/
def NeverMeets (p q : Rule) : Prop :=
  ∀ action t instance?, ¬ (p.applies action t instance? ∧ q.applies action t instance?)

/-- What shows that two rules never meet: no type is covered by both, they are about two actions
neither of which is the wildcard, or their conditions ask for different values of one attribute. -/
inductive Apart (p q : Rule) : Prop where
  | types (disjoint : ∀ t, ¬ (p.subject.covers t = true ∧ q.subject.covers t = true))
  | actions (one : p.action ≠ .manage) (other : q.action ≠ .manage) (differ : p.action ≠ q.action)
  | values (c d : Condition) (x : Attribute) (v w : AttrValue) (one : p.condition = some c)
      (other : q.condition = some d) (asked : c.get? x = some v) (asked' : d.get? x = some w)
      (differ : v ≠ w)

theorem Apart.neverMeets {p q : Rule} (h : p.Apart q) : p.NeverMeets q := by
  rintro action t instance? ⟨hp, hq⟩
  rw [applies_iff] at hp hq
  cases h with
  | types hdisjoint =>
    refine hdisjoint t ⟨?_, ?_⟩
    · exact (SubjectMatcher.covers_iff p.subject t).mpr hp.type
    · exact (SubjectMatcher.covers_iff q.subject t).mpr hq.type
  | actions hone hother hdiffer =>
    have hpa : p.action = action := hp.action.resolve_left hone
    have hqa : q.action = action := hq.action.resolve_left hother
    exact hdiffer (hpa.trans hqa.symm)
  | values c d x v w hc hd hv hw hdiffer =>
    obtain ⟨s, hs, hmet⟩ := hp.met hc
    obtain ⟨s', hs', hmet'⟩ := hq.met hd
    obtain rfl : s = s' := Option.some.inj (hs.symm.trans hs')
    exact hdiffer (Option.some.inj ((hmet x v hv).symm.trans (hmet' x w hw)))

end Rule

namespace Ability

/-! ### Lists that allow the same -/

/-- Abilities that differ in these rules alone allow the same and deny the same. -/
structure AllowAlike (rules rules' : List Rule) : Prop where
  can : ∀ resolver config action target,
    can ⟨rules, resolver, config⟩ action target = can ⟨rules', resolver, config⟩ action target
  cannot : ∀ resolver config action target,
    cannot ⟨rules, resolver, config⟩ action target =
      cannot ⟨rules', resolver, config⟩ action target

theorem permits_eq (rules : List Rule) (action : Action) (t : SubjectType)
    (instance? : Option Subject) :
    permits rules action t instance? =
      ((decisive? rules action t instance?).map Rule.allows).getD false := by
  rw [permits]
  cases decisive? rules action t instance? with
  | none => rfl
  | some r => exact isAllowed_outcome r

theorem DecideAlike.allowAlike {rules rules' : List Rule}
    (h : DecideAlike Rule.allows rules rules') : AllowAlike rules rules' := by
  have hcan : ∀ resolver config action target,
      can ⟨rules, resolver, config⟩ action target =
        can ⟨rules', resolver, config⟩ action target := by
    intro resolver config action target
    rw [can_eq_permits, can_eq_permits, typeOf_rules rules rules']
    refine congrArg (Except.map · _) (funext fun t => ?_)
    rw [permits_eq, permits_eq, h action t target.instance?]
  refine ⟨hcan, fun resolver config action target => ?_⟩
  rw [cannot_eq, cannot_eq, hcan]

/-! ### Exchanging rules -/

/-- Of rules of one kind, whichever comes last says the same. -/
theorem decideAlike_of_perm {inverted : Bool} {run run' : List Rule}
    (hrun : ∀ r ∈ run, r.inverted = inverted) (hperm : run.Perm run') :
    DecideAlike Rule.allows run run' := by
  have hallows : ∀ r ∈ run, r.allows = !inverted := fun r hr => congrArg not (hrun r hr)
  refine .of_uniform hallows (fun r hr => hallows r (hperm.mem_iff.mpr hr)) fun _ _ _ => ?_
  simp only [hperm.mem_iff]

theorem decideAlike_of_neverMeets {p q : Rule} (h : p.NeverMeets q) :
    DecideAlike id [p, q] [q, p] := by
  intro action t instance?
  change (decisive? ([p] ++ [q]) action t instance?).map id =
    (decisive? ([q] ++ [p]) action t instance?).map id
  simp only [decisive?_append, decisive?_singleton]
  by_cases hp : p.applies action t instance?
  · have hq : ¬ q.applies action t instance? := fun hq => h action t instance? ⟨hp, hq⟩
    rw [if_neg hq, Option.none_or, Option.or_none]
  · rw [if_neg hp, Option.none_or, Option.or_none]

/-- **When the order of rules does not matter.** Two neighbours that both grant or both deny may
change places as far as it is asked what is allowed, and so may all rules of a run of such rules, or
of a whole list. Two neighbours that never meet may change places for every question. -/
theorem order_of_rules (xs ys : List Rule) :
    (∀ p q : Rule, p.inverted = q.inverted →
      AllowAlike (xs ++ [p, q] ++ ys) (xs ++ [q, p] ++ ys)) ∧
    (∀ (inverted : Bool) (run run' : List Rule), (∀ r ∈ run, r.inverted = inverted) →
      run.Perm run' → AllowAlike (xs ++ run ++ ys) (xs ++ run' ++ ys)) ∧
    (∀ (inverted : Bool) (rules rules' : List Rule), (∀ r ∈ rules, r.inverted = inverted) →
      rules.Perm rules' → AllowAlike rules rules') ∧
    (∀ p q : Rule, p.Apart q → p.NeverMeets q) ∧
    ∀ p q : Rule, p.NeverMeets q →
      Interchangeable id (xs ++ [p, q] ++ ys) (xs ++ [q, p] ++ ys) := by
  refine ⟨fun p q hsame => ?_, fun _ _ _ hrun hperm => ?_, fun _ _ _ hrules hperm => ?_,
    fun _ _ => Rule.Apart.neverMeets, fun p q hmeets => ?_⟩
  · have hpair : ∀ r ∈ [p, q], r.inverted = q.inverted := by
      simp [hsame]
    exact ((decideAlike_of_perm hpair (.swap q p [])).between xs ys).allowAlike
  · exact ((decideAlike_of_perm hrun hperm).between xs ys).allowAlike
  · exact (decideAlike_of_perm hrules hperm).allowAlike
  · exact ((decideAlike_of_neverMeets hmeets).between xs ys).interchangeable_id

/-- Three denials turned around before a grant, and neighbours of two kinds that change places since
they are about different types, about different actions or about different owners. -/
theorem order_of_rules_denials :
    let u : UserId := ⟨⟨7⟩⟩
    let v : UserId := ⟨⟨8⟩⟩
    let xs : List Rule := [⟨.manage, .all, none, false, none⟩]
    let ys : List Rule := [⟨.get, .type .user, none, false, none⟩]
    let closed : Rule := ⟨.manage, .type .project, none, true, some "closed"⟩
    let kept : Rule := ⟨.delete, .all, none, true, some "kept"⟩
    let frozen : Rule := ⟨.update, .anyOf [.project, .invite], none, true, some "frozen"⟩
    let billed : Rule := ⟨.manage, .type .billing, none, false, none⟩
    let edited : Rule := ⟨.update, .all, none, false, none⟩
    let own : Rule := ⟨.manage, .all, some (.ownedBy u), false, none⟩
    let foreign : Rule := ⟨.manage, .all, some (.ownedBy v), true, some "foreign"⟩
    (closed.inverted = kept.inverted ∧
        AllowAlike (xs ++ [closed, kept] ++ ys) (xs ++ [kept, closed] ++ ys)) ∧
      ((∀ r ∈ [closed, kept, frozen], r.inverted = true) ∧
        [closed, kept, frozen].Perm [frozen, kept, closed] ∧
        AllowAlike (xs ++ [closed, kept, frozen] ++ ys) (xs ++ [frozen, kept, closed] ++ ys) ∧
        AllowAlike [closed, kept, frozen] [frozen, kept, closed]) ∧
      (closed.Apart billed ∧ closed.NeverMeets billed ∧
        Interchangeable id (xs ++ [closed, billed] ++ ys) (xs ++ [billed, closed] ++ ys)) ∧
      (kept.Apart edited ∧ kept.NeverMeets edited ∧
        Interchangeable id (xs ++ [kept, edited] ++ ys) (xs ++ [edited, kept] ++ ys)) ∧
      own.Apart foreign ∧ own.NeverMeets foreign ∧
        Interchangeable id (xs ++ [own, foreign] ++ ys) (xs ++ [foreign, own] ++ ys) := by
  intro u v xs ys closed kept frozen billed edited own foreign
  obtain ⟨hswap, hrun, hlist, hapart, hmeets⟩ := order_of_rules xs ys
  have hdenials : ∀ r ∈ [closed, kept, frozen], r.inverted = true := by
    simp [closed, kept, frozen]
  have hperm : [closed, kept, frozen].Perm [frozen, kept, closed] :=
    List.reverse_perm [frozen, kept, closed]
  have htypes : closed.Apart billed := by
    refine .types fun t ht => ?_
    cases t <;> simp [closed, billed, SubjectMatcher.covers] at ht
  have hactions : kept.Apart edited := .actions (by decide) (by decide) (by decide)
  have hvalues : own.Apart foreign :=
    .values (.ownedBy u) (.ownedBy v) .ownerId (.id ⟨7⟩) (.id ⟨8⟩) rfl rfl rfl rfl (by decide)
  exact ⟨⟨rfl, hswap closed kept rfl⟩,
    ⟨hdenials, hperm, hrun true _ _ hdenials hperm, hlist true _ _ hdenials hperm⟩,
    ⟨htypes, hapart _ _ htypes, hmeets _ _ (hapart _ _ htypes)⟩,
    ⟨hactions, hapart _ _ hactions, hmeets _ _ (hapart _ _ hactions)⟩,
    hvalues, hapart _ _ hvalues, hmeets _ _ (hapart _ _ hvalues)⟩

end Ability

end Clearance
