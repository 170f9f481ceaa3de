import Clearance.Proofs.Ability.Scan

/-!
# Wider rules

A rule between others decides the queries that it applies to, unless a rule behind it does, and
makes no difference to the rest (`permits_between`). So a wider grant in its place can only allow
more, and a wider denial can only deny more, wherever in the list it stands. Wider is what applies
to more queries; what that means for the parts of a rule is said first.
-/

namespace Clearance

/-! ### Rules that apply to more -/

/-- Whatever the first rule applies to, the second applies to as well. -/
def Rule.Within (r r' : Rule) : Prop :=
  ∀ action t instance?, r.applies action t instance? = true → r'.applies action t instance? = true

/-- The first condition asks for nothing that the second does not ask for. -/
def Condition.LaxerThan (c c' : Condition) : Prop :=
  ∀ x v, c.get? x = some v → c'.get? x = some v

theorem Condition.laxerThan_insert {c : Condition} {x : Attribute} (hx : c.get? x = none)
    (v : AttrValue) : c.LaxerThan (c.insert x v) := by
  intro y w hw
  have hne : x ≠ y := by
    rintro rfl
    simp [hx] at hw
  rw [get?_insert, if_neg hne, hw]

namespace Rule

theorem within_iff {r r' : Rule} : r.Within r' ↔ ∀ action t instance?,
    r.SpeaksAbout action t instance? → r'.SpeaksAbout action t instance? := by
  simp only [Within, applies_iff]

variable (r : Rule)

theorem within_manage : r.Within { r with action := .manage } :=
  within_iff.mpr fun _ _ _ h => ⟨h.type, .inl rfl, h.condition⟩

theorem within_matcher {m : SubjectMatcher}
    (hm : ∀ t, r.subject.covers t = true → m.covers t = true) :
    r.Within { r with subject := m } := by
  refine within_iff.mpr fun _ t _ h => ⟨?_, h.action, h.condition⟩
  rw [← SubjectMatcher.covers_iff]
  exact hm t ((SubjectMatcher.covers_iff r.subject t).mpr h.type)

theorem within_laxer {c c' : Condition} (hc : r.condition = some c) (hlaxer : c'.LaxerThan c) :
    r.Within { r with condition := some c' } := by
  refine within_iff.mpr fun _ _ instance? h => ⟨h.type, h.action, .inr ?_⟩
  obtain ⟨s, hs, hmet⟩ := h.met hc
  exact ⟨c', s, rfl, hs, fun x v hv => hmet x v (hlaxer x v hv)⟩

theorem within_unconditioned : r.Within { r with condition := none } :=
  within_iff.mpr fun _ _ _ h => ⟨h.type, h.action, .inl rfl⟩

theorem insert_within {c : Condition} {x : Attribute} (hc : r.condition = some c)
    (hx : c.get? x = none) (v : AttrValue) :
    { r with condition := some (c.insert x v) }.Within r := by
  have hlaxer := within_laxer { r with condition := some (c.insert x v) } rfl
    (Condition.laxerThan_insert hx v)
  rwa [← hc] at hlaxer

end Rule

/-! ### A rule among others -/

namespace Ability

/-- Whether rules allow a query. -/
def permits (rules : List Rule) (action : Action) (t : SubjectType)
    (instance? : Option Subject) : Bool :=
  (outcome (decisive? rules action t instance?)).isAllowed

theorem can_eq_permits (a : Ability) (action : Action) (target : Target) :
    a.can action target =
      (a.typeOf target).map fun t => permits a.rules action t target.instance? := by
  rw [can_eq, decide_eq, relevantRule_eq]
  cases a.typeOf target <;> rfl

theorem isAllowed_outcome (r : Rule) : (outcome (some r)).isAllowed = r.allows := by
  rw [outcome]
  cases h : r.allows <;> simp [Decision.isAllowed]

variable (xs ys : List Rule) (action : Action) (t : SubjectType) (instance? : Option Subject)

theorem permits_between (r : Rule) :
    permits (xs ++ [r] ++ ys) action t instance? =
      if (decisive? ys action t instance?).isNone && r.applies action t instance? then r.allows
      else permits (xs ++ ys) action t instance? := by
  rw [permits, permits, decisive?_append, decisive?_concat, decisive?_append]
  cases decisive? ys action t instance? with
  | some q => simp
  | none =>
    by_cases hr : r.applies action t instance?
    · simp [hr, isAllowed_outcome]
    · simp [hr]

theorem permits_of_within {r r' : Rule} (hallows : r'.allows = r.allows) (hwithin : r.Within r')
    (h : permits (xs ++ [r] ++ ys) action t instance? = r.allows) :
    permits (xs ++ [r'] ++ ys) action t instance? = r.allows := by
  rw [permits_between] at h ⊢
  cases hlast : (decisive? ys action t instance?).isNone with
  | false => simpa [hlast] using h
  | true =>
    by_cases hr' : r'.applies action t instance?
    · simp [hr', hallows]
    · have hr : ¬ r.applies action t instance? := fun hr => hr' (hwithin action t instance? hr)
      simpa [hr, hr'] using h

theorem permits_of_inserted {r : Rule}
    (h : permits (xs ++ ys) action t instance? = r.allows) :
    permits (xs ++ [r] ++ ys) action t instance? = r.allows := by
  rw [permits_between, h, ite_self]

/-- Every query that one ability answers with `truth`, the other answers with it too. -/
def Keeps (truth : Bool) (a b : Ability) : Prop :=
  ∀ action target, a.can action target = .ok truth → b.can action target = .ok truth

theorem keeps_of_permits {truth : Bool} {rules rules' : List Rule} (resolver : Resolver)
    (config : AbilityConfig)
    (h : ∀ action t instance?, permits rules action t instance? = truth →
      permits rules' action t instance? = truth) :
    Keeps truth ⟨rules, resolver, config⟩ ⟨rules', resolver, config⟩ := by
  intro action target hcan
  rw [can_eq_permits] at hcan ⊢
  rw [typeOf_rules rules' rules]
  cases ht : typeOf ⟨rules, resolver, config⟩ target with
  | error e => simp [ht, Except.map] at hcan
  | ok t =>
    rw [ht] at hcan
    exact congrArg Except.ok (h action t target.instance? (Except.ok.inj hcan))

/-- **Wider rules.** Wherever a rule stands, a wider one of its kind in its place keeps what a grant
allows allowed and what a denial denies denied, and so does one that is added. A rule gets wider
with the action that covers all, with a matcher that covers more and with a condition that asks for
less or none at all; it gets narrower with a constraint on one more attribute. -/
theorem permissions_monotone (resolver : Resolver) (config : AbilityConfig) (xs ys : List Rule) :
    let ability := fun rules => Ability.mk rules resolver config
    (∀ r r' : Rule, r'.inverted = r.inverted → r.Within r' →
      Keeps r.allows (ability (xs ++ [r] ++ ys)) (ability (xs ++ [r'] ++ ys))) ∧
    (∀ r : Rule, Keeps r.allows (ability (xs ++ ys)) (ability (xs ++ [r] ++ ys))) ∧
    (∀ r : Rule, r.Within { r with action := .manage }) ∧
    (∀ (r : Rule) (m : SubjectMatcher),
      (∀ t, r.subject.covers t = true → m.covers t = true) → r.Within { r with subject := m }) ∧
    (∀ (r : Rule) (c c' : Condition), r.condition = some c → c'.LaxerThan c →
      r.Within { r with condition := some c' }) ∧
    (∀ r : Rule, r.Within { r with condition := none }) ∧
    ∀ (r : Rule) (c : Condition) (x : Attribute) (v : AttrValue), r.condition = some c →
      c.get? x = none → { r with condition := some (c.insert x v) }.Within r := by
  refine ⟨fun r r' hinverted hwithin => ?_, fun r => ?_, Rule.within_manage,
    fun r _ hm => r.within_matcher hm, fun r _ _ hc hlaxer => r.within_laxer hc hlaxer,
    Rule.within_unconditioned, fun r _ _ v hc hx => r.insert_within hc hx v⟩
  · have hallows : r'.allows = r.allows := congrArg not hinverted
    exact keeps_of_permits resolver config fun action t instance? =>
      permits_of_within xs ys action t instance? hallows hwithin
  · exact keeps_of_permits resolver config fun action t instance? =>
      permits_of_inserted xs ys action t instance?

/-- An owner's right to update a project is widened in each way, between a denial in front and one
behind; the denial of deleting invites comes to stand for everything that is deleted. -/
theorem permissions_monotone_projects :
    let u : UserId := ⟨⟨7⟩⟩
    let c := Condition.ownedBy u
    let xs : List Rule := [⟨.manage, .type .project, none, true, some "projects are closed"⟩]
    let ys : List Rule := [⟨.delete, .type .invite, none, true, none⟩]
    let grant : Rule := ⟨.update, .type .project, some c, false, none⟩
    let denial : Rule := ⟨.delete, .type .project, none, true, none⟩
    let ability := fun rules => Ability.mk rules .byVariant .default
    let s := Subject.project ⟨⟨⟨1⟩⟩, u, none⟩
    (({ grant with action := .manage }.inverted = grant.inverted ∧
        grant.Within { grant with action := .manage }) ∧
      Keeps true (ability (xs ++ [grant] ++ ys))
        (ability (xs ++ [{ grant with action := .manage }] ++ ys)) ∧
      (ability (xs ++ [grant] ++ ys)).can .update (.subject s) = .ok true) ∧
    (({ denial with subject := .all }.inverted = denial.inverted ∧
        denial.Within { denial with subject := .all }) ∧
      Keeps false (ability (xs ++ [denial] ++ ys))
        (ability (xs ++ [{ denial with subject := .all }] ++ ys)) ∧
      (ability (xs ++ [denial] ++ ys)).can .delete (.subject s) = .ok false) ∧
    ((∀ t, grant.subject.covers t = true →
        (SubjectMatcher.anyOf [.user, .project]).covers t = true) ∧
      grant.Within { grant with subject := .anyOf [.user, .project] }) ∧
    ((grant.condition = some c ∧ Condition.empty.LaxerThan c) ∧
      grant.Within { grant with condition := some .empty }) ∧
    (grant.condition = some c ∧ c.get? .organizationId = none) ∧
      { grant with condition := some (c.insert .organizationId (.id ⟨2⟩)) }.Within grant := by
  intro u c xs ys grant denial ability s
  obtain ⟨hreplaced, -, hmanage, hmatcher, hlaxer, -, hinsert⟩ :=
    permissions_monotone .byVariant .default xs ys
  have hall : denial.Within { denial with subject := .all } := hmatcher denial .all fun _ _ => rfl
  have hmember : ∀ t, grant.subject.covers t = true →
      (SubjectMatcher.anyOf [.user, .project]).covers t = true := by
    intro t ht
    cases t with
    | project => rfl
    | _ => cases ht
  have hempty : Condition.empty.LaxerThan c := by
    intro x v hv
    simp at hv
  exact ⟨⟨⟨rfl, hmanage grant⟩, hreplaced grant _ rfl (hmanage grant), rfl⟩,
    ⟨⟨rfl, hall⟩, hreplaced denial _ rfl hall, rfl⟩, ⟨hmember, hmatcher grant _ hmember⟩,
    ⟨⟨rfl, hempty⟩, hlaxer grant c .empty rfl hempty⟩, ⟨rfl, rfl⟩,
    hinsert grant c .organizationId _ rfl rfl⟩

end Ability

end Clearance
