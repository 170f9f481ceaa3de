import Clearance.Proofs.Ability.Policy
import Clearance.Proofs.Ability.Widening

/-!
# What an answer for `manage` promises

A rule for the wildcard is heard in every query, while a query for the wildcard hears such rules
alone. So the rule that decides it is heard for any single action as well, and what decides there is
the same rule or one that stands behind it and was declared for that action. Who may manage
something may therefore do all of it, but for what a later denial takes out again.
-/

namespace Clearance

/-! ### Rules that are heard -/

namespace Rule

variable {r : Rule} {action : Action} {t : SubjectType} {instance? : Option Subject}

theorem applies_of_applies_manage (h : r.applies .manage t instance? = true) :
    r.applies action t instance? = true := by
  rw [applies_iff] at h ⊢
  exact ⟨h.type, .inl (h.action.elim id id), h.condition⟩

/-- A rule that a query for the wildcard does not hear is declared for the action itself. -/
theorem declared_of_not_applies_manage (h : r.applies action t instance? = true)
    (hmanage : r.applies .manage t instance? = false) : r.action = action ∧ r.action ≠ .manage := by
  have hspeaks := applies_iff.mp h
  have hne : r.action ≠ .manage := by
    intro heq
    have happlies : r.applies .manage t instance? = true :=
      applies_iff.mpr ⟨hspeaks.type, .inl heq, hspeaks.condition⟩
    simp [hmanage] at happlies
  exact ⟨hspeaks.action.resolve_left hne, hne⟩

end Rule

namespace Ability

/-! ### The rule that decides and where it stands -/

/-- A query, which is about a type, is decided by a rule at an index. -/
structure DecidedAt (a : Ability) (action : Action) (target : Target) (t : SubjectType) (i : Nat)
    (r : Rule) : Prop where
  find : a.find action target = .ok (t, some i)
  relevantRule : a.relevantRule action target = .ok (some r)
  here : a.rules[i]? = some r
  applies : r.applies action t target.instance? = true

section

variable {a : Ability} {action : Action} {target : Target} {t : SubjectType} {i : Nat} {r : Rule}

theorem find_eq_ok_iff {index? : Option Nat} : a.find action target = .ok (t, index?) ↔
    a.typeOf target = .ok t ∧ lastApplicable? a.rules action t target.instance? = index? := by
  rw [find_eq]
  cases a.typeOf target with
  | error e => simp [Except.map]
  | ok u =>
    simp only [Except.map, Except.ok.injEq, Prod.mk.injEq]
    exact and_congr_right fun hu => by rw [hu]

theorem decidedAt_of_lastApplicable (ht : a.typeOf target = .ok t)
    (hi : lastApplicable? a.rules action t target.instance? = some i) (hr : a.rules[i]? = some r) :
    a.DecidedAt action target t i r := by
  obtain ⟨r', hr', happlies⟩ := getElem?_of_lastIndex? hi
  obtain rfl : r' = r := Option.some.inj (hr'.symm.trans hr)
  refine ⟨find_eq_ok_iff.mpr ⟨ht, hi⟩, ?_, hr, happlies⟩
  rw [relevantRule_of_typeOf a ht, hi, Option.bind_some, hr]

theorem decidedAt_of_find (h : a.find action target = .ok (t, some i)) :
    ∃ r, a.DecidedAt action target t i r := by
  obtain ⟨ht, hi⟩ := find_eq_ok_iff.mp h
  obtain ⟨r, hr, -⟩ := getElem?_of_lastIndex? hi
  exact ⟨r, decidedAt_of_lastApplicable ht hi hr⟩

theorem DecidedAt.can (h : a.DecidedAt action target t i r) :
    a.can action target = .ok r.allows := by
  rw [can_eq, decide_eq, h.relevantRule, ← isAllowed_outcome]
  rfl

theorem DecidedAt.cannot (h : a.DecidedAt action target t i r) :
    a.cannot action target = .ok (!r.allows) := by
  rw [cannot_eq, h.can]
  rfl

/-- What is allowed is allowed by a rule. -/
theorem decidedAt_of_can (h : a.can action target = .ok true) :
    ∃ t i r, a.DecidedAt action target t i r ∧ r.allows = true := by
  cases hfind : a.find action target with
  | error e =>
    rw [can, decide, hfind] at h
    cases h
  | ok found =>
    obtain ⟨t, _ | i⟩ := found
    · rw [can, decide, hfind] at h
      cases h
    · obtain ⟨r, hr⟩ := decidedAt_of_find hfind
      exact ⟨t, i, r, hr, Except.ok.inj (hr.can.symm.trans h)⟩

/-- The rule that decides a query for the wildcard decides the one for an action too, unless a rule
behind it does that is declared for the action alone. -/
theorem DecidedAt.decidedAt_action {g : Rule} (h : a.DecidedAt .manage target t i g)
    (action : Action) : ∃ j r, a.DecidedAt action target t j r ∧ i ≤ j ∧
      (i < j → r.action = action ∧ r.action ≠ .manage) := by
  obtain ⟨ht, hi⟩ := find_eq_ok_iff.mp h.find
  rw [lastApplicable?] at hi
  have hheard : ∀ r : Rule, r.applies .manage t target.instance? = true →
      r.applies action t target.instance? = true := fun _ => Rule.applies_of_applies_manage
  obtain ⟨j, hj, hle⟩ := le_lastIndex?_of_imp hheard hi
  obtain ⟨r, hr⟩ := decidedAt_of_find (find_eq_ok_iff.mpr ⟨ht, hj⟩)
  refine ⟨j, r, hr, hle, fun hlt => ?_⟩
  have hsilent := eq_false_of_lastIndex?_lt hi hlt hr.here
  exact Rule.declared_of_not_applies_manage hr.applies hsilent

/-- Only a denial behind the grant, declared for the action, takes the action out of it. -/
theorem granted_and_refused_iff :
    a.can .manage target = .ok true ∧ a.cannot action target = .ok true ↔
      ∃ t i g j d, a.DecidedAt .manage target t i g ∧ g.inverted = false ∧
        a.DecidedAt action target t j d ∧ d.inverted = true ∧ i < j ∧ d.action = action ∧
          d.action ≠ .manage := by
  constructor
  · intro h
    obtain ⟨hcan, hcannot⟩ := h
    obtain ⟨t, i, g, hg, hallows⟩ := decidedAt_of_can hcan
    obtain ⟨j, d, hd, hle, hdeclared⟩ := hg.decidedAt_action action
    have hdenies : d.allows = false := by simpa [hd.cannot] using hcannot
    have hlt : i < j := by
      -- at the same index stands the same rule, and that one grants
      refine Nat.lt_of_le_of_ne hle ?_
      intro hsame
      subst hsame
      obtain rfl : g = d := Option.some.inj (hg.here.symm.trans hd.here)
      simp [hallows] at hdenies
    exact ⟨t, i, g, j, d, hg, by simpa [Rule.allows] using hallows, hd,
      by simpa [Rule.allows] using hdenies, hlt, hdeclared hlt⟩
  · intro h
    obtain ⟨t, i, g, j, d, hg, hgrant, hd, hdenial, -⟩ := h
    rw [hg.can, hd.cannot, Rule.allows, Rule.allows, hgrant, hdenial]
    exact ⟨rfl, rfl⟩

theorem can_of_can_manage (hdenials : ∀ r ∈ a.rules, r.action ≠ .manage → r.inverted = false)
    (h : a.can .manage target = .ok true) : a.can action target = .ok true := by
  obtain ⟨t, i, g, hg, hallows⟩ := decidedAt_of_can h
  obtain ⟨j, r, hr, hle, hdeclared⟩ := hg.decidedAt_action action
  rw [hr.can]
  rcases Nat.eq_or_lt_of_le hle with rfl | hlt
  · obtain rfl : g = r := Option.some.inj (hg.here.symm.trans hr.here)
    rw [hallows]
  · rw [Rule.allows, hdenials r (List.mem_of_getElem? hr.here) (hdeclared hlt).2]
    rfl

end

/-! ### An organization of somebody else -/

theorem rules_admin (u : UserId) : (defineAbilityFor u .admin).rules = [
    ⟨.manage, .all, none, false, none⟩,
    ⟨.transferOwnership, .type .organization, none, true,
      some "only the organization owner can transfer ownership"⟩,
    ⟨.update, .type .organization, none, true,
      some "only the organization owner can update it"⟩,
    ⟨.transferOwnership, .type .organization, some (.ownedBy u), false, none⟩,
    ⟨.update, .type .organization, some (.ownedBy u), false, none⟩] :=
  rfl

/-- An administrator manages an organization of somebody else by the first rule of the policy, and
behind that stands the denial of updating it. -/
theorem admin_decidedAt {u : UserId} {s : OrganizationSubject} (hs : s.ownerId ≠ u) :
    (defineAbilityFor u .admin).DecidedAt .manage (.subject (.organization s)) .organization 0
      ⟨.manage, .all, none, false, none⟩ ∧
    (defineAbilityFor u .admin).DecidedAt .update (.subject (.organization s)) .organization 2
      ⟨.update, .type .organization, none, true,
        some "only the organization owner can update it"⟩ := by
  have hforeign : Rule.conditionHolds (some (.ownedBy u)) (some (.organization s)) = false := by
    have hne : s.ownerId.uuid ≠ u.uuid := fun h => hs (congrArg Id.mk h)
    have hother : (Target.subject (.organization s)).isOwnedBy u = false := by
      simp [Target.isOwnedBy, Subject.lookup, AttrValue.ofId, hne]
    exact (conditionHolds_ownedBy u (.subject (.organization s))).trans hother
  constructor
  · refine decidedAt_of_lastApplicable rfl ?_ rfl
    rw [rules_admin]
    rfl
  · refine decidedAt_of_lastApplicable rfl ?_ rfl
    simp only [rules_admin, Target.instance?, lastApplicable?, lastIndex?, Rule.applies, hforeign,
      Bool.and_false]
    rfl

/-- **What managing promises.** The rule that decides a query for the wildcard stands no later than
the one that decides a query for an action about the same subject; if that stands behind it, it is
declared for the action alone. So an action is refused where managing is granted exactly when a
denial declared for it, behind the grant, decides, as for an administrator who updates an
organization of somebody else; and without such denials who may manage may do everything. -/
theorem manage_promises :
    (∀ (a : Ability) (action : Action) (target : Target),
      (∀ t i, a.find .manage target = .ok (t, some i) → ∃ g j r,
        a.DecidedAt .manage target t i g ∧ a.DecidedAt action target t j r ∧ i ≤ j ∧
          (i < j → r.action = action ∧ r.action ≠ .manage)) ∧
      (a.can .manage target = .ok true ∧ a.cannot action target = .ok true ↔
        ∃ t i g j d, a.DecidedAt .manage target t i g ∧ g.inverted = false ∧
          a.DecidedAt action target t j d ∧ d.inverted = true ∧ i < j ∧ d.action = action ∧
            d.action ≠ .manage) ∧
      ((∀ r ∈ a.rules, r.action ≠ .manage → r.inverted = false) →
        a.can .manage target = .ok true → a.can action target = .ok true)) ∧
    ∀ (u : UserId) (s : OrganizationSubject), s.ownerId ≠ u →
      (defineAbilityFor u .admin).DecidedAt .manage (.subject (.organization s)) .organization 0
        ⟨.manage, .all, none, false, none⟩ ∧
      (defineAbilityFor u .admin).DecidedAt .update (.subject (.organization s)) .organization 2
        ⟨.update, .type .organization, none, true,
          some "only the organization owner can update it"⟩ := by
  refine ⟨fun a action target => ⟨fun t i hfind => ?_, granted_and_refused_iff,
    can_of_can_manage⟩, fun u s => admin_decidedAt⟩
  obtain ⟨g, hg⟩ := decidedAt_of_find hfind
  obtain ⟨j, r, hr⟩ := hg.decidedAt_action action
  exact ⟨g, j, r, hg, hr⟩

/-- Projects are managed by one grant, behind which updating is denied and an invite is not to be
managed; of these only the denial of managing leaves what managing promises. -/
theorem manage_promises_frozen_projects :
    let grant : Rule := ⟨.manage, .type .project, none, false, none⟩
    let frozen : Rule := ⟨.update, .type .project, none, true, some "frozen"⟩
    let invites : Rule := ⟨.manage, .type .invite, none, true, none⟩
    let ability := fun rules => Ability.mk rules .byVariant .default
    let s := Target.subject (.project ⟨⟨⟨1⟩⟩, ⟨⟨2⟩⟩, none⟩)
    ((ability [grant, frozen]).find .manage s = .ok (.project, some 0) ∧
      ∃ g j r, (ability [grant, frozen]).DecidedAt .manage s .project 0 g ∧
        (ability [grant, frozen]).DecidedAt .update s .project j r ∧ 0 ≤ j ∧
          (0 < j → r.action = .update ∧ r.action ≠ .manage)) ∧
    (((∀ r ∈ (ability [grant, invites]).rules, r.action ≠ .manage → r.inverted = false) ∧
        (ability [grant, invites]).can .manage s = .ok true) ∧
      (ability [grant, invites]).can .update s = .ok true) ∧
    (⟨⟨2⟩⟩ : UserId) ≠ ⟨⟨3⟩⟩ ∧
      (defineAbilityFor ⟨⟨3⟩⟩ .admin).DecidedAt .update
        (.subject (.organization ⟨⟨⟨1⟩⟩, ⟨⟨2⟩⟩⟩)) .organization 2
        ⟨.update, .type .organization, none, true,
          some "only the organization owner can update it"⟩ := by
  intro grant frozen invites ability s
  obtain ⟨hmanage, hadmin⟩ := manage_promises
  obtain ⟨hdecided, -, -⟩ := hmanage (ability [grant, frozen]) .update s
  obtain ⟨-, -, hgranted⟩ := hmanage (ability [grant, invites]) .update s
  have hdenials : ∀ r ∈ (ability [grant, invites]).rules,
      r.action ≠ .manage → r.inverted = false := by decide
  have howner : (⟨⟨2⟩⟩ : UserId) ≠ ⟨⟨3⟩⟩ := by decide
  exact ⟨⟨rfl, hdecided .project 0 rfl⟩, ⟨⟨hdenials, rfl⟩, hgranted hdenials rfl⟩,
    howner, (hadmin ⟨⟨3⟩⟩ ⟨⟨⟨1⟩⟩, ⟨⟨2⟩⟩⟩ howner).2⟩

end Ability

end Clearance
