import Clearance.Proofs.Ability.Scan

/-!
# What a decision looks at

A query about an instance looks at the instance through the rules that are about its type and the
action, and through these only at the attributes that their conditions constrain. Instances that
agree there cannot be told apart: whatever else they are, the same rule decides for both.
-/

namespace Clearance

/-- Rules that are about an action on a type constrain an attribute. -/
def Observes (rules : List Rule) (action : Action) (t : SubjectType) (x : Attribute) : Prop :=
  ∃ r ∈ rules, r.subject.covers t = true ∧ (r.action = .manage ∨ r.action = action) ∧
    ∃ c v, r.condition = some c ∧ c.get? x = some v

variable {rules : List Rule} {action : Action} {t : SubjectType} {s₁ s₂ : Subject}

theorem Rule.speaksAbout_of_agree {r : Rule} (hr : r ∈ rules)
    (hagree : ∀ x, Observes rules action t x → s₁.lookup x = s₂.lookup x)
    (h : r.SpeaksAbout action t (some s₁)) : r.SpeaksAbout action t (some s₂) := by
  obtain ⟨htype, haction, hcondition⟩ := h
  refine ⟨htype, haction, ?_⟩
  rcases hcondition with hnone | ⟨c, s, hc, hs, hmet⟩
  · exact .inl hnone
  · obtain rfl : s₁ = s := Option.some.inj hs
    refine .inr ⟨c, s₂, hc, rfl, fun x v hv => ?_⟩
    have hobserved : Observes rules action t x :=
      ⟨r, hr, (SubjectMatcher.covers_iff r.subject t).mpr htype, haction, c, v, hc, hv⟩
    rw [← hagree x hobserved]
    exact hmet x v hv

theorem Rule.applies_of_agree {r : Rule} (hr : r ∈ rules)
    (hagree : ∀ x, Observes rules action t x → s₁.lookup x = s₂.lookup x) :
    r.applies action t (some s₁) = r.applies action t (some s₂) := by
  rw [Bool.eq_iff_iff, applies_iff, applies_iff]
  exact ⟨speaksAbout_of_agree hr hagree,
    speaksAbout_of_agree hr fun x hx => (hagree x hx).symm⟩

namespace Ability

/-- No question has different answers about two targets: the same rule decides, and the log is told
the same. -/
structure Indistinguishable (a : Ability) (action : Action) (target target' : Target) : Prop where
  find : a.find action target = a.find action target'
  decide : a.decide action target = a.decide action target'
  can : a.can action target = a.can action target'
  cannot : a.cannot action target = a.cannot action target'
  relevantRule : a.relevantRule action target = a.relevantRule action target'
  notices : a.decisionNotices action target = a.decisionNotices action target'

/-- What is found settles all else. -/
theorem indistinguishable_of_find {a : Ability}
    (h : a.find action (.subject s₁) = a.find action (.subject s₂)) :
    a.Indistinguishable action (.subject s₁) (.subject s₂) := by
  have hrelevant : a.relevantRule action (.subject s₁) = a.relevantRule action (.subject s₂) := by
    rw [relevantRule, h, relevantRule]
  have halike : AnswersAlike id action a (.subject s₁) a (.subject s₂) :=
    answersAlike_of_relevantRule (fun _ => rfl) (by rw [hrelevant])
  have hnotices : a.decisionNotices action (.subject s₁) =
      a.decisionNotices action (.subject s₂) := by
    rw [decisionNotices, h, decisionNotices]
    rfl
  exact ⟨h, halike.decide, halike.can, halike.cannot, hrelevant, hnotices⟩

/-- **What a decision looks at.** Instances of which the resolver says the same, and which agree on
the attributes that the rules about this type and the action constrain, cannot be told apart by a
query. -/
theorem indistinguishable_of_agree (a : Ability) (action : Action) (s₁ s₂ : Subject)
    (hresolver : a.resolver s₁ = a.resolver s₂)
    (hagree : ∀ t, a.resolver s₁ = .ok t → ∀ x, Observes a.rules action t x →
      s₁.lookup x = s₂.lookup x) :
    a.Indistinguishable action (.subject s₁) (.subject s₂) := by
  refine indistinguishable_of_find ?_
  rw [find_eq, find_eq, typeOf, typeOf, ← hresolver]
  cases ht : a.resolver s₁ with
  | error e => rfl
  | ok t =>
    have hindex : lastApplicable? a.rules action t (some s₁) =
        lastApplicable? a.rules action t (some s₂) :=
      lastIndex?_congr fun r hr => Rule.applies_of_agree hr (hagree t ht)
    exact congrArg (fun index => Except.ok (t, index)) hindex

/-- For an update only the owner counts here, so that a project and an organization of one owner
pass for each other where both are taken for organizations, whatever their other attributes are. -/
theorem indistinguishable_of_one_owner :
    let u : UserId := ⟨⟨1⟩⟩
    let s₁ := Subject.project ⟨⟨⟨2⟩⟩, u, some ⟨⟨3⟩⟩⟩
    let s₂ := Subject.organization ⟨⟨⟨4⟩⟩, u⟩
    let a : Ability := ⟨[⟨.manage, .all, none, false, none⟩,
      ⟨.update, .type .organization, some (.ownedBy u), true, some "owners ask somebody else"⟩,
      ⟨.delete, .all, some (Condition.empty.insert .id (.id ⟨2⟩)), true, none⟩],
      fun _ => .ok .organization, ⟨true⟩⟩
    a.resolver s₁ = a.resolver s₂ ∧
      (∀ t, a.resolver s₁ = .ok t → ∀ x, Observes a.rules .update t x →
        s₁.lookup x = s₂.lookup x) ∧
      s₁.lookup .id ≠ s₂.lookup .id ∧
      a.Indistinguishable .update (.subject s₁) (.subject s₂) ∧
      a.decide .update (.subject s₁) = .ok (.denied (some "owners ask somebody else")) := by
  intro u s₁ s₂ a
  have hagree : ∀ t, a.resolver s₁ = .ok t → ∀ x, Observes a.rules .update t x →
      s₁.lookup x = s₂.lookup x := by
    rintro t - x ⟨r, hr, -, haction, c, v, hc, hv⟩
    simp only [a, List.mem_cons, List.not_mem_nil, or_false] at hr
    rcases hr with rfl | rfl | rfl
    · cases hc
    · cases hc
      cases x with
      | ownerId => rfl
      | _ => cases hv
    · simp at haction
  exact ⟨rfl, hagree, by decide, indistinguishable_of_agree a .update s₁ s₂ rfl hagree, rfl⟩

end Ability

end Clearance
