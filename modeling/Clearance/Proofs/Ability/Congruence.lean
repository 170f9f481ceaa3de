import Clearance.Proofs.Ability.Search

/-!
# Rule lists that decide alike

An answer is read off the rule that decides the query. So two lists of rules mean the same where
they decide every query by rules that look the same, and what is said of a few rules holds of them
between any others (`DecideAlike.between`). How much of a rule has to look the same is up to what
is asked: all of it for the rule itself, whether it allows for the truth of an answer.
-/

namespace Clearance

namespace Ability

/-! ### The rule that decides -/

section

variable {rules : List Rule} {action : Action} {t : SubjectType} {instance? : Option Subject}

theorem decisive?_singleton (r : Rule) :
    decisive? [r] action t instance? = if r.applies action t instance? then some r else none :=
  decisive?_concat [] r action t instance?

theorem decisive?_eq_none_iff :
    decisive? rules action t instance? = none ↔ ∀ r ∈ rules, ¬ r.applies action t instance? := by
  rw [decisive?, List.getLast?_eq_none_iff, List.filter_eq_nil_iff]

theorem of_decisive?_eq_some {r : Rule} (h : decisive? rules action t instance? = some r) :
    r ∈ rules ∧ r.applies action t instance? :=
  List.mem_filter.mp (List.mem_of_getLast? h)

/-- Of rules that all look the same, it does not matter which one decides. -/
theorem decisive?_map_of_uniform {β : Type} {view : Rule → β} {look : β}
    (h : ∀ r ∈ rules, view r = look) :
    (decisive? rules action t instance?).map view =
      if ∃ r ∈ rules, r.applies action t instance? then some look else none := by
  cases hdecisive : decisive? rules action t instance? with
  | none =>
    have hnone := decisive?_eq_none_iff.mp hdecisive
    rw [if_neg fun ⟨r, hr, happlies⟩ => hnone r hr happlies, Option.map_none]
  | some r =>
    obtain ⟨hr, happlies⟩ := of_decisive?_eq_some hdecisive
    rw [if_pos ⟨r, hr, happlies⟩, Option.map_some, h r hr]

end

/-! ### Deciding alike -/

/-- Every query is decided over both lists by rules that look the same to `view`, or over neither of
them by a rule. -/
def DecideAlike {β : Type} (view : Rule → β) (xs ys : List Rule) : Prop :=
  ∀ action t instance?, (decisive? xs action t instance?).map view =
    (decisive? ys action t instance?).map view

namespace DecideAlike

variable {β : Type} {view : Rule → β} {xs xs' ys ys' zs : List Rule}

theorem refl (xs : List Rule) : DecideAlike view xs xs :=
  fun _ _ _ => rfl

theorem trans (hxy : DecideAlike view xs ys) (hyz : DecideAlike view ys zs) :
    DecideAlike view xs zs :=
  fun action t instance? => (hxy action t instance?).trans (hyz action t instance?)

theorem append (hx : DecideAlike view xs xs') (hy : DecideAlike view ys ys') :
    DecideAlike view (xs ++ ys) (xs' ++ ys') := by
  intro action t instance?
  rw [decisive?_append, decisive?_append, Option.map_or, Option.map_or, hx, hy]

/-- Rules in front and rules behind stay out of it. -/
theorem between (xs ys : List Rule) {mid mid' : List Rule} (h : DecideAlike view mid mid') :
    DecideAlike view (xs ++ mid ++ ys) (xs ++ mid' ++ ys) :=
  ((refl xs).append h).append (refl ys)

/-- Rules that apply to nothing can be left out. -/
theorem filter {keep : Rule → Bool} (rules : List Rule)
    (h : ∀ r ∈ rules, ∀ action t instance?, r.applies action t instance? → keep r) :
    DecideAlike view rules (rules.filter keep) := by
  intro action t instance?
  have hfilter : (rules.filter keep).filter (fun r => r.applies action t instance?) =
      rules.filter fun r => r.applies action t instance? := by
    rw [List.filter_filter]
    apply List.filter_congr
    intro r hr
    cases happlies : r.applies action t instance? with
    | false => rfl
    | true => exact h r hr action t instance? happlies
  rw [decisive?, decisive?, hfilter]

/-- Lists of rules that all look the same are told apart only by the queries for which they have a
rule at all. -/
theorem of_uniform {look : β} (hx : ∀ r ∈ xs, view r = look) (hy : ∀ r ∈ ys, view r = look)
    (h : ∀ action t instance?, (∃ r ∈ xs, r.applies action t instance?) ↔
      ∃ r ∈ ys, r.applies action t instance?) : DecideAlike view xs ys := by
  intro action t instance?
  rw [decisive?_map_of_uniform hx, decisive?_map_of_uniform hy]
  simp only [h action t instance?]

end DecideAlike

/-! ### Abilities over lists that decide alike -/

/-- Abilities that differ in these rules alone have the same answers to every query. The rules that
decide look the same to `view`. -/
def Interchangeable (view : Rule → Rule) (rules rules' : List Rule) : Prop :=
  ∀ resolver config action target,
    AnswersAlike view action ⟨rules, resolver, config⟩ target ⟨rules', resolver, config⟩ target

theorem DecideAlike.interchangeable {view : Rule → Rule} {rules rules' : List Rule}
    (h : DecideAlike view rules rules')
    (hview : ∀ r, outcome (some (view r)) = outcome (some r)) :
    Interchangeable view rules rules' := by
  intro resolver config action target
  refine answersAlike_of_relevantRule hview ?_
  rw [relevantRule_eq, relevantRule_eq, typeOf_rules rules rules']
  cases typeOf ⟨rules', resolver, config⟩ target with
  | error e => rfl
  | ok t => exact congrArg Except.ok (h action t target.instance?)

/-- Lists that decide by the very same rules. -/
theorem DecideAlike.interchangeable_id {rules rules' : List Rule}
    (h : DecideAlike id rules rules') : Interchangeable id rules rules' :=
  h.interchangeable fun _ => rfl

end Ability

end Clearance
