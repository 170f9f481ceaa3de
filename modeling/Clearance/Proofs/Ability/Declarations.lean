import Clearance.Proofs.Ability.Policy
import Mathlib.Data.List.Forall2

/-!
# What a builder declares

A builder is told to allow, to deny and to give a reason, in any order. Each rule comes from one
call and may be changed by later ones, since a reason goes to the rule that was declared last. Here
the rules are read off the calls without a builder: each declaration has a rule, with the reason
that was given last before the next declaration.
-/

namespace Clearance

/-- What a grant or a denial is declared with. -/
structure Declaration where
  inverted : Bool
  action : Action
  subject : SubjectMatcher
  condition : Option Condition
deriving DecidableEq, Repr

inductive BuilderCall where
  | declare (declaration : Declaration)
  | because (reason : String)
deriving DecidableEq, Repr

/-- There is one condition that constrains nothing. -/
theorem Condition.isEmpty_iff {c : Condition} : c.isEmpty = true ↔ c = .empty := by
  constructor
  · intro h
    obtain ⟨id, ownerId, organizationId, authorId⟩ := c
    simp only [isEmpty, entries, List.isEmpty_iff, List.filterMap_eq_nil_iff,
      Option.map_eq_none_iff, Attribute.all, List.forall_mem_cons] at h
    obtain ⟨hid, howner, horganization, hauthor, -⟩ := h
    simp only [get?] at hid howner horganization hauthor
    rw [hid, howner, horganization, hauthor, empty]
  · rintro rfl
    rfl

namespace BuilderCall

/-- Each declaration with the calls after it. -/
def declarations : List BuilderCall → List (Declaration × List BuilderCall)
  | [] => []
  | declare d :: rest => (d, rest) :: declarations rest
  | because _ :: rest => declarations rest

/-- The reasons that are given before the next declaration. -/
def reasons : List BuilderCall → List String
  | because reason :: rest => reason :: reasons rest
  | _ => []

/-- The call with no condition in place of an empty one. -/
def dropEmpty : BuilderCall → BuilderCall
  | declare d =>
      declare { d with condition := if d.condition = some .empty then none else d.condition }
  | because reason => because reason

end BuilderCall

/-- A rule comes from a declaration and the calls after it: an empty condition is none, and of the
reasons before the next declaration the last counts. -/
structure Rule.ComesFrom (r : Rule) (d : Declaration) (after : List BuilderCall) : Prop where
  action : r.action = d.action
  subject : r.subject = d.subject
  inverted : r.inverted = d.inverted
  unconditioned : r.condition = none ↔ d.condition = none ∨ d.condition = some .empty
  condition : ∀ c, r.condition = some c → d.condition = some c
  reason : r.reason = (BuilderCall.reasons after).getLast?

namespace AbilityBuilder

def call (b : AbilityBuilder) : BuilderCall → AbilityBuilder
  | .declare d =>
      if d.inverted then b.deny d.action d.subject d.condition
      else b.allow d.action d.subject d.condition
  | .because reason => b.because reason

def callAll (b : AbilityBuilder) (calls : List BuilderCall) : AbilityBuilder :=
  calls.foldl call b

@[simp] theorem callAll_cons (b : AbilityBuilder) (c : BuilderCall) (rest : List BuilderCall) :
    b.callAll (c :: rest) = (b.call c).callAll rest := rfl

/-! ### The calls one after another -/

/-- The rule of a declaration with a reason. -/
def ruleOf (d : Declaration) (reason : Option String) : Rule :=
  ⟨d.action, d.subject, normalize d.condition, d.inverted, reason⟩

/-- A rule with another reason, if there is one. -/
def reasoned (r : Rule) (reason : Option String) : Rule :=
  { r with reason := reason.or r.reason }

/-- The rules that calls declare. -/
def declared (calls : List BuilderCall) : List Rule :=
  (BuilderCall.declarations calls).map fun (d, after) =>
    ruleOf d (BuilderCall.reasons after).getLast?

theorem reasoned_reasoned (r : Rule) (reason : String) (later : Option String) :
    reasoned (reasoned r (some reason)) later = reasoned r (some (later.getD reason)) := by
  cases later <;> rfl

theorem declared_declare (d : Declaration) (rest : List BuilderCall) :
    declared (.declare d :: rest) =
      reasoned (ruleOf d none) (BuilderCall.reasons rest).getLast? :: declared rest := by
  rw [reasoned, ruleOf, Option.or_none]
  rfl

theorem call_declare (b : AbilityBuilder) (d : Declaration) :
    b.call (.declare d) = b.push (ruleOf d none) := by
  rw [call]
  cases h : d.inverted <;> simp [allow, deny, ruleOf, h]

theorem call_because (rules : List Rule) (r : Rule) (config : AbilityConfig) (reason : String) :
    (AbilityBuilder.mk (rules ++ [r]) config).call (.because reason) =
      ⟨rules ++ [reasoned r (some reason)], config⟩ := by
  rw [call, because, modifyLast_concat]
  rfl

/-- Calls on a builder that has a rule: its last rule may get a reason, and what is declared stands
behind it. -/
theorem callAll_concat (rules : List Rule) (r : Rule) (config : AbilityConfig)
    (calls : List BuilderCall) :
    (AbilityBuilder.mk (rules ++ [r]) config).callAll calls =
      ⟨rules ++ reasoned r (BuilderCall.reasons calls).getLast? :: declared calls, config⟩ := by
  induction calls generalizing rules r with
  | nil => rfl
  | cons c rest ih =>
    rw [callAll_cons]
    cases c with
    | declare d =>
      rw [call_declare, push, ih, List.append_assoc, declared_declare]
      rfl
    | because reason =>
      rw [call_because, ih, BuilderCall.reasons, List.getLast?_cons, reasoned_reasoned]
      rfl

theorem callAll_new (config : AbilityConfig) (calls : List BuilderCall) :
    (new config).callAll calls = ⟨declared calls, config⟩ := by
  induction calls with
  | nil => rfl
  | cons c rest ih =>
    cases c with
    | declare d =>
      have hfirst : (new config).call (.declare d) = ⟨[] ++ [ruleOf d none], config⟩ :=
        call_declare (new config) d
      rw [callAll_cons, hfirst, callAll_concat, declared_declare]
      rfl
    | because reason => exact ih

theorem normalize_eq_none_iff {condition : Option Condition} :
    normalize condition = none ↔ condition = none ∨ condition = some .empty := by
  rw [normalize, Option.filter_eq_none_iff]
  cases condition with
  | none => simp
  | some c => simp [Condition.isEmpty_iff]

theorem normalize_ne_empty (condition : Option Condition) :
    normalize condition ≠ some .empty := by
  intro h
  have hconstrains := (Option.filter_eq_some_iff.mp h).2
  rw [Condition.isEmpty_iff.mpr rfl] at hconstrains
  cases hconstrains

theorem ruleOf_comesFrom (d : Declaration) (after : List BuilderCall) :
    (ruleOf d (BuilderCall.reasons after).getLast?).ComesFrom d after where
  action := rfl
  subject := rfl
  inverted := rfl
  unconditioned := normalize_eq_none_iff
  condition _ h := (Option.filter_eq_some_iff.mp h).1
  reason := rfl

theorem declared_comesFrom (calls : List BuilderCall) :
    List.Forall₂ (fun (d, after) r => Rule.ComesFrom r d after)
      (BuilderCall.declarations calls) (declared calls) := by
  rw [declared, List.forall₂_map_right_iff, List.forall₂_same]
  exact fun (d, after) _ => ruleOf_comesFrom d after

/-! ### Calls that make no difference -/

/-- Reasons before the first declaration have no rule to go to. -/
theorem callAll_because (config : AbilityConfig) (given : List String) (calls : List BuilderCall) :
    (new config).callAll (given.map .because ++ calls) = (new config).callAll calls := by
  induction given with
  | nil => rfl
  | cons reason rest ih => exact ih

theorem normalize_empty : normalize (some .empty) = none :=
  normalize_eq_none_iff.mpr (.inr rfl)

theorem call_dropEmpty (b : AbilityBuilder) (c : BuilderCall) : b.call c.dropEmpty = b.call c := by
  cases c with
  | because reason => rfl
  | declare d =>
    by_cases h : d.condition = some .empty
    · have hnone : normalize none = none := rfl
      rw [BuilderCall.dropEmpty, call_declare, call_declare, ruleOf, ruleOf, if_pos h, h,
        normalize_empty, hnone]
    · rw [BuilderCall.dropEmpty, if_neg h]

theorem callAll_dropEmpty (b : AbilityBuilder) (calls : List BuilderCall) (chosen : Nat → Bool) :
    b.callAll (calls.mapIdx fun i c => if chosen i then c.dropEmpty else c) = b.callAll calls := by
  induction calls generalizing b chosen with
  | nil => rfl
  | cons c rest ih =>
    have hfirst : b.call (if chosen 0 then c.dropEmpty else c) = b.call c := by
      cases chosen 0 with
      | true => exact call_dropEmpty b c
      | false => rfl
    rw [List.mapIdx_cons, callAll_cons, callAll_cons, hfirst]
    exact ih (b.call c) fun i => chosen (i + 1)

/-- **What a builder declares.** A new builder has a rule for each declaration among the calls, in
their order and with what was declared; it comes from that declaration and from the calls after it.
At every point it counts the declarations so far, reasons before the first of them are lost, and an
empty condition, which no rule has, can be left out wherever one is given. -/
theorem rules_declared (config : AbilityConfig) (resolver : Resolver) (calls : List BuilderCall) :
    let built := ((new config).callAll calls).build resolver
    List.Forall₂ (fun (d, after) r => Rule.ComesFrom r d after)
      (BuilderCall.declarations calls) built.rules ∧
    built.config = config ∧
    (∀ n, ((new config).callAll (calls.take n)).size =
      (BuilderCall.declarations (calls.take n)).length) ∧
    (∀ given : List String,
      ((new config).callAll (given.map .because ++ calls)).build resolver = built) ∧
    some .empty ∉ built.rules.map Rule.condition ∧
    ∀ chosen : Nat → Bool, ((new config).callAll
      (calls.mapIdx fun i c => if chosen i then c.dropEmpty else c)).build resolver = built := by
  intro built
  have hrules : built.rules = declared calls := by
    change ((new config).callAll calls).rules = _
    rw [callAll_new]
  refine ⟨?_, ?_, ?_, ?_, ?_, ?_⟩
  · rw [hrules]
    exact declared_comesFrom calls
  · change ((new config).callAll calls).config = config
    rw [callAll_new]
  · intro n
    rw [callAll_new, size, declared, List.length_map]
  · intro given
    rw [callAll_because]
  · intro hempty
    obtain ⟨r, hr, hcondition⟩ := List.mem_map.mp hempty
    rw [hrules, declared] at hr
    obtain ⟨⟨d, after⟩, -, rfl⟩ := List.mem_map.mp hr
    exact normalize_ne_empty d.condition hcondition
  · intro chosen
    rw [callAll_dropEmpty]

end AbilityBuilder

end Clearance
