import Clearance.Proofs.Ability.Policy
import Clearance.Proofs.Ability.Scan

/-!
# Policies one after another

A policy only appends: what it adds to a builder does not depend on the rules that are there, and
the reasons it gives are for its own rules. So the rules of a builder that several policies were run
into fall into segments, the rules from before and one segment for each policy, and each query is
decided by the last segment that has a rule for it.
-/

namespace Clearance

/-! ### What a policy appends -/

namespace AbilityBuilder

/-- The builder with more rules after its own. -/
def append (b : AbilityBuilder) (rules : List Rule) : AbilityBuilder :=
  { b with rules := b.rules ++ rules }

@[simp]
theorem append_nil (b : AbilityBuilder) : b.append [] = b := by
  simp [append]

@[simp]
theorem append_append (b : AbilityBuilder) (xs ys : List Rule) :
    (b.append xs).append ys = b.append (xs ++ ys) := by
  simp [append]

/-- What runs on a builder appends the same rules to every builder, and does nothing else. -/
def Appends (run : AbilityBuilder → AbilityBuilder) (rules : List Rule) : Prop :=
  ∀ b, run b = b.append rules

theorem appends_allow (action : Action) (subject : SubjectMatcher)
    (condition : Option Condition) :
    Appends (fun b => b.allow action subject condition)
      [⟨action, subject, normalize condition, false, none⟩] :=
  fun _ => rfl

theorem appends_deny (action : Action) (subject : SubjectMatcher) (condition : Option Condition) :
    Appends (fun b => b.deny action subject condition)
      [⟨action, subject, normalize condition, true, none⟩] :=
  fun _ => rfl

namespace Appends

variable {run next : AbilityBuilder → AbilityBuilder} {rules more : List Rule} {r : Rule}

theorem andThen (hrun : Appends run rules) (hnext : Appends next more) :
    Appends (fun b => next (run b)) (rules ++ more) := by
  intro b
  change next (run b) = b.append (rules ++ more)
  rw [hrun, hnext, append_append]

/-- A reason goes to a rule of the same run, if that has appended one before. -/
theorem because (hrun : Appends run (rules ++ [r])) (reason : String) :
    Appends (fun b => (run b).because reason) (rules ++ [{ r with reason := some reason }]) := by
  intro b
  have hlast : (b.append (rules ++ [r])).rules = (b.rules ++ rules) ++ [r] := by
    rw [append, List.append_assoc]
  change (run b).because reason = _
  rw [hrun, AbilityBuilder.because, hlast, modifyLast_concat, append, append, List.append_assoc]

theorem rules_new (hrun : Appends run rules) (config : AbilityConfig) :
    (run (new config)).rules = rules := by
  rw [hrun, append, new, List.nil_append]

end Appends

theorem appends_admin (user : UserContext) : ∃ rules, Appends (Policy.admin user) rules := by
  have hall := appends_allow .manage .all none
  have htransfer :=
    (hall.andThen (appends_deny .transferOwnership (.type .organization) none)).because
      "only the organization owner can transfer ownership"
  have hupdate := (htransfer.andThen (appends_deny .update (.type .organization) none)).because
    "only the organization owner can update it"
  have hown := hupdate.andThen (appends_allow .transferOwnership (.type .organization)
    (some (Condition.ownedBy user.userId)))
  exact ⟨_, hown.andThen (appends_allow .update (.type .organization)
    (some (Condition.ownedBy user.userId)))⟩

theorem appends_member (user : UserContext) : ∃ rules, Appends (Policy.member user) rules := by
  have hget := (appends_allow .get (.type .user) none).andThen
    (appends_allow .get (.type .project) none)
  have hcreate := hget.andThen (appends_allow .create (.type .project) none)
  have hupdate := hcreate.andThen (appends_allow .update (.type .project)
    (some (Condition.ownedBy user.userId)))
  exact ⟨_, (hupdate.andThen (appends_deny .delete (.type .project) none)).because
    "members cannot delete projects"⟩

theorem appends_billing (user : UserContext) : ∃ rules, Appends (Policy.billing user) rules :=
  ⟨_, appends_allow .manage (.type .billing) none⟩

/-- A role's policy appends the rules that its ability consists of. -/
theorem appends_policy (role : Role) (user : UserContext) (g : PolicyRegistry) :
    Appends (role.policy user) (g.buildAbility role user).rules := by
  have hrules : ∃ rules, Appends (role.policy user) rules := by
    cases role with
    | admin => exact appends_admin user
    | member => exact appends_member user
    | billing => exact appends_billing user
  obtain ⟨rules, happends⟩ := hrules
  have hbuilt : (g.buildAbility role user).rules = rules := happends.rules_new g.config
  rw [hbuilt]
  exact happends

/-- Runs the policies of several roles into a builder, each for a user of its own. -/
def runPolicies (b : AbilityBuilder) (calls : List (Role × UserContext)) : AbilityBuilder :=
  calls.foldl (fun b (role, user) => role.policy user b) b

theorem runPolicies_eq_append (g : PolicyRegistry) (b : AbilityBuilder)
    (calls : List (Role × UserContext)) :
    b.runPolicies calls =
      b.append (calls.flatMap fun (role, user) => (g.buildAbility role user).rules) := by
  induction calls generalizing b with
  | nil => exact (append_nil b).symm
  | cons call rest ih =>
    obtain ⟨role, user⟩ := call
    have hfirst : b.runPolicies ((role, user) :: rest) = (role.policy user b).runPolicies rest :=
      rfl
    rw [hfirst, ih, appends_policy role user g, append_append, List.flatMap_cons]

end AbilityBuilder

/-! ### Segments of a rule list -/

section Search

variable {α : Type} {p : α → Bool}

theorem lastIndex?_flatten_eq_none {segments : List (List α)}
    (h : ∀ xs ∈ segments, lastIndex? p xs = none) : lastIndex? p segments.flatten = none := by
  induction segments with
  | nil => rfl
  | cons xs rest ih =>
    obtain ⟨hxs, hrest⟩ := List.forall_mem_cons.mp h
    rw [List.flatten_cons, lastIndex?_append, ih hrest, hxs]
    rfl

/-- The last segment in which something is found is the one in which it is found. -/
theorem lastIndex?_flatten_of_last {before after : List (List α)} {xs : List α} {i : Nat}
    (hxs : lastIndex? p xs = some i) (hafter : ∀ ys ∈ after, lastIndex? p ys = none) :
    lastIndex? p (before ++ xs :: after).flatten = some (before.flatten.length + i) := by
  rw [List.flatten_append, List.flatten_cons, lastIndex?_append, lastIndex?_append,
    lastIndex?_flatten_eq_none hafter, hxs]
  rfl

theorem getElem?_flatten {before after : List (List α)} {xs : List α} {i : Nat}
    (hi : i < xs.length) :
    (before ++ xs :: after).flatten[before.flatten.length + i]? = xs[i]? := by
  rw [List.flatten_append, List.flatten_cons, List.getElem?_append_right (Nat.le_add_right _ _),
    Nat.add_sub_cancel_left, List.getElem?_append_left hi]

/-- Either none of the members of a list has a value, or there is a last one that has. -/
theorem none_or_last {β : Type} (f : α → Option β) (xs : List α) :
    (∀ x ∈ xs, f x = none) ∨
      ∃ before x after y, xs = before ++ x :: after ∧ f x = some y ∧ ∀ z ∈ after, f z = none := by
  induction xs with
  | nil => exact .inl (by simp)
  | cons x xs ih =>
    rcases ih with hnone | ⟨before, z, after, y, rfl, hz, hafter⟩
    · cases hx : f x with
      | none => exact .inl (List.forall_mem_cons.mpr ⟨hx, hnone⟩)
      | some y => exact .inr ⟨[], x, xs, y, rfl, hx, hnone⟩
    · exact .inr ⟨x :: before, z, after, y, rfl, hz, hafter⟩

end Search

/-! ### Stacked abilities -/

namespace Ability

/-- The rules of an ability are those of its segments, one after another, and all of them ask the
same resolver. -/
structure StackOf (whole : Ability) (segments : List Ability) : Prop where
  rules : whole.rules = segments.flatMap Ability.rules
  resolver : ∀ segment ∈ segments, segment.resolver = whole.resolver

/-- How segments answer a query about a type together: by the last of them that has a rule for it,
which stands at its place in the segment after the rules of the segments before; and where none of
them has one, by a denial without a reason. -/
inductive StackAnswers (whole : Ability) (segments : List Ability) (action : Action)
    (target : Target) (t : SubjectType) : Prop where
  | unanswered
      (silent : ∀ segment ∈ segments, segment.find action target = .ok (t, none))
      (find : whole.find action target = .ok (t, none))
      (decide : whole.decide action target = .ok (.denied none))
      (relevantRule : whole.relevantRule action target = .ok none)
  | answeredBy (before : List Ability) (segment : Ability) (after : List Ability) (index : Nat)
      (split : segments = before ++ segment :: after)
      (speaks : segment.find action target = .ok (t, some index))
      (silent : ∀ later ∈ after, later.find action target = .ok (t, none))
      (find : whole.find action target =
        .ok (t, some ((before.flatMap Ability.rules).length + index)))
      (decide : whole.decide action target = segment.decide action target)
      (relevantRule : whole.relevantRule action target = segment.relevantRule action target)

variable {whole : Ability} {segments : List Ability} {action : Action} {target : Target}
  {t : SubjectType}

theorem StackOf.typeOf (hstack : whole.StackOf segments) {segment : Ability}
    (hsegment : segment ∈ segments) : segment.typeOf target = whole.typeOf target := by
  cases target with
  | type t => rfl
  | subject s => rw [Ability.typeOf, Ability.typeOf, hstack.resolver segment hsegment]

theorem StackOf.answers (hstack : whole.StackOf segments) (ht : whole.typeOf target = .ok t) :
    StackAnswers whole segments action target t := by
  have htype : ∀ segment ∈ segments, segment.typeOf target = .ok t :=
    fun segment hsegment => (hstack.typeOf hsegment).trans ht
  have hrules : whole.rules = (segments.map Ability.rules).flatten := by
    rw [hstack.rules, List.flatMap_def]
  rcases none_or_last (fun a => lastApplicable? a.rules action t target.instance?) segments with
    hnone | ⟨before, segment, after, index, rfl, hindex, hafter⟩
  · have hwhole : lastApplicable? whole.rules action t target.instance? = none := by
      rw [hrules]
      exact lastIndex?_flatten_eq_none (List.forall_mem_map.mpr hnone)
    have hrelevant : whole.relevantRule action target = .ok none := by
      rw [relevantRule_of_typeOf whole ht, hwhole]
      rfl
    refine .unanswered (fun segment hsegment => ?_) ?_ ?_ hrelevant
    · rw [find_of_typeOf segment (htype segment hsegment), hnone segment hsegment]
    · rw [find_of_typeOf whole ht, hwhole]
    · rw [decide_eq, hrelevant]
      rfl
  · rw [List.map_append, List.map_cons] at hrules
    have hwhole : lastApplicable? whole.rules action t target.instance? =
        some ((before.flatMap Ability.rules).length + index) := by
      rw [hrules, List.flatMap_def]
      exact lastIndex?_flatten_of_last hindex (List.forall_mem_map.mpr hafter)
    have hbound : index < segment.rules.length := by
      obtain ⟨r, hr, -⟩ := getElem?_of_lastIndex? hindex
      exact (List.getElem?_eq_some_iff.mp hr).1
    have hsegment := htype segment (List.mem_append_right _ List.mem_cons_self)
    have hrelevant : whole.relevantRule action target = segment.relevantRule action target := by
      rw [relevantRule_of_typeOf whole ht, relevantRule_of_typeOf segment hsegment, hwhole, hindex,
        Option.bind_some, Option.bind_some, hrules, List.flatMap_def, getElem?_flatten hbound]
    refine .answeredBy before segment after index rfl ?_ (fun later hlater => ?_) ?_ ?_ hrelevant
    · rw [find_of_typeOf segment hsegment, hindex]
    · have hmem : later ∈ before ++ segment :: after :=
        List.mem_append_right _ (List.mem_cons_of_mem _ hlater)
      rw [find_of_typeOf later (htype later hmem), hafter later hlater]
    · rw [find_of_typeOf whole ht, hwhole]
    · rw [decide_eq, hrelevant, decide_eq]

end Ability

/-- **Policies one after another.** Whatever is in a builder already stays as it is when policies
are run into it; what they add is the rules of their own abilities in turn. The ability that is
built then answers a query by the last of the segments that has a rule for it by itself. -/
theorem PolicyRegistry.stacked_policies (g : PolicyRegistry) (b : AbilityBuilder)
    (calls : List (Role × UserContext)) (action : Action) (target : Target) :
    let whole := (b.runPolicies calls).build g.resolver
    let segments := b.build g.resolver :: calls.map fun (role, user) => g.buildAbility role user
    whole.rules =
        b.rules ++ calls.flatMap (fun (role, user) => (g.buildAbility role user).rules) ∧
      whole.config = b.config ∧
      match whole.typeOf target with
      | .ok t => Ability.StackAnswers whole segments action target t
      | .error e => whole.FailsWith action target e := by
  intro whole segments
  have hrun := AbilityBuilder.runPolicies_eq_append g b calls
  have hrules : whole.rules =
      b.rules ++ calls.flatMap (fun (role, user) => (g.buildAbility role user).rules) :=
    congrArg AbilityBuilder.rules hrun
  have hstack : whole.StackOf segments := by
    refine ⟨?_, ?_⟩
    · rw [hrules, List.flatMap_cons, List.flatMap_map]
      rfl
    · refine List.forall_mem_cons.mpr ⟨rfl, ?_⟩
      rw [List.forall_mem_map]
      exact fun _ _ => rfl
  have hconfig : whole.config = b.config := by
    change (b.runPolicies calls).config = b.config
    rw [hrun]
    rfl
  refine ⟨hrules, hconfig, ?_⟩
  cases ht : whole.typeOf target with
  | ok t => exact hstack.answers ht
  | error e => exact Ability.failsWith_of_typeOf whole action target ht

end Clearance
