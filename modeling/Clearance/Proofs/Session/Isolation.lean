import Clearance.Proofs.Session.Step
import Mathlib.Data.List.Induction

/-!
# Contexts do not leak into one another

In a session many builders, registries and abilities are made, changed and used under names, in any
order. What stands under a name was made by a few of its steps: those that made and changed the
builder or registry it comes from. `history` keeps these steps for every name, and `Made` says what
such steps make, without a session. So everything else that a session does can be left out.
-/

namespace Clearance

/-! ### What steps make -/

/-- The steps that make a builder and change it. -/
def builderSteps (name : String) (config : AbilityConfig) (edits : List Edit) : List Step :=
  .makeBuilder name (.ok config) :: edits.map (Edit.step name)

/-- The builder that changes make of a new one. -/
def builderOf (config : AbilityConfig) (edits : List Edit) : AbilityBuilder :=
  edits.foldl Edit.apply (.new config)

/-- What steps that all succeed make under a name, each of them for the next. -/
inductive Made : List Step → String → Slot → Prop where
  | builder (name : String) (config : AbilityConfig) (edits : List Edit) :
      Made (builderSteps name config edits) name (.builder (builderOf config edits))
  | build (source : String) (config : AbilityConfig) (edits : List Edit) (dest : String)
      (resolver : Resolver) :
      Made (builderSteps source config edits ++ [.build source dest (.ok resolver)]) dest
        (.ability ((builderOf config edits).build resolver))
  | registry (name : String) (config : AbilityConfig) (resolver : Resolver) :
      Made [.makeRegistry name (.ok config) (.ok resolver)] name (.registry ⟨resolver, config⟩)
  | policy {steps : List Step} {source : String} {g : PolicyRegistry}
      (made : Made steps source (.registry g)) (dest : String) (role : Role) (user : UserId) :
      Made (steps ++ [.policy source (.ok role) (.ok user) dest]) dest
        (.ability (g.buildAbility role ⟨user⟩))
  | define (dest : String) (role : Role) (user : UserId) :
      Made [.define dest (.ok role) (.ok user)] dest (.ability (defineAbilityFor user role))
  | clone {steps : List Step} {source : String} {x : Slot} (made : Made steps source x)
      (noBuilder : ∀ b, x ≠ .builder b) (dest : String) :
      Made (steps ++ [.clone source dest]) dest x

theorem Made.builder_inv {steps : List Step} {name : String} {b : AbilityBuilder}
    (h : Made steps name (.builder b)) :
    ∃ config edits, steps = builderSteps name config edits ∧ b = builderOf config edits := by
  cases h with
  | builder _ config edits => exact ⟨config, edits, rfl, rfl⟩
  | clone made noBuilder => exact absurd rfl (noBuilder b)

theorem builderSteps_concat (name : String) (config : AbilityConfig) (edits : List Edit)
    (e : Edit) : builderSteps name config edits ++ [e.step name] =
      builderSteps name config (edits ++ [e]) := by
  simp [builderSteps]

theorem builderOf_concat (config : AbilityConfig) (edits : List Edit) (e : Edit) :
    builderOf config (edits ++ [e]) = e.apply (builderOf config edits) := by
  simp [builderOf]

theorem Edit.source?_step (e : Edit) (name : String) : (e.step name).source? = some name := by
  cases e <;> rfl

namespace Session

/-- The histories of names after a step. A step that succeeds puts itself behind the history of what
it uses, and that is the history of each name it touches; other names keep theirs. -/
def remember (s : Session) (past : String → List Step) (step : Step) (name : String) : List Step :=
  if (step.effect s).isOk && name ∈ step.touched then step.source?.elim [] past ++ [step]
  else past name

def historyFrom : Session → (String → List Step) → List Step → String → List Step
  | _, past, [] => past
  | s, past, step :: rest => historyFrom (s.take step).2 (s.remember past step) rest

/-- The steps of a session that made what stands under a name. -/
def history (steps : List Step) : String → List Step :=
  historyFrom empty (fun _ => []) steps

/-! ### One step -/

/-- Every name stands for what its history makes. -/
def Tracks (past : String → List Step) (s : Session) : Prop :=
  ∀ name x, s.slot name = some x → Made (past name) name x

/-- A step that succeeds continues the history of what it uses. -/
theorem made_of_writes {s : Session} {past : String → List Step} {step : Step}
    {writes : List (String × Option Slot)} (htracks : Tracks past s) (h : step.Writes s writes)
    {name : String} {x : Slot} (hx : (name, some x) ∈ writes) :
    Made (step.source?.elim [] past ++ [step]) name x := by
  cases h with
  | makeBuilder dest config =>
    obtain ⟨rfl, rfl⟩ : name = dest ∧ x = .builder (.new config) := by simpa using hx
    exact .builder name config []
  | makeRegistry dest config resolver =>
    obtain ⟨rfl, rfl⟩ : name = dest ∧ x = .registry ⟨resolver, config⟩ := by simpa using hx
    exact .registry name config resolver
  | define dest role user =>
    obtain ⟨rfl, rfl⟩ : name = dest ∧ x = .ability (defineAbilityFor user role) := by
      simpa using hx
    exact .define name role user
  | @build source b stands dest resolver =>
    obtain ⟨rfl, rfl⟩ : name = dest ∧ x = .ability (b.build resolver) := by simpa using hx
    obtain ⟨config, edits, hpast, rfl⟩ := (htracks source _ stands).builder_inv
    change Made (past source ++ _) _ _
    rw [hpast]
    exact .build source config edits name resolver
  | @edit source b stands e =>
    obtain ⟨rfl, rfl⟩ : name = source ∧ x = .builder (e.apply b) := by simpa using hx
    obtain ⟨config, edits, hpast, rfl⟩ := (htracks name _ stands).builder_inv
    rw [e.source?_step, Option.elim_some, hpast, builderSteps_concat, ← builderOf_concat]
    exact .builder name config (edits ++ [e])
  | @policy source g stands dest role user =>
    obtain ⟨rfl, rfl⟩ : name = dest ∧ x = .ability (g.buildAbility role ⟨user⟩) := by
      simpa using hx
    exact .policy (htracks source _ stands) name role user
  | @clone source y stands noBuilder dest =>
    obtain ⟨rfl, rfl⟩ : name = dest ∧ x = y := by simpa using hx
    exact .clone (htracks source _ stands) noBuilder name
  | query silent => cases hx

/-- Either a step succeeds and writes a name, or the name stands for what it stood for. -/
theorem written_or_kept (s : Session) (step : Step) (name : String) :
    (∃ writes, step.Writes s writes ∧ (name, (s.take step).2.slot name) ∈ writes ∧
      ∀ past, s.remember past step name = step.source?.elim [] past ++ [step]) ∨
    (s.take step).2.slot name = s.slot name ∧ ∀ past, s.remember past step name = past name := by
  by_cases hname : name ∈ step.touched
  · cases heffect : step.effect s with
    | error failure =>
      refine .inr ⟨?_, fun past => ?_⟩
      · rw [take, heffect]
      · simp [remember, heffect, Except.isOk, Except.toBool]
    | ok e =>
      have hwrites := Step.writes_of_effect heffect
      refine .inl ⟨e.writes, hwrites, ?_, fun past => ?_⟩
      · rw [take, heffect]
        exact mem_of_slot_writeAll (hwrites.names ▸ hname)
      · simp [remember, heffect, hname, Except.isOk, Except.toBool]
  · exact .inr ⟨slot_take_of_not_mem hname, fun past => by simp [remember, hname]⟩

theorem tracks_take {s : Session} {past : String → List Step} (htracks : Tracks past s)
    (step : Step) : Tracks (s.remember past step) (s.take step).2 := by
  intro name x hx
  rcases s.written_or_kept step name with ⟨writes, hwrites, hmem, hpast⟩ | ⟨hkept, hpast⟩
  · rw [hx] at hmem
    rw [hpast]
    exact made_of_writes htracks hwrites hmem
  · rw [hpast]
    exact htracks name x (hkept.symm.trans hx)

/-! ### A whole session -/

theorem tracks_run {s : Session} {past : String → List Step} (htracks : Tracks past s)
    (steps : List Step) : Tracks (historyFrom s past steps) (s.run steps).2 := by
  induction steps generalizing s past with
  | nil => exact htracks
  | cons step rest ih => exact ih (tracks_take htracks step)

theorem tracks_history (steps : List Step) : Tracks (history steps) (empty.run steps).2 := by
  refine tracks_run (fun name x h => ?_) steps
  cases h

/-- A history leaves steps out and does not change their order. -/
theorem historyFrom_sublist {s : Session} {past : String → List Step} {before : List Step}
    (hpast : ∀ name, (past name).Sublist before) (steps : List Step) (name : String) :
    (historyFrom s past steps name).Sublist (before ++ steps) := by
  induction steps generalizing s past before with
  | nil =>
    rw [List.append_nil]
    exact hpast name
  | cons step rest ih =>
    have hnext : ∀ other, (s.remember past step other).Sublist (before ++ [step]) := by
      intro other
      have hsource : (step.source?.elim [] past).Sublist before := by
        cases step.source? with
        | none => exact List.nil_sublist before
        | some source => exact hpast source
      rw [remember]
      split
      · exact hsource.append (List.Sublist.refl [step])
      · exact (hpast other).trans (List.sublist_append_left before [step])
    rw [List.append_cons]
    exact ih hnext

theorem run_concat (s : Session) (steps : List Step) (step : Step) :
    (s.run (steps ++ [step])).2 = ((s.run steps).2.take step).2 := by
  induction steps generalizing s with
  | nil => rfl
  | cons first rest ih => exact ih (s.take first).2

theorem slot_run_concat {s : Session} (steps : List Step) (writes : List (String × Option Slot))
    {step : Step} {name : String} {x : Option Slot}
    (h : step.Writes (s.run steps).2 (writes ++ [(name, x)])) :
    (s.run (steps ++ [step])).2.slot name = x := by
  rw [run_concat, take_of_writes h, writeAll, List.foldl_append]
  exact if_pos rfl

theorem slot_run_builderSteps (name : String) (config : AbilityConfig) (edits : List Edit) :
    (empty.run (builderSteps name config edits)).2.slot name =
      some (.builder (builderOf config edits)) := by
  induction edits using List.reverseRecOn with
  | nil => exact slot_run_concat [] [] (.makeBuilder name config)
  | append_singleton edits e ih =>
    rw [← builderSteps_concat, builderOf_concat]
    exact slot_run_concat _ [] (.edit ih e)

/-- Steps that make something make it in a session of their own. -/
theorem slot_run_of_made {steps : List Step} {name : String} {x : Slot} (h : Made steps name x) :
    (empty.run steps).2.slot name = some x := by
  induction h with
  | builder name config edits => exact slot_run_builderSteps name config edits
  | build source config edits dest resolver =>
    have stands := slot_run_builderSteps source config edits
    exact slot_run_concat _ [(source, none)] (.build stands dest resolver)
  | registry name config resolver =>
    exact slot_run_concat [] [] (.makeRegistry name config resolver)
  | policy made dest role user stands =>
    exact slot_run_concat _ [] (.policy stands dest role user)
  | define dest role user =>
    exact slot_run_concat [] [] (.define dest role user)
  | clone made noBuilder dest stands =>
    exact slot_run_concat _ [] (.clone stands noBuilder dest)

/-! ### Builders -/

/-- The builder under a name after some steps: made by the last of them that made one there, and
changed by all changes of it since then. -/
def BuiltSince (steps : List Step) (name : String) (b : AbilityBuilder) : Prop :=
  ∃ before config after, steps = before ++ .makeBuilder name (.ok config) :: after ∧
    (∀ c, .makeBuilder name (.ok c) ∉ after) ∧
    b = builderOf config (after.filterMap (Step.edit? name))

theorem builtSince_make (steps : List Step) (name : String) (config : AbilityConfig) :
    BuiltSince (steps ++ [.makeBuilder name (.ok config)]) name (.new config) :=
  ⟨steps, config, [], rfl, fun _ => List.not_mem_nil, rfl⟩

theorem BuiltSince.concat {steps : List Step} {name : String} {b : AbilityBuilder} {step : Step}
    (h : BuiltSince steps name b) (hstep : ∀ c, step ≠ .makeBuilder name (.ok c)) :
    BuiltSince (steps ++ [step]) name ((step.edit? name).elim b (·.apply b)) := by
  obtain ⟨before, config, after, rfl, hlast, rfl⟩ := h
  refine ⟨before, config, after ++ [step], by simp, fun c hc => ?_, ?_⟩
  · rcases List.mem_append.mp hc with hc | hc
    · exact hlast c hc
    · exact hstep c (List.mem_singleton.mp hc).symm
  · rw [List.filterMap_append]
    cases hedit : step.edit? name with
    | none => simp [hedit]
    | some e => simp [hedit, builderOf_concat]

/-- A step that leaves the builder under a name as it was is no news about it. -/
theorem BuiltSince.kept {s : Session} {steps : List Step} {step : Step} {name : String}
    {b : AbilityBuilder} (h : BuiltSince steps name b) (before : s.slot name = some (.builder b))
    (after : (s.take step).2.slot name = some (.builder b)) :
    BuiltSince (steps ++ [step]) name b := by
  by_cases hmake : ∃ c, step = .makeBuilder name (.ok c)
  · obtain ⟨config, rfl⟩ := hmake
    rw [take_of_writes (.makeBuilder name config)] at after
    obtain rfl : AbilityBuilder.new config = b := by simpa using after
    exact builtSince_make steps name config
  · have hnext := h.concat fun c hc => hmake ⟨c, hc⟩
    cases hedit : step.edit? name with
    | none =>
      rw [hedit] at hnext
      exact hnext
    | some e =>
      obtain rfl := Edit.eq_step_of_edit? hedit
      rw [take_of_writes (.edit before e)] at after
      obtain hsame : e.apply b = b := by simpa using after
      rw [hedit, Option.elim_some, hsame] at hnext
      exact hnext

theorem builtSince_of_slot {steps : List Step} {name : String} {b : AbilityBuilder}
    (h : (empty.run steps).2.slot name = some (.builder b)) : BuiltSince steps name b := by
  induction steps using List.reverseRecOn generalizing b with
  | nil => cases h
  | append_singleton steps step ih =>
    rw [run_concat] at h
    rcases written_or_kept (empty.run steps).2 step name with
      ⟨writes, hwrites, hmem, -⟩ | ⟨hkept, -⟩
    · rw [h] at hmem
      cases hwrites with
      | makeBuilder dest config =>
        obtain ⟨rfl, rfl⟩ : name = dest ∧ b = .new config := by simpa using hmem
        exact builtSince_make steps name config
      | @edit source b' stands e =>
        obtain ⟨rfl, rfl⟩ : name = source ∧ b = e.apply b' := by simpa using hmem
        have hother : ∀ c, e.step name ≠ .makeBuilder name (.ok c) := by
          cases e <;> simp [Edit.step]
        have hnext := (ih stands).concat hother
        rw [Edit.edit?_step] at hnext
        exact hnext
      | clone stands noBuilder dest =>
        obtain ⟨-, hx⟩ : _ ∧ Slot.builder b = _ := by simpa using hmem
        exact absurd hx.symm (noBuilder b)
      | query silent => cases hmem
      | _ => simp at hmem
    · have hbefore := hkept.symm.trans h
      exact (ih hbefore).kept hbefore h

/-! ### Leaving steps out -/

/-- Whether a step uses or touches one of some names. -/
def concerns (related : List String) (step : Step) : Bool :=
  (step.source?.toList ++ step.touched).any (· ∈ related)

/-- Whatever writes one of the names uses none of the others. -/
def SelfContained (related : List String) (steps : List Step) : Prop :=
  ∀ step ∈ steps, (∃ name ∈ step.touched, name ∈ related) →
    ∀ source, step.source? = some source → source ∈ related

def AgreeOn (related : List String) (s s' : Session) : Prop :=
  ∀ name ∈ related, s.slot name = s'.slot name

theorem not_mem_touched_of_not_concerns {related : List String} {step : Step} {name : String}
    (h : concerns related step = false) (hname : name ∈ related) : name ∉ step.touched := by
  intro htouched
  rw [concerns, List.any_eq_false] at h
  exact h name (List.mem_append_right _ htouched) (decide_eq_true hname)

theorem mem_source_of_concerns {related : List String} {steps : List Step} {step : Step}
    (hself : SelfContained related steps) (hmem : step ∈ steps)
    (h : concerns related step = true) (source : String) (hsource : step.source? = some source) :
    source ∈ related := by
  rw [concerns, List.any_eq_true] at h
  obtain ⟨name, hname, hrelated⟩ := h
  rcases List.mem_append.mp hname with hused | htouched
  · rw [hsource, Option.toList_some, List.mem_singleton] at hused
    rw [← hused]
    exact of_decide_eq_true hrelated
  · exact hself step hmem ⟨name, htouched, of_decide_eq_true hrelated⟩ source hsource

theorem agreeOn_take_of_not_concerns {related : List String} {s s' : Session} {step : Step}
    (h : AgreeOn related s s') (hstep : concerns related step = false) :
    AgreeOn related (s.take step).2 s' := by
  intro name hname
  rw [slot_take_of_not_mem (not_mem_touched_of_not_concerns hstep hname)]
  exact h name hname

theorem take_of_agreeOn {related : List String} {s s' : Session} {step : Step}
    (h : AgreeOn related s s')
    (hsource : ∀ source, step.source? = some source → source ∈ related) :
    (s.take step).1 = (s'.take step).1 ∧ AgreeOn related (s.take step).2 (s'.take step).2 := by
  have heffect : step.effect s = step.effect s' :=
    Step.effect_congr fun source hused => h source (hsource source hused)
  rw [take, take, heffect]
  cases step.effect s' with
  | error failure => exact ⟨rfl, h⟩
  | ok e => exact ⟨rfl, fun name hname => slot_writeAll_congr (.inr (h name hname))⟩

/-- What a session says about steps that concern some names. -/
def outcomesOf (related : List String) (s : Session) (steps : List Step) :
    List (Field StepAnswer × List Notice) :=
  ((steps.zip (s.run steps).1).filter fun x => concerns related x.1).map Prod.snd

theorem outcomesOf_cons (related : List String) (s : Session) (step : Step) (rest : List Step) :
    outcomesOf related s (step :: rest) =
      if concerns related step then (s.take step).1 :: outcomesOf related (s.take step).2 rest
      else outcomesOf related (s.take step).2 rest := by
  rw [outcomesOf, run, List.zip_cons_cons, List.filter_cons]
  split <;> rfl

/-- Two sessions that agree on some names, one of which leaves out the steps that do not concern
them, agree on the names afterwards and on what the other steps come to. -/
theorem run_filter_concerns {related : List String} {s s' : Session} (h : AgreeOn related s s')
    {steps : List Step} (hself : SelfContained related steps) :
    AgreeOn related (s.run steps).2 (s'.run (steps.filter (concerns related))).2 ∧
      outcomesOf related s steps = (s'.run (steps.filter (concerns related))).1 := by
  induction steps generalizing s s' with
  | nil => exact ⟨h, rfl⟩
  | cons step rest ih =>
    have hrest : SelfContained related rest := fun other hother =>
      hself other (List.mem_cons_of_mem _ hother)
    by_cases hstep : concerns related step = true
    · obtain ⟨hsame, hafter⟩ :=
        take_of_agreeOn h (mem_source_of_concerns hself List.mem_cons_self hstep)
      obtain ⟨hagree, houtcomes⟩ := ih hafter hrest
      rw [List.filter_cons_of_pos hstep, outcomesOf_cons, if_pos hstep, houtcomes, hsame]
      exact ⟨hagree, rfl⟩
    · have hleft := agreeOn_take_of_not_concerns h ((Bool.not_eq_true _).mp hstep)
      rw [List.filter_cons_of_neg hstep, outcomesOf_cons, if_neg hstep]
      exact ih hleft hrest

/-! ### Isolation -/

/-- What a step leaves alone: the names it does not touch, and everything if it fails or asks. -/
structure Framed (s : Session) (step : Step) : Prop where
  others : ∀ name, name ∉ step.touched → (s.take step).2.slot name = s.slot name
  failing : ∀ failure, (s.take step).1.1 = .error failure → (s.take step).2 = s
  asking : step.touched = [] → (s.take step).2 = s

/-- Building uses a builder up and makes its ability. -/
theorem take_build {s : Session} {source dest : String} {resolver : Field Resolver}
    {answer : StepAnswer} (h : (s.take (.build source dest resolver)).1.1 = .ok answer) :
    ∃ b r, s.slot source = some (.builder b) ∧ resolver = .ok r ∧
      (s.take (.build source dest resolver)).2.slot dest = some (.ability (b.build r)) ∧
      (source ≠ dest → (s.take (.build source dest resolver)).2.slot source = none) := by
  rw [take] at h
  cases heffect : (Step.build source dest resolver).effect s with
  | error failure =>
    rw [heffect] at h
    cases h
  | ok e =>
    simp only [Step.effect, Decoded.bind_eq_ok, builder_eq_ok] at heffect
    obtain ⟨r, rfl, b, stands, -⟩ := heffect
    rw [take_of_writes (.build stands dest r)]
    exact ⟨b, r, stands, rfl, by simp, fun hne => by simp [hne]⟩

/-- **Contexts do not leak into one another.** A step leaves alone whatever it does not write. What
stands under a name after a session is what its own history makes, in a session of its own too. A
builder that is built is used up, and the ability has the rules that the builder was given since it
was made. So all steps that do not concern some names can be left out: the names stand for the same
and the other steps come to the same. -/
theorem contexts_isolated :
    (∀ s step, Framed s step) ∧
    (∀ steps name x, (empty.run steps).2.slot name = some x →
      Made (history steps name) name x ∧ (history steps name).Sublist steps ∧
        (empty.run (history steps name)).2.slot name = some x) ∧
    (∀ steps source dest resolver answer,
      ((empty.run steps).2.take (.build source dest resolver)).1.1 = .ok answer →
        ∃ b r, BuiltSince steps source b ∧ resolver = .ok r ∧
          let after := (empty.run (steps ++ [.build source dest resolver])).2
          after.slot dest = some (.ability (b.build r)) ∧
            (source ≠ dest → after.slot source = none)) ∧
    ∀ related steps, SelfContained related steps →
      (∀ name ∈ related, (empty.run steps).2.slot name =
        (empty.run (steps.filter (concerns related))).2.slot name) ∧
      outcomesOf related empty steps = (empty.run (steps.filter (concerns related))).1 := by
  refine ⟨?_, ?_, ?_, ?_⟩
  · intro s step
    exact ⟨fun _ => slot_take_of_not_mem, fun _ => take_of_failure, take_of_silent⟩
  · intro steps name x hx
    have hmade := tracks_history steps name x hx
    have hsublist : (history steps name).Sublist ([] ++ steps) :=
      historyFrom_sublist (fun _ => List.Sublist.refl []) steps name
    exact ⟨hmade, hsublist, slot_run_of_made hmade⟩
  · intro steps source dest resolver answer hanswer
    obtain ⟨b, r, stands, hresolver, hafter⟩ := take_build hanswer
    rw [run_concat]
    exact ⟨b, r, builtSince_of_slot stands, hresolver, hafter⟩
  · intro related steps hself
    exact run_filter_concerns (fun _ _ => rfl) hself

/-- Two builders that are changed in turns. The ability of the first is as if there had been no
other. -/
theorem contexts_isolated_two_builders :
    let resolver : Resolver := fun _ => .ok .project
    let grant : Edit := .rule false .get .all none
    let steps := [.makeBuilder "a" (.ok .default), .makeBuilder "b" (.ok ⟨true⟩), grant.step "a",
      Edit.step "b" (.rule true .manage .all none), Edit.step "a" (.because "everyone may look"),
      .because "c" (.ok "no builder"), .build "b" "y" (.ok resolver)]
    let last := Step.build "a" "x" (.ok resolver)
    let all := steps ++ [last]
    let reading : Ability := ⟨[⟨.get, .all, none, false, some "everyone may look"⟩],
      resolver, ⟨false⟩⟩
    Framed (empty.run steps).2 last ∧
      history all "x" = builderSteps "a" .default [grant, .because "everyone may look"] ++ [last] ∧
      (empty.run (history all "x")).2.slot "x" = some (.ability reading) ∧
      (∃ b, BuiltSince steps "a" b ∧ b.rules = reading.rules) ∧
      all.filter (concerns ["a", "x"]) = history all "x" ∧
      (empty.run all).2.slot "x" = (empty.run (all.filter (concerns ["a", "x"]))).2.slot "x" := by
  intro resolver grant steps last all reading
  have hself : SelfContained ["a", "x"] all := by
    simp [SelfContained, all, steps, last, grant, Edit.step, Step.touched, Step.source?]
  obtain ⟨hframed, hmade, hbuilt, hfiltered⟩ := contexts_isolated
  obtain ⟨b, r, hb, hr, hx, -⟩ := hbuilt steps "a" "x" (.ok resolver) (.count 1) rfl
  refine ⟨hframed _ last, rfl, (hmade all "x" (.ability reading) rfl).2.2, ⟨b, hb, ?_⟩, rfl,
    (hfiltered ["a", "x"] all hself).1 "x" (by simp)⟩
  have hbuilds : Slot.ability reading = .ability (b.build r) := Option.some.inj hx
  exact (congrArg Ability.rules (Slot.ability.inj hbuilds)).symm

end Session

end Clearance
