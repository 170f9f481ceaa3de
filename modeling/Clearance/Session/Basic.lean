import Clearance.Ability.Inspect
import Clearance.Decoding.Fault

/-!
# Sessions

Builders, registries and abilities under names, and the steps that make, change and ask them. A
step may come with fields that cannot be understood; it reports the first thing that is wrong and
then changes nothing. A step touches no name but the one it writes, changes or uses up.
-/

namespace Clearance

inductive Slot where
  | builder (builder : AbilityBuilder)
  | registry (registry : PolicyRegistry)
  | ability (ability : Ability)

structure Session where
  slot : String → Option Slot

inductive Failure where
  | ability (error : AbilityError)
  | fault (fault : Fault)
  /-- A field of the step does not say what it has to say. -/
  | field (name : String)
deriving DecidableEq, Repr

/-- A field of a step, or why it cannot be understood. -/
abbrev Field (α : Type) := Except Failure α

namespace Session

def empty : Session := ⟨fun _ => none⟩

/-- Lets a name stand for something, or for nothing. -/
def write (s : Session) (name : String) (x : Option Slot) : Session :=
  ⟨fun other => if other = name then x else s.slot other⟩

def onField : String := "on"

def builder (s : Session) (name : String) : Field AbilityBuilder :=
  match s.slot name with
  | some (.builder b) => .ok b
  | _ => .error (.field onField)

def registry (s : Session) (name : String) : Field PolicyRegistry :=
  match s.slot name with
  | some (.registry g) => .ok g
  | _ => .error (.field onField)

def ability (s : Session) (name : String) : Field Ability :=
  match s.slot name with
  | some (.ability a) => .ok a
  | _ => .error (.field onField)

def any (s : Session) (name : String) : Field Slot :=
  match s.slot name with
  | some x => .ok x
  | none => .error (.field onField)

@[simp] theorem slot_write (s : Session) (name other : String) (x : Option Slot) :
    (s.write name x).slot other = if other = name then x else s.slot other := rfl

end Session

inductive Step where
  | makeBuilder (dest : String) (config : Field AbilityConfig)
  | makeRegistry (dest : String) (config : Field AbilityConfig) (resolver : Field Resolver)
  /-- The ability of a role with default settings under a name. -/
  | define (dest : String) (role : Field Role) (user : Field UserId)
  /-- Freezes a builder, which is used up, into an ability under a name. -/
  | build (source : String) (dest : String) (resolver : Field Resolver)
  /-- Appends a grant or, if `inverted`, a denial to a builder. -/
  | rule (source : String) (inverted : Bool) (action : Field Action)
      (subject : Field SubjectMatcher) (condition : Field (Option Condition))
  /-- Gives the last rule of a builder a reason. -/
  | because (source : String) (reason : Field String)
  | policyInto (source : String) (role : Field Role) (user : Field UserId)
  | size (source : String)
  | inspect (source : String)
  | config (source : String)
  | policy (source : String) (role : Field Role) (user : Field UserId) (dest : String)
  /-- A registry or an ability once more, under another name. -/
  | clone (source : String) (dest : String)
  | rules (source : String)
  | ask (source : String) (question : Question) (action : Field Action) (target : Field Target)
  | query (source : String) (action : Field Action) (target : Field Target)
  /-- Asks an ability about every action on the types and on further targets. -/
  | matrix (source : String) (targets : Field (List Target))

structure QueryReport where
  can : Bool
  cannot : Bool
  decision : Decision
  rule : Option Nat
deriving DecidableEq, Repr

inductive Verdict where
  | allowed
  | denied
  | failed
deriving DecidableEq, Repr

inductive StepAnswer where
  | nothing
  | count (rules : Nat)
  | size (rules : Nat)
  | text (text : String)
  | config (config : AbilityConfig)
  | rules (rules : List Rule)
  | answer (answer : Answer)
  | report (report : QueryReport)
  | matrix (rows : List (List Verdict))
deriving DecidableEq, Repr

namespace Ability

/-- Answers every question about a query, one after another. -/
def tellReport (a : Ability) (action : Action) (target : Target) : Told QueryReport := do
  let (_, index) ← a.find action target
  let decision ← a.tellDecide action target
  let can ← a.tellCan action target
  let cannot ← a.tellCannot action target
  return ⟨can, cannot, decision, index⟩

def report (a : Ability) (action : Action) (target : Target) :
    Except AbilityError QueryReport × List Notice :=
  (a.tellReport action target).run.run []

/-- Whether an action is allowed, and the notices that arise. -/
def verdict (a : Ability) (action : Action) (target : Target) : Verdict × List Notice :=
  match (a.tellCan action target).run.run [] with
  | (.ok true, notices) => (.allowed, notices)
  | (.ok false, notices) => (.denied, notices)
  | (.error _, notices) => (.failed, notices)

def matrix (a : Ability) (targets : List Target) : List (List Verdict) × List Notice :=
  let rows := targets.map fun target => Action.all.map fun action => a.verdict action target
  (rows.map fun row => row.map Prod.fst, rows.flatMap fun row => row.flatMap Prod.snd)

end Ability

/-- What a step comes to: its answer, what it tells the log, and what it writes. -/
structure Effect where
  answer : StepAnswer
  notices : List Notice
  writes : List (String × Option Slot)

namespace Effect

/-- A step that only answers. -/
def answering (answer : StepAnswer) (notices : List Notice) : Effect := ⟨answer, notices, []⟩

def writing (answer : StepAnswer) (name : String) (x : Slot) : Effect :=
  ⟨answer, [], [(name, some x)]⟩

def changing (name : String) (b : AbilityBuilder) : Effect :=
  writing (.count b.size) name (.builder b)

end Effect

namespace Step

/-- What a step comes to, or the first thing that is wrong with it. -/
def effect (s : Session) : Step → Field Effect
  | makeBuilder dest settings => do
      return .writing .nothing dest (.builder (.new (← settings)))
  | makeRegistry dest settings resolver => do
      let settings ← settings
      let resolver ← resolver
      return .writing .nothing dest (.registry ⟨resolver, settings⟩)
  | define dest role user => do
      let role ← role
      let user ← user
      let a := defineAbilityFor user role
      return ⟨.count a.rules.length, PolicyRegistry.default.buildNotices role ⟨user⟩,
        [(dest, some (.ability a))]⟩
  | build source dest resolver => do
      let resolver ← resolver
      let b ← s.builder source
      let a := b.build resolver
      return ⟨.count a.rules.length, [], [(source, none), (dest, some (.ability a))]⟩
  | rule source inverted action subject condition => do
      let b ← s.builder source
      let action ← action
      let subject ← subject
      let condition ← condition
      return .changing source
        (if inverted then b.deny action subject condition else b.allow action subject condition)
  | because source reason => do
      let b ← s.builder source
      return .changing source (b.because (← reason))
  | policyInto source role user => do
      let b ← s.builder source
      let role ← role
      let user ← user
      return .changing source (role.policy ⟨user⟩ b)
  | size source => do
      match ← s.any source with
      | .builder b => return .answering (.size b.size) []
      | .ability a => return .answering (.size a.rules.length) []
      | .registry _ => throw (.field Session.onField)
  | inspect source => do
      match ← s.any source with
      | .builder b => return .answering (.text b.inspect) []
      | .ability a => return .answering (.text a.inspect) []
      | .registry g => return .answering (.text g.inspect) []
  | config source => do
      return .answering (.config (← s.registry source).config) []
  | policy source role user dest => do
      let g ← s.registry source
      let role ← role
      let user ← user
      let a := g.buildAbility role ⟨user⟩
      return ⟨.count a.rules.length, g.buildNotices role ⟨user⟩, [(dest, some (.ability a))]⟩
  | clone source dest => do
      match ← s.any source with
      | .ability a => return .writing (.count a.rules.length) dest (.ability a)
      | .registry g => return .writing .nothing dest (.registry g)
      | .builder _ => throw (.field Session.onField)
  | rules source => do
      return .answering (.rules (← s.ability source).rules) []
  | ask source question action target => do
      let a ← s.ability source
      let action ← action
      let target ← target
      match a.ask question action target with
      | (.ok answer, notices) => return .answering (.answer answer) notices
      | (.error e, _) => throw (.ability e)
  | query source action target => do
      let a ← s.ability source
      let action ← action
      let target ← target
      match a.report action target with
      | (.ok report, notices) => return .answering (.report report) notices
      | (.error e, _) => throw (.ability e)
  | matrix source targets => do
      let a ← s.ability source
      let targets ← targets
      let (rows, notices) := a.matrix (SubjectType.all.map .type ++ targets)
      return .answering (.matrix rows) notices

end Step

namespace Session

def writeAll (s : Session) (writes : List (String × Option Slot)) : Session :=
  writes.foldl (fun s (name, x) => s.write name x) s

@[simp] theorem writeAll_nil (s : Session) : s.writeAll [] = s := rfl

@[simp] theorem writeAll_cons (s : Session) (name : String) (x : Option Slot)
    (rest : List (String × Option Slot)) :
    s.writeAll ((name, x) :: rest) = (s.write name x).writeAll rest := rfl

/-- Takes a step: its answer, what it tells the log, and the session afterwards. -/
def take (s : Session) (step : Step) : (Field StepAnswer × List Notice) × Session :=
  match step.effect s with
  | .ok e => ((.ok e.answer, e.notices), s.writeAll e.writes)
  | .error failure => ((.error failure, []), s)

def run : Session → List Step → List (Field StepAnswer × List Notice) × Session
  | s, [] => ([], s)
  | s, step :: rest =>
      let (outcome, s) := s.take step
      let (outcomes, s) := run s rest
      (outcome :: outcomes, s)

end Session

end Clearance
