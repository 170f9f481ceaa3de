import Clearance.Ability.Policy

/-!
# Inspecting abilities

The texts that show builders, registries and abilities with all that is in them.
-/

namespace Clearance

namespace Inspect

def wrapped (name inner : String) : String :=
  name ++ "(" ++ inner ++ ")"

/-- A record with its fields; an open record has more than it shows. -/
def record (name : String) (fields : List (String × String)) (isOpen : Bool) : String :=
  let shown := fields.map fun (field, value) => field ++ ": " ++ value
  name ++ " \x7b " ++ ", ".intercalate (shown ++ if isOpen then [".."] else []) ++ " \x7d"

def list (items : List String) : String :=
  "[" ++ ", ".intercalate items ++ "]"

def table (entries : List (String × String)) : String :=
  "\x7b" ++ ", ".intercalate (entries.map fun (key, value) => key ++ ": " ++ value) ++ "\x7d"

def optional {α : Type} (show_ : α → String) : Option α → String
  | none => "None"
  | some x => wrapped "Some" (show_ x)

def bool (b : Bool) : String :=
  if b then "true" else "false"

end Inspect

open Inspect

def Action.inspect : Action → String
  | manage => "Manage"
  | get => "Get"
  | create => "Create"
  | update => "Update"
  | delete => "Delete"
  | transferOwnership => "TransferOwnership"
  | exportData => "Export"

def Attribute.inspect : Attribute → String
  | id => "Id"
  | ownerId => "OwnerId"
  | organizationId => "OrganizationId"
  | authorId => "AuthorId"

def SubjectMatcher.inspect : SubjectMatcher → String
  | all => "All"
  | type t => wrapped "Type" t.text
  | anyOf types => wrapped "AnyOf" (list (types.map SubjectType.text))

/-- An attribute value as shown, with its kind. -/
def AttrValue.inspect : AttrValue → String
  | id u => wrapped "Id" u.text
  | text s => wrapped "Text" (Quoted.text s)
  | bool b => wrapped "Bool" (Inspect.bool b)
  | int n => wrapped "Int" (intText n.val)

def Condition.inspect (c : Condition) : String :=
  record "Condition" [("attrs", table (c.entries.map fun (a, v) => (a.inspect, v.inspect)))] false

def Rule.inspect (r : Rule) : String :=
  record "Rule"
    [("action", r.action.inspect), ("subject", r.subject.inspect),
      ("condition", optional Condition.inspect r.condition), ("inverted", bool r.inverted),
      ("reason", optional Quoted.text r.reason)] false

def AbilityConfig.inspect (c : AbilityConfig) : String :=
  record "AbilityConfig" [("log_decisions", bool c.logDecisions)] false

def AbilityBuilder.inspect (b : AbilityBuilder) : String :=
  record "AbilityBuilder"
    [("rules", list (b.rules.map Rule.inspect)), ("config", b.config.inspect)] false

/-- An ability as shown, without its resolver. -/
def Ability.inspect (a : Ability) : String :=
  record "Ability"
    [("rules", list (a.rules.map Rule.inspect)), ("config", a.config.inspect)] true

/-- A registry as shown, without its resolver. -/
def PolicyRegistry.inspect (g : PolicyRegistry) : String :=
  record "PolicyRegistry" [("config", g.config.inspect)] true

end Clearance
