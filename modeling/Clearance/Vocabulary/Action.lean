/-!
# Actions

The operations that can be authorized. `manage` is the wildcard: a rule for it covers every
action, while a query for it is covered by rules for it alone.
-/

namespace Clearance

inductive Action where
  | manage
  | get
  | create
  | update
  | delete
  | transferOwnership
  | exportData
deriving DecidableEq, Repr

namespace Action

/-- The actions in order, the wildcard first. -/
def all : List Action := [manage, get, create, update, delete, transferOwnership, exportData]

def text : Action → String
  | manage => "manage"
  | get => "get"
  | create => "create"
  | update => "update"
  | delete => "delete"
  | transferOwnership => "transfer_ownership"
  | exportData => "export"

def ofText? (s : String) : Option Action :=
  all.find? fun a => a.text = s

def covers (ruled asked : Action) : Bool :=
  ruled = manage || ruled = asked

end Action

end Clearance
