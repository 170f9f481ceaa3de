import Clearance.Decoding.Choice
import Clearance.Decoding.Record
import Clearance.Error
import Clearance.Vocabulary.Attribute

/-!
# Vocabulary as documents

How roles, actions, types, attributes, attribute values and identifiers are written as documents
and read from them. Words have names in documents, which are spelled as they are shown.
-/

namespace Clearance

/-- The name of a role in documents. -/
def Role.name : Role → String
  | admin => "ADMIN"
  | member => "MEMBER"
  | billing => "BILLING"

@[simp] theorem Role.name_eq_text (r : Role) : r.name = r.text := by
  cases r <;> rfl

def Role.document (r : Role) : Document := .text r.name

def Role.spellings : List (String × Role) :=
  [("ADMIN", .admin), ("MEMBER", .member), ("BILLING", .billing)]

def Role.decode : Decoder Role := Document.asName Role.spellings

/-- The name of an action in documents. -/
def Action.name : Action → String
  | manage => "manage"
  | get => "get"
  | create => "create"
  | update => "update"
  | delete => "delete"
  | transferOwnership => "transfer_ownership"
  | exportData => "export"

@[simp] theorem Action.name_eq_text (a : Action) : a.name = a.text := by
  cases a <;> rfl

def Action.document (a : Action) : Document := .text a.name

def Action.spellings : List (String × Action) :=
  [("manage", .manage), ("get", .get), ("create", .create), ("update", .update),
    ("delete", .delete), ("transfer_ownership", .transferOwnership), ("export", .exportData)]

def Action.decode : Decoder Action := Document.asName Action.spellings

/-- The name of a type in documents. -/
def SubjectType.name : SubjectType → String
  | user => "User"
  | project => "Project"
  | organization => "Organization"
  | invite => "Invite"
  | billing => "Billing"

@[simp] theorem SubjectType.name_eq_text (t : SubjectType) : t.name = t.text := by
  cases t <;> rfl

def SubjectType.document (t : SubjectType) : Document := .text t.name

def SubjectType.spellings : List (String × SubjectType) :=
  [("User", .user), ("Project", .project), ("Organization", .organization), ("Invite", .invite),
    ("Billing", .billing)]

def SubjectType.decode : Decoder SubjectType := Document.asName SubjectType.spellings

/-- The name of an attribute in documents. -/
def Attribute.name : Attribute → String
  | id => "id"
  | ownerId => "ownerId"
  | organizationId => "organizationId"
  | authorId => "authorId"

@[simp] theorem Attribute.name_eq_text (a : Attribute) : a.name = a.text := by
  cases a <;> rfl

def Attribute.document (a : Attribute) : Document := .text a.name

def Attribute.spellings : List (String × Attribute) :=
  [("id", .id), ("ownerId", .ownerId), ("organizationId", .organizationId),
    ("authorId", .authorId)]

def Attribute.decode : Decoder Attribute := Document.asName Attribute.spellings

def Uuid.document (u : Uuid) : Document := .text u.text

def Id.document {entity : Entity} (i : Id entity) : Document := i.uuid.document

def Id.decode (entity : Entity) : Decoder (Id entity) := fun _ d => d.asId entity

namespace AttrValue

inductive Kind where
  | id
  | text
  | bool
  | int
deriving DecidableEq, Repr

def Kind.spellings : List (String × Kind) :=
  [("id", .id), ("text", .text), ("bool", .bool), ("int", .int)]

def kindMember : String := "kind"

def valueMember : String := "value"

/-- The document of an attribute value: a table of its kind and the value. -/
def document : AttrValue → Document
  | id u => .table [(kindMember, .text "id"), (valueMember, u.document)]
  | text s => .table [(kindMember, .text "text"), (valueMember, .text s)]
  | bool b => .table [(kindMember, .text "bool"), (valueMember, .bool b)]
  | int n => .table [(kindMember, .text "int"), (valueMember, .int n.val)]

def Kind.decodeValue (kind : Kind) (d : Document) : Decoded AttrValue :=
  match kind with
  | .id => d.asUuid.map AttrValue.id
  | .text => d.asText.map AttrValue.text
  | .bool => d.asBool.map AttrValue.bool
  | .int => d.asInt.map AttrValue.int

inductive Progress where
  | nothing
  | kind (kind : Kind)
  | value (value : Document)
  | done (result : AttrValue)
deriving Repr

/-- Goes through the members of a table. A value that comes before its kind is set aside. -/
def visit (medium : Medium) : Progress → List (String × Document) → Decoded AttrValue
  | .done v, [] => .ok v
  | .kind _, [] => .error (.missingMember valueMember)
  | _, [] => .error (.missingMember kindMember)
  | progress, (name, d) :: rest =>
      if name = kindMember then
        match progress with
        | .nothing => do
            let kind ← d.asName Kind.spellings medium
            visit medium (.kind kind) rest
        | .value stored => do
            let kind ← d.asName Kind.spellings medium
            visit medium (.done (← kind.decodeValue stored)) rest
        | _ => .error (.repeatedMember kindMember)
      else if name = valueMember then
        match progress with
        | .nothing => do
            d.store medium
            visit medium (.value d) rest
        | .kind kind => do
            visit medium (.done (← kind.decodeValue d)) rest
        | _ => .error (.repeatedMember valueMember)
      else do
        d.passOver medium
        visit medium progress rest

/-- Decodes an attribute value: a table of kind and value, or a list of the two. -/
def decode : Decoder AttrValue
  | medium, .table members => visit medium .nothing members
  | medium, .list items =>
      match items with
      | [] => .error (.wrongLength 0 (.taggedPair "AttrValue"))
      | [kind] => do
          let _ ← kind.asName Kind.spellings medium
          throw (.wrongLength 1 (.taggedPair "AttrValue"))
      | kind :: value :: surplus => do
          let kind ← kind.asName Kind.spellings medium
          let result ← kind.decodeValue value
          match if surplus.isEmpty then none else Document.surplusFault medium items.length 2 with
          | some fault => throw fault
          | none => return result
  | _, d => .error (d.unexpected (.taggedPair "AttrValue"))

end AttrValue

end Clearance
