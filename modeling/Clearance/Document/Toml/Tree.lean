import Clearance.Document.Basic

/-!
# TOML tables

The tree that the lines of a TOML file build. A table remembers how it came to be: by a header of
its own, by the headers of tables inside it, or by dotted keys. This decides which lines may still
add to it, so that nothing is defined twice.
-/

namespace Clearance

namespace Toml

inductive Origin where
  /-- By a header, or as the table of the whole file or of an inline table. -/
  | header
  | implied
  | dotted
deriving DecidableEq, Repr

inductive Node where
  | leaf (value : Document)
  | table (origin : Origin) (members : List (String × Node))
  /-- A list of tables by headers, of which the last is still open. -/
  | tables (items : List Document) (last : List (String × Node))

mutual

def Node.document : Node → Document
  | .leaf d => d
  | .table _ members => .table (documents members)
  | .tables items last => .list (items ++ [.table (documents last)])

def documents : List (String × Node) → List (String × Document)
  | [] => []
  | (name, node) :: rest => (name, node.document) :: documents rest

end

/-- Changes what stands under a name, in its place; what is new comes last. -/
def alter (name : String) (f : Option Node → Option Node) (members : List (String × Node)) :
    Option (List (String × Node)) :=
  match members with
  | [] => (f none).map fun node => [(name, node)]
  | (other, node) :: rest =>
      if other = name then (f (some node)).map fun node => (name, node) :: rest
      else (alter name f rest).map ((other, node) :: ·)

def remove (name : String) (members : List (String × Node)) :
    Option Node × List (String × Node) :=
  (members.lookup name, members.filter fun member => member.1 ≠ name)

/-- Gives a key its value in a table that came to be in the given way. A key with points leads
through tables without headers, and adds only to one that such keys have made. -/
def assign (value : Document) (origin : Origin) :
    List String → List (String × Node) → Option (List (String × Node))
  | [], _ => none
  | [name], members =>
      if origin = .implied then none
      else alter name (fun node => if node.isNone then some (.leaf value) else none) members
  | name :: second :: path, members =>
      alter name (fun node =>
        match node with
        | none => (assign value .dotted (second :: path) []).map (.table .dotted)
        | some (.table .header _) => none
        | some (.table inner more) =>
            (assign value inner (second :: path) more).map (.table inner)
        | some (.tables items last) =>
            (assign value .implied (second :: path) last).map (.tables items)
        | some (.leaf _) => none) members

structure Entry where
  path : List String
  value : Document

def assignAll (entries : List Entry) (members : List (String × Node)) :
    Option (List (String × Node)) :=
  entries.foldlM (fun members e => assign e.value .header e.path members) members

def inlineTable (entries : List Entry) : Option Document :=
  (assignAll entries []).map fun members => .table (documents members)

/-- Changes the table that a header leads to; tables on the way are made where they are missing. -/
def descend (change : String → List (String × Node) → Option (List (String × Node))) :
    List String → List (String × Node) → Option (List (String × Node))
  | [], _ => none
  | [name], members => change name members
  | name :: second :: path, members =>
      alter name (fun node =>
        match node with
        | none => (descend change (second :: path) []).map (.table .implied)
        | some (.table origin more) =>
            (descend change (second :: path) more).map (.table origin)
        | some (.tables items last) =>
            (descend change (second :: path) last).map (.tables items)
        | some (.leaf _) => none) members

/-- Defines a table under a name. Only a table that is implied so far may be there, and it moves
to the end. -/
def defineTable (entries : List Entry) (name : String) (members : List (String × Node)) :
    Option (List (String × Node)) := do
  let (old, others) := remove name members
  let start ← match old with
    | none => some []
    | some (.table .implied more) => some more
    | some _ => none
  return others ++ [(name, .table .header (← assignAll entries start))]

def defineItem (entries : List Entry) (name : String) (members : List (String × Node)) :
    Option (List (String × Node)) := do
  let item ← assignAll entries []
  alter name (fun node =>
    match node with
    | none => some (.tables [] item)
    | some (.tables items last) => some (.tables (items ++ [.table (documents last)]) item)
    | some _ => none) members

inductive Header where
  | table (path : List String)
  | item (path : List String)

structure Section where
  header : Header
  entries : List Entry

/-- Adds a section to the table of the file. -/
def addSection (members : List (String × Node)) (s : Section) : Option (List (String × Node)) :=
  match s.header with
  | .table path => descend (defineTable s.entries) path members
  | .item path => descend (defineItem s.entries) path members

/-- The document of a file: the lines before the first header, and the sections. -/
def assemble (entries : List Entry) (sections : List Section) : Option Document := do
  let members ← assignAll entries []
  let members ← sections.foldlM addSection members
  return .table (documents members)

end Toml

end Clearance
