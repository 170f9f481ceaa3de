import Clearance.Document.Toml.Scalar
import Clearance.Document.Toml.Tree

/-!
# Reading TOML

A TOML text is read whole: it is a document or nothing. Values nest to a fixed depth, and keys
have a fixed number of parts at most.
-/

namespace Clearance

namespace Toml

/-- How deep lists and inline tables may be nested, and how many parts a key may have. -/
def greatestDepth : Nat := 79

def readPath (cs : List Char) : Option (List String × List Char) := do
  let (path, rest) ← readKey (cs.length + 1) cs
  guard (path.length ≤ greatestDepth)
  return (path, rest)

/-- A text without the blanks, line ends and comments in front. -/
def skipBetween : Nat → List Char → List Char
  | 0, cs => cs
  | fuel + 1, cs =>
      match skipLines cs with
      | '#' :: comment => skipBetween fuel (comment.dropWhile isPlain)
      | rest => rest

mutual

/-- Reads a value; lists and inline tables may still be nested `depth` deep. -/
def readValue (fuel depth : Nat) (cs : List Char) : Option (Document × List Char) :=
  match fuel with
  | 0 => none
  | fuel + 1 =>
      match cs with
      | 't' :: 'r' :: 'u' :: 'e' :: rest => some (.bool true, rest)
      | 'f' :: 'a' :: 'l' :: 's' :: 'e' :: rest => some (.bool false, rest)
      | '[' :: rest =>
          match depth with
          | 0 => none
          | depth + 1 => (readItems fuel depth rest).map fun (items, rest) => (.list items, rest)
      | '\x7b' :: rest =>
          match depth with
          | 0 => none
          | depth + 1 => do
              match skipSpaces rest with
              | '\x7d' :: rest => return (.table [], rest)
              | rest =>
                  let (entries, rest) ← readPairs fuel depth rest
                  return (← inlineTable entries, rest)
      | cs =>
          ((readText cs).map fun (s, rest) => (.text s, rest)) <|> readMoment cs <|> readNumber cs

/-- Reads the items of a list and its end; a comma may stand after the last one. -/
def readItems (fuel depth : Nat) (cs : List Char) : Option (List Document × List Char) :=
  match fuel with
  | 0 => none
  | fuel + 1 =>
      match skipBetween (cs.length + 1) cs with
      | ']' :: rest => some ([], rest)
      | cs => do
          let (d, rest) ← readValue fuel depth cs
          match skipBetween (rest.length + 1) rest with
          | ',' :: rest => do
              let (items, rest) ← readItems fuel depth rest
              return (d :: items, rest)
          | ']' :: rest => return ([d], rest)
          | _ => none

def readPairs (fuel depth : Nat) (cs : List Char) : Option (List Entry × List Char) :=
  match fuel with
  | 0 => none
  | fuel + 1 => do
      let (path, rest) ← readPath cs
      let (d, rest) ← readValue fuel depth (skipSpaces (← expectChar '=' rest))
      match skipSpaces rest with
      | ',' :: rest => do
          let (entries, rest) ← readPairs fuel depth rest
          return (⟨path, d⟩ :: entries, rest)
      | '\x7d' :: rest => return ([⟨path, d⟩], rest)
      | _ => none

end

inductive Line where
  | header (header : Header)
  | entry (entry : Entry)

def readHeader : List Char → Option (Header × List Char)
  | '[' :: '[' :: rest => do
      let (path, rest) ← readPath rest
      return (.item path, ← expectChar ']' (← expectChar ']' rest))
  | '[' :: rest => do
      let (path, rest) ← readPath rest
      return (.table path, ← expectChar ']' rest)
  | _ => none

def readEntry (cs : List Char) : Option (Entry × List Char) := do
  let (path, rest) ← readPath cs
  let rest := skipSpaces (← expectChar '=' rest)
  let (d, rest) ← readValue (2 * rest.length + 2) greatestDepth rest
  return (⟨path, d⟩, rest)

/-- Reads the lines of a file, without those that are empty or comments. -/
def readLines : Nat → List Char → Option (List Line)
  | 0, _ => none
  | fuel + 1, cs =>
      match skipSpaces cs with
      | [] => some []
      | '[' :: rest => do
          let (header, rest) ← readHeader ('[' :: rest)
          return .header header :: (← readLines fuel (← finishLine? rest))
      | c :: rest =>
          match finishLine? (c :: rest) with
          | some rest => readLines fuel rest
          | none => do
              let (entry, rest) ← readEntry (c :: rest)
              return .entry entry :: (← readLines fuel (← finishLine? rest))

/-- The entries before the first header, and the sections. -/
def sectionsOf : List Line → List Entry × List Section
  | [] => ([], [])
  | .entry e :: rest => let (entries, sections) := sectionsOf rest; (e :: entries, sections)
  | .header h :: rest => let (entries, sections) := sectionsOf rest; ([], ⟨h, entries⟩ :: sections)

/-- Reads a file, which may start with a byte order mark. -/
def read (s : String) : Option Document := do
  let cs := match s.toList with
    | '\uFEFF' :: rest => rest
    | cs => cs
  let lines ← readLines (cs.length + 1) cs
  let (entries, sections) := sectionsOf lines
  assemble entries sections

end Toml

end Clearance
