import Clearance.Document.Json.Number

/-!
# Reading JSON

Every text is read into a document. Where it stops being JSON the document ends in a cut, and
nothing after that place is read.
-/

namespace Clearance

namespace Json

def isBlank (c : Char) : Bool :=
  c = ' ' || c = '\n' || c = '\t' || c = '\r'

/-- A text without the blanks in front. -/
def skipBlanks (cs : List Char) : List Char :=
  cs.dropWhile isBlank

/-- A piece of a string: a character, or the unit of sixteen bits of an escape. -/
inductive Piece where
  | char (c : Char)
  | unit (value : Nat)
deriving DecidableEq, Repr

/-- The value of four hexadecimal digits. -/
def hexUnit? (a b c d : Char) : Option Nat := do
  return ofDigits 16 [← hexDigit? a, ← hexDigit? b, ← hexDigit? c, ← hexDigit? d]

def shortEscape? : Char → Option Char
  | '"' => some '"'
  | '\\' => some '\\'
  | '/' => some '/'
  | 'b' => some (Char.ofNat 8)
  | 'f' => some (Char.ofNat 12)
  | 'n' => some '\n'
  | 'r' => some '\r'
  | 't' => some '\t'
  | _ => none

/-- The pieces of a string after its opening quote, and what follows the closing one. -/
def readPieces : List Char → Option (List Piece × List Char)
  | [] => none
  | '"' :: rest => some ([], rest)
  | '\\' :: 'u' :: a :: b :: c :: d :: rest => do
      let unit ← hexUnit? a b c d
      let (pieces, rest) ← readPieces rest
      return (.unit unit :: pieces, rest)
  | '\\' :: e :: rest => do
      let c ← shortEscape? e
      let (pieces, rest) ← readPieces rest
      return (.char c :: pieces, rest)
  | c :: rest =>
      if c = '\\' ∨ c.toNat < 32 then none
      else do
        let (pieces, rest) ← readPieces rest
        return (.char c :: pieces, rest)

/-- The leading half of a surrogate pair. -/
def isLeading (u : Nat) : Bool := 0xD800 ≤ u && u < 0xDC00

/-- The trailing half of a surrogate pair. -/
def isTrailing (u : Nat) : Bool := 0xDC00 ≤ u && u < 0xE000

/-- The characters of a list of pieces; nothing if half of a surrogate pair stands alone. -/
def joinPieces : List Piece → Option (List Char)
  | [] => some []
  | .char c :: rest => (joinPieces rest).map (c :: ·)
  | .unit u :: .unit v :: rest =>
      if isLeading u then
        if isTrailing v then
          (joinPieces rest).map (Char.ofNat (0x10000 + (u - 0xD800) * 0x400 + (v - 0xDC00)) :: ·)
        else none
      else if isTrailing u then none
      else (joinPieces (.unit v :: rest)).map (Char.ofNat u :: ·)
  | .unit u :: rest =>
      if isLeading u || isTrailing u then none
      else (joinPieces rest).map (Char.ofNat u :: ·)

/-- Reads a string after its opening quote. The inner value is missing if the string has an end
but stands for no text. -/
def readString (cs : List Char) : Option (Option String × List Char) :=
  (readPieces cs).map fun (pieces, rest) => ((joinPieces pieces).map String.ofList, rest)

mutual

/-- Reads a value, and gives what follows it unless the text broke off. -/
def readValue : Nat → List Char → Document × Option (List Char)
  | 0, _ => (.cut .value, none)
  | fuel + 1, cs =>
      match skipBlanks cs with
      | 'n' :: 'u' :: 'l' :: 'l' :: rest => (.null, some rest)
      | 't' :: 'r' :: 'u' :: 'e' :: rest => (.bool true, some rest)
      | 'f' :: 'a' :: 'l' :: 's' :: 'e' :: rest => (.bool false, some rest)
      | '"' :: rest =>
          match readString rest with
          | some (some s, rest) => (.text s, some rest)
          | some (none, rest) => (.cut .token, some rest)
          | none => (.cut .value, none)
      | '[' :: rest =>
          match skipBlanks rest with
          | ']' :: rest => (.list [], some rest)
          | rest => let (items, rest) := readItems fuel rest; (.list items, rest)
      | '\x7b' :: rest =>
          match skipBlanks rest with
          | '\x7d' :: rest => (.table [], some rest)
          | rest => let (members, rest) := readMembers fuel rest; (.table members, rest)
      | cs =>
          match readNumber cs with
          | some (number, rest) => (number, some rest)
          | none => (.cut .value, none)

def readItems : Nat → List Char → List Document × Option (List Char)
  | 0, _ => ([.cut .value], none)
  | fuel + 1, cs =>
      match readValue fuel cs with
      | (d, none) => ([d], none)
      | (d, some rest) =>
          match skipBlanks rest with
          | ',' :: rest => let (items, rest) := readItems fuel rest; (d :: items, rest)
          | ']' :: rest => ([d], some rest)
          | _ => ([d, .cut .value], none)

def readMembers : Nat → List Char → List (String × Document) × Option (List Char)
  | 0, _ => ([("", .cut .key)], none)
  | fuel + 1, cs =>
      match skipBlanks cs with
      | '"' :: rest =>
          match readString rest with
          | some (some name, rest) =>
              match skipBlanks rest with
              | ':' :: rest =>
                  match readValue fuel rest with
                  | (d, none) => ([(name, d)], none)
                  | (d, some rest) =>
                      match skipBlanks rest with
                      | ',' :: rest =>
                          let (members, rest) := readMembers fuel rest
                          ((name, d) :: members, rest)
                      | '\x7d' :: rest => ([(name, d)], some rest)
                      | _ => ([(name, d), ("", .cut .key)], none)
              | _ => ([(name, .cut .value)], none)
          | _ => ([("", .cut .key)], none)
      | _ => ([("", .cut .key)], none)

end

/-- Reads a text: its document, and whether nothing but blanks follows. -/
def read (s : String) : Document × Bool :=
  let cs := s.toList
  match readValue (2 * cs.length + 2) cs with
  | (d, some rest) => (d, (skipBlanks rest).isEmpty)
  | (d, none) => (d, false)

end Json

end Clearance
