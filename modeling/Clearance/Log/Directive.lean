import Clearance.Log.Level
import Clearance.Log.Pattern.Reader
import Clearance.Text.Alphanumeric
import Clearance.Text.Bytes

/-!
# Filter directives

One directive of a log filter: `target[span{field=value}]=level`, of which every part but one may
be missing. Blanks at the ends of a directive are left out of account when its parts are looked
for, but the parts are cut from the text with the blanks, at the same distances from its start.
-/

namespace Clearance

inductive ValueMatch where
  /-- A truth value or a number, which no field with a text equals. -/
  | literal (text : String)
  | pattern (text : String) (pattern : Pattern)
deriving DecidableEq, Repr

/-- A field that a span or an event has to have, perhaps with a value. -/
structure FieldMatch where
  name : String
  value : Option ValueMatch
deriving DecidableEq, Repr

structure Directive where
  target : Option String
  span : Option String
  field : Option FieldMatch
  limit : Limit
deriving DecidableEq, Repr

/-- Why a filter could not be read. -/
inductive FilterFault where
  | shape
  | limit
  | pattern
  | wideAnchor
deriving DecidableEq, Repr

def FilterFault.message : FilterFault → String
  | shape => "invalid filter directive"
  | limit =>
      "error parsing level filter: expected one of \"off\", \"error\", \"warn\", \"info\", " ++
        "\"debug\", \"trace\", or a number 0-5"
  | pattern => "invalid field filter: error building NFA"
  | wideAnchor =>
      "invalid field filter: unsupported regex feature for DFAs: cannot build DFAs for regexes " ++
        "with Unicode word boundaries; switch to ASCII word boundaries, or heuristically enable " ++
        "Unicode word boundaries or use a different regex engine"

/-- The decimal digits at the front of a text, and what follows them. -/
def spanDigits (cs : List Char) : List Char × List Char :=
  cs.span Char.isDigit

/-- Whether a text is a number with or without point and exponent. -/
def isNumeric (s : String) : Bool :=
  let unsigned := match s.toList with
    | '+' :: rest => rest
    | '-' :: rest => rest
    | cs => cs
  let (whole, rest) := spanDigits unsigned
  let (fraction, rest) := match rest with
    | '.' :: rest => spanDigits rest
    | rest => ([], rest)
  let exponent := match rest with
    | [] => true
    | mark :: rest =>
        let digits := match rest with
          | '+' :: rest => rest
          | '-' :: rest => rest
          | rest => rest
        (mark = 'e' || mark = 'E') && !digits.isEmpty && digits.all Char.isDigit
  let word := String.ofList (unsigned.map Char.toLower)
  (!(whole ++ fraction).isEmpty && exponent) || ["inf", "infinity", "nan"].contains word

namespace ValueMatch

def text : ValueMatch → String
  | literal text => text
  | pattern text _ => text

/-- Reads a value: a truth value, a number or else a pattern. -/
def read (s : String) : Except FilterFault ValueMatch :=
  if s = "true" ∨ s = "false" ∨ isNumeric s then .ok (literal s)
  else
    match Pattern.ofText? s with
    | none => .error .pattern
    | some p => if p.hasWideAnchor then .error .wideAnchor else .ok (pattern s p)

/-- Whether the value of a field that has a text is the one asked for. -/
def accepts : ValueMatch → String → Bool
  | literal _, _ => false
  | pattern _ p, s => p.accepts s

end ValueMatch

namespace FieldMatch

/-- Reads a field: a name, and a value after an equals sign; nothing after a second one counts. -/
def read (s : String) : Except FilterFault FieldMatch :=
  match s.splitOn "=" with
  | name :: value :: _ => do return ⟨name, some (← ValueMatch.read value)⟩
  | name :: _ => .ok ⟨name, none⟩
  | [] => .ok ⟨"", none⟩

end FieldMatch

namespace Directive

/-- A text with blanks at its ends from which parts are cut by their distances in bytes. -/
structure Source where
  chars : List Char

namespace Source

/-- The part of the text between two distances. A distance that falls inside a character counts as
the end of it. That happens where a blank of several bytes stands in front of a directive: a slice
of the bytes would then not be a text, and taking it is no error of the filter but stops the
program. -/
def cut (s : Source) (first last : Nat) : String :=
  String.ofList (takeBytes (last - first) (dropBytes first s.chars))

/-- The part of the text from a distance on, which is taken as in `cut`. -/
def cutFrom (s : Source) (first : Nat) : String :=
  String.ofList (dropBytes first s.chars)

end Source

/-- Reads a limit from a distance on; none at all is the widest. -/
def readLimit (s : Source) (first : Nat) : Except FilterFault Limit :=
  let word := s.cutFrom first
  if word = "" then .ok (.upTo .trace)
  else
    match Limit.ofText? word with
    | some limit => .ok limit
    | none => .error .limit

/-- Reads what follows the span: nothing, or a limit after an equals sign. -/
def readTail (s : Source) (d : Directive) (place : Nat) :
    List Char → Except FilterFault Directive
  | [] => .ok d
  | '=' :: _ => do return { d with limit := ← readLimit s (place + 1) }
  | _ => .error .shape

/-- Reads a span after its opening bracket, at the given distance. -/
def readSpan (s : Source) (d : Directive) (place : Nat) (cs : List Char) :
    Except FilterFault Directive :=
  let (name, rest) := cs.span fun c => c ≠ ']' && c ≠ '\x7b'
  let last := place + byteWidth name
  match rest with
  | ']' :: rest => readTail s { d with span := some (s.cut place last) } (last + 1) rest
  | '\x7b' :: rest => do
      let span := s.cut place last
      let (field, rest) := rest.span fun c => c ≠ '\x7d'
      let first := last + 1
      let last := first + byteWidth field
      let text := s.cut first last
      match rest with
      | '\x7d' :: rest =>
          if text = "" then throw .shape
          let field ← FieldMatch.read text
          match rest with
          | ']' :: rest =>
              let span := if span = "" then none else some span
              readTail s { d with span := span, field := some field } (last + 2) rest
          | _ => throw .shape
      | _ => throw .shape
  | _ => .error .shape

def isInitial (c : Char) : Bool :=
  c = '-' || c = ':' || c = '_' || isAlphanumeric c

/-- Reads a directive. A text that is no level is a target of which everything passes. -/
def read (chars : List Char) : Except FilterFault Directive :=
  let s : Source := ⟨chars⟩
  let blank : Directive := ⟨none, none, none, .upTo .trace⟩
  match trimBlanks chars with
  | [] => .error .shape
  | '[' :: rest => readSpan s blank 1 rest
  | c :: rest =>
      if isInitial c then
        let (front, rest) := (c :: rest).span fun c => c ≠ '=' && c ≠ '['
        let last := byteWidth front
        match rest with
        | '=' :: _ => do
            return { blank with target := some (s.cut 0 last), limit := ← readLimit s (last + 1) }
        | '[' :: rest => readSpan s { blank with target := some (s.cut 0 last) } (last + 1) rest
        | _ =>
            let word := s.cutFrom 0
            match Limit.ofText? word with
            | some limit => .ok { blank with limit := limit }
            | none => .ok { blank with target := some word }
      else .error .shape

def isDynamic (d : Directive) : Bool :=
  d.span.isSome || d.field.isSome

def isStatic (d : Directive) : Bool :=
  d.span.isNone && d.field.all fun f => f.value.isNone

end Directive

end Clearance
