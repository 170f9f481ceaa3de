import Clearance.Text.Numeral

/-!
# TOML texts

The characters of a TOML file, its line ends and blanks, and the four forms of quoted text: in
double quotes, where a backslash starts an escape, or in apostrophes, where it does not; each on
one line or, between three marks, on several.
-/

namespace Clearance

namespace Toml

/-- The mark around a text without escapes. -/
def apostrophe : Char := '\x27'

def isSpace (c : Char) : Bool :=
  c = ' ' || c = '\t'

/-- Characters that may stand in texts and comments: the tab and all that are no controls. -/
def isPlain (c : Char) : Bool :=
  c = '\t' || (32 ≤ c.toNat && c.toNat ≠ 127)

/-- A text without the blanks in front. -/
def skipSpaces (cs : List Char) : List Char :=
  cs.dropWhile isSpace

def afterLineEnd? : List Char → Option (List Char)
  | '\n' :: rest => some rest
  | '\r' :: '\n' :: rest => some rest
  | _ => none

/-- A text without the blanks and line ends in front. -/
def skipLines : List Char → List Char
  | '\n' :: rest => skipLines rest
  | '\r' :: '\n' :: rest => skipLines rest
  | c :: rest => if isSpace c then skipLines rest else c :: rest
  | [] => []

/-- What follows the end of a line on which nothing but a comment may still stand. -/
def finishLine? (cs : List Char) : Option (List Char) :=
  let rest := match skipSpaces cs with
    | '#' :: comment => comment.dropWhile isPlain
    | rest => rest
  if rest.isEmpty then some [] else afterLineEnd? rest

/-- What follows a backslash at the end of a line: the blanks and line ends up to the next
character do not count. -/
def afterJoint? (cs : List Char) : Option (List Char) :=
  (afterLineEnd? (skipSpaces cs)).map skipLines

/-- The character with a code of the given number of hexadecimal digits, and what follows it. -/
def readCode (width : Nat) (cs : List Char) : Option (Char × List Char) := do
  guard (width ≤ cs.length)
  let code := ofDigits 16 (← (cs.take width).mapM hexDigit?)
  guard (code.isValidChar)
  return (Char.ofNat code, cs.drop width)

/-- The character of an escape after its backslash, and what follows it. -/
def readEscape : List Char → Option (Char × List Char)
  | 'b' :: rest => some (Char.ofNat 8, rest)
  | 't' :: rest => some ('\t', rest)
  | 'n' :: rest => some ('\n', rest)
  | 'f' :: rest => some (Char.ofNat 12, rest)
  | 'r' :: rest => some ('\r', rest)
  | '"' :: rest => some ('"', rest)
  | '\\' :: rest => some ('\\', rest)
  | 'u' :: rest => readCode 4 rest
  | 'U' :: rest => readCode 8 rest
  | _ => none

/-- What closes a text: the marks that still belong to it, and what follows it. A text on several
lines is closed by three marks, in front of which it may end in one or two. -/
def closing? (mark : Char) (long : Bool) (cs : List Char) : Option (List Char × List Char) :=
  let count := (cs.takeWhile (· = mark)).length
  if long then
    if 3 ≤ count then
      let kept := min (count - 3) 2
      some (List.replicate kept mark, cs.drop (kept + 3))
    else none
  else if count = 0 then none else some ([], cs.drop 1)

/-- The characters of a text after its opening marks, and what follows the closing ones. -/
def readMarked (mark : Char) (long : Bool) : Nat → List Char → Option (List Char × List Char)
  | 0, _ => none
  | fuel + 1, cs =>
      match closing? mark long cs, cs with
      | some closed, _ => some closed
      | none, [] => none
      | none, c :: rest =>
          if c = '\\' ∧ mark = '"' then
            match if long then afterJoint? rest else none with
            | some rest => readMarked mark long fuel rest
            | none => do
                let (c, rest) ← readEscape rest
                let (text, rest) ← readMarked mark long fuel rest
                return (c :: text, rest)
          else if isPlain c then do
            let (text, rest) ← readMarked mark long fuel rest
            return (c :: text, rest)
          else if long then do
            let (text, rest) ← readMarked mark long fuel (← afterLineEnd? cs)
            return ('\n' :: text, rest)
          else none

/-- Reads a text on one line, from its opening mark. -/
def readShortText (cs : List Char) : Option (String × List Char) :=
  match cs with
  | mark :: rest =>
      if mark = '"' ∨ mark = apostrophe then
        (readMarked mark false cs.length rest).map fun (text, rest) => (String.ofList text, rest)
      else none
  | [] => none

/-- Reads a text on several lines, from its opening marks; a line end after these does not
count. -/
def readLongText (cs : List Char) : Option (String × List Char) :=
  match cs with
  | mark :: second :: third :: rest =>
      if (mark = '"' ∨ mark = apostrophe) ∧ second = mark ∧ third = mark then
        let rest := (afterLineEnd? rest).getD rest
        (readMarked mark true cs.length rest).map fun (text, rest) => (String.ofList text, rest)
      else none
  | _ => none

/-- Whether three marks open a text on several lines. -/
def opensLongText : List Char → Bool
  | mark :: second :: third :: _ =>
      (mark = '"' || mark = apostrophe) && second = mark && third = mark
  | _ => false

def readText (cs : List Char) : Option (String × List Char) :=
  if opensLongText cs then readLongText cs else readShortText cs

/-- The characters of a name without quotes. -/
def isBare (c : Char) : Bool :=
  c.isAlphanum || c = '-' || c = '_'

/-- Reads one part of a key: a bare name or a text on one line. -/
def readName (cs : List Char) : Option (String × List Char) :=
  match cs.takeWhile isBare with
  | [] => readShortText cs
  | name => some (String.ofList name, cs.dropWhile isBare)

/-- Reads a key: its parts between points, with blanks around each. -/
def readKey : Nat → List Char → Option (List String × List Char)
  | 0, _ => none
  | fuel + 1, cs => do
      let (name, rest) ← readName (skipSpaces cs)
      match skipSpaces rest with
      | '.' :: rest => do
          let (names, rest) ← readKey fuel rest
          return (name :: names, rest)
      | rest => return ([name], rest)

end Toml

end Clearance
