import Clearance.Log.Pattern.Basic
import Clearance.Text.Blank
import Clearance.Text.Numeral

/-!
# Reading patterns

The syntax of regular expressions: alternatives, repetitions, groups with names or flags, classes of
characters with set operations, escapes and conditions on places. A pattern stands where a closing
brace would end it, so there is none in it, and an opening brace outside a class is a fault. So is a
name that two groups have, and a pattern whose parts are nested too deep.
-/

namespace Clearance

namespace Pattern

structure Flags where
  caseless : Bool
  multiLine : Bool
  dotAll : Bool
  swapGreed : Bool
  wide : Bool
  spaced : Bool
deriving DecidableEq, Repr

/-- The flags in force at the start: characters beyond ASCII are characters. -/
def Flags.start : Flags := ⟨false, false, false, false, true, false⟩

/-- Sets or clears the flag of a letter. Line ends of two characters need no flag here. -/
def Flags.set (flags : Flags) (letter : Char) (value : Bool) : Option Flags :=
  match letter with
  | 'i' => some { flags with caseless := value }
  | 'm' => some { flags with multiLine := value }
  | 's' => some { flags with dotAll := value }
  | 'U' => some { flags with swapGreed := value }
  | 'u' => some { flags with wide := value }
  | 'x' => some { flags with spaced := value }
  | 'R' => some flags
  | _ => none

/-- A pattern without the blanks and comments in front, where the flags say so. -/
def skipSpaced (flags : Flags) : Nat → List Char → List Char
  | 0, cs => cs
  | fuel + 1, cs =>
      if flags.spaced then
        match cs.dropWhile isBlank with
        | '#' :: comment => skipSpaced flags fuel (comment.dropWhile (· ≠ '\n'))
        | rest => rest
      else cs

def Flags.fold (flags : Flags) (set : CharSet) : CharSet :=
  if flags.caseless then set.bothCases else set

inductive Escape where
  | char (c : Char)
  | set (set : CharSet)
  | anchor (a : Anchor)
deriving DecidableEq, Repr

/-- The characters of a general category, by its letter in either case. -/
def category? : Char → Option CharSet
  | 'L' | 'l' => some (.union (.range 'a' 'z') (.range 'A' 'Z'))
  | 'N' | 'n' => some .digits
  | 'P' | 'p' => some (.ofList "!\"#%&'()*,-./:;?@[\\]_\x7b\x7d".toList)
  | 'S' | 's' => some (.ofList "$+<=>^`|~".toList)
  | 'Z' | 'z' => some (.single ' ')
  | 'C' | 'c' => some (.union (.range (Char.ofNat 0) (Char.ofNat 31)) (.single (Char.ofNat 127)))
  | 'M' | 'm' => some .none
  | _ => none

/-- A set or its complement; a complement needs wide characters. -/
def setEscape (flags : Flags) (negated : Bool) (set : CharSet) : Option Escape :=
  if negated then
    if flags.wide then some (.set (.complement set)) else none
  else some (.set set)

/-- The given number of characters, without the blanks in front of each. -/
def takeSpaced (flags : Flags) : Nat → List Char → Option (List Char × List Char)
  | 0, cs => some ([], cs)
  | count + 1, cs =>
      match skipSpaced flags cs.length cs with
      | c :: rest => do
          let (more, rest) ← takeSpaced flags count rest
          return (c :: more, rest)
      | [] => none

/-- The character of a code of the given number of hexadecimal digits. -/
def readCode (flags : Flags) (width : Nat) (cs : List Char) : Option (Escape × List Char) := do
  let (digits, rest) ← takeSpaced flags width cs
  let code := ofDigits 16 (← digits.mapM hexDigit?)
  guard (code.isValidChar ∧ (flags.wide ∨ code < 128))
  return (.char (Char.ofNat code), rest)

def readEscape (flags : Flags) : List Char → Option (Escape × List Char)
  | [] => none
  | c :: rest =>
      match c with
      | 'n' => some (.char '\n', rest)
      | 't' => some (.char '\t', rest)
      | 'r' => some (.char '\r', rest)
      | 'a' => some (.char (Char.ofNat 7), rest)
      | 'f' => some (.char (Char.ofNat 12), rest)
      | 'v' => some (.char (Char.ofNat 11), rest)
      | 'x' => readCode flags 2 rest
      | 'u' => readCode flags 4 rest
      | 'U' => readCode flags 8 rest
      | 'd' => (setEscape flags false .digits).map (·, rest)
      | 'D' => (setEscape flags true .digits).map (·, rest)
      | 's' => (setEscape flags false .blanks).map (·, rest)
      | 'S' => (setEscape flags true .blanks).map (·, rest)
      | 'w' => (setEscape flags false .wordChars).map (·, rest)
      | 'W' => (setEscape flags true .wordChars).map (·, rest)
      | 'p' | 'P' =>
          match skipSpaced flags rest.length rest with
          | name :: rest => do
              guard flags.wide
              let set ← category? name
              return (← setEscape flags (c = 'P') set, rest)
          | [] => none
      | 'A' => some (.anchor .start, rest)
      | 'z' => some (.anchor .finish, rest)
      | 'b' => some (.anchor (.boundary flags.wide), rest)
      | 'B' => some (.anchor (.noBoundary flags.wide), rest)
      | '<' => some (.anchor (.wordStart flags.wide), rest)
      | '>' => some (.anchor (.wordFinish flags.wide), rest)
      | c => if c.toNat < 128 ∧ !c.isAlphanum then some (.char c, rest) else none

def namedSets : List (String × CharSet) :=
  let lower := CharSet.range 'a' 'z'
  let upper := CharSet.range 'A' 'Z'
  let graph := CharSet.range '!' '~'
  let alnum := CharSet.union lower (.union upper .digits)
  [("alnum", alnum), ("alpha", .union lower upper),
    ("ascii", .range (Char.ofNat 0) (Char.ofNat 127)), ("blank", .ofList ['\t', ' ']),
    ("cntrl", .union (.range (Char.ofNat 0) (Char.ofNat 31)) (.single (Char.ofNat 127))),
    ("digit", .digits), ("graph", graph), ("lower", lower),
    ("print", .range ' ' '~'), ("punct", graph.without alnum), ("space", .blanks),
    ("upper", upper), ("word", .wordChars),
    ("xdigit", .union .digits (.union (.range 'a' 'f') (.range 'A' 'F')))]

/-- Reads a named class after its opening bracket, if there is one. -/
def readNamedSet (flags : Flags) : List Char → Option (CharSet × List Char)
  | ':' :: cs =>
      let (negated, cs) := match cs with
        | '^' :: more => (true, more)
        | more => (false, more)
      match cs.dropWhile (· ≠ ':') with
      | ':' :: ']' :: rest => do
          let set ← namedSets.lookup (String.ofList (cs.takeWhile (· ≠ ':')))
          let set := flags.fold set
          return (if negated then .complement set else set, rest)
      | _ => none
  | _ => none

/-- Reads one item of a class: a character or a set. -/
def readSetItem (flags : Flags) : List Char → Option (Escape × List Char)
  | '\\' :: rest =>
      match readEscape flags rest with
      | some (.anchor _, _) => none
      | item => item
  | c :: rest => if flags.wide ∨ c.toNat < 128 then some (.char c, rest) else none
  | [] => none

/-! ### Nesting -/

/-- Parts may be nested in each other no deeper than this. -/
def nestingLimit : Nat := 250

/-- How deep parts that stand side by side are nested: one deeper than a part alone. -/
def depthOfAll : List Nat → Nat
  | [] => 0
  | [depth] => depth
  | depths => depths.foldr max 0 + 1

/-! ### Classes -/

/-- A class or a part of one, and how deep its parts are nested. -/
structure SetReading where
  set : CharSet
  depth : Nat
deriving DecidableEq, Repr

namespace SetReading

/-- An item that has no parts. -/
def item (set : CharSet) : SetReading := ⟨set, 0⟩

/-- Items side by side. -/
def ofItems (items : List SetReading) : SetReading :=
  ⟨items.foldl (fun set i => .union set i.set) .none, depthOfAll (items.map depth)⟩

def operate (operation : CharSet → CharSet → CharSet) (a b : SetReading) : SetReading :=
  ⟨operation a.set b.set, max a.depth b.depth + 1⟩

/-- What stands between the brackets of a class, as a class. -/
def bracketed (negated : Bool) (r : SetReading) : SetReading :=
  ⟨if negated then .complement r.set else r.set, r.depth + 1⟩

end SetReading

def setOperation? : List Char → Option ((CharSet → CharSet → CharSet) × List Char)
  | '&' :: '&' :: rest => some (.meet, rest)
  | '-' :: '-' :: rest => some (.without, rest)
  | '~' :: '~' :: rest => some (fun a b => .without (.union a b) (.meet a b), rest)
  | _ => none

def readSetRange (flags : Flags) (cs : List Char) : Option (CharSet × List Char) := do
  let skip := fun cs => skipSpaced flags (List.length cs) cs
  let (first, rest) ← readSetItem flags cs
  let alone : Option (CharSet × List Char) :=
    match first with
    | .char c => some (flags.fold (.single c), rest)
    | .set set => some (set, rest)
    | .anchor _ => none
  match skip rest with
  | '-' :: more =>
      match skip more with
      | [] => none
      | ']' :: _ => alone
      | '-' :: _ => alone
      | more => do
          let (last, rest) ← readSetItem flags more
          match first, last with
          | .char a, .char b =>
              if a ≤ b then return (flags.fold (.range a b), rest) else none
          | _, _ => none
  | _ => alone

/-- The items at the front of a class that stand for themselves: hyphens, or else a bracket. -/
def readSetFront (cs : List Char) : List SetReading × List Char :=
  match cs.takeWhile (· = '-'), cs with
  | [], ']' :: rest => ([.item (.single ']')], rest)
  | hyphens, _ => (hyphens.map fun c => .item (.single c), cs.dropWhile (· = '-'))

mutual

def readSet (flags : Flags) : Nat → List Char → Option (SetReading × List Char)
  | 0, _ => none
  | fuel + 1, cs => do
      let (negated, cs) := match skipSpaced flags cs.length cs with
        | '^' :: rest => (true, skipSpaced flags rest.length rest)
        | rest => (false, rest)
      guard (flags.wide ∨ !negated)
      let (front, cs) := readSetFront cs
      let (inner, rest) ← readSetItems flags fuel id front cs
      return (inner.bracketed negated, rest)

/-- Reads the items of a class up to its end. `combine` takes what stands in front of the last
operation together with what comes after it. -/
def readSetItems (flags : Flags) : Nat → (SetReading → SetReading) → List SetReading →
    List Char → Option (SetReading × List Char)
  | 0, _, _, _ => none
  | fuel + 1, combine, items, cs =>
      let cs := skipSpaced flags cs.length cs
      match setOperation? cs, cs with
      | some (operation, rest), _ =>
          let left := combine (.ofItems items)
          readSetItems flags fuel (SetReading.operate operation left) [] rest
      | none, ']' :: rest => some (combine (.ofItems items), rest)
      | none, '[' :: rest => do
          let (inner, rest) ←
            ((readNamedSet flags rest).map fun (set, rest) => (SetReading.item set, rest)) <|>
              readSet flags fuel rest
          readSetItems flags fuel combine (items ++ [inner]) rest
      | none, cs => do
          let (set, rest) ← readSetRange flags cs
          readSetItems flags fuel combine (items ++ [.item set]) rest

end

/-! ### Patterns -/

/-- Reads flags up to their end, a colon or a closing parenthesis, which is given back. -/
def readFlags (letters : List Char) (negated fresh : Bool) (flags : Flags) :
    List Char → Option (Flags × Bool × List Char)
  | ':' :: rest => if negated && fresh then none else some (flags, true, rest)
  | ')' :: rest =>
      if negated && fresh || letters.isEmpty && !negated then none else some (flags, false, rest)
  | '-' :: rest => if negated then none else readFlags letters true true flags rest
  | c :: rest =>
      if c ∈ letters then none
      else do readFlags (c :: letters) negated false (← flags.set c (!negated)) rest
  | [] => none

/-- Reads the name of a group up to the bracket behind it. -/
def readGroupName (cs : List Char) : Option (String × List Char) :=
  let isStart := fun c : Char => c.isAlpha || c = '_'
  match cs with
  | c :: more =>
      let isPart := fun c : Char => isStart c || c.isDigit || c ∈ ['.', '[', ']']
      if isStart c then
        match more.dropWhile isPart with
        | '>' :: rest => some (String.ofList (c :: more.takeWhile isPart), rest)
        | _ => none
      else none
  | [] => none

/-- A pattern as it is read: how deep its parts are nested, and the names of its groups. -/
structure Reading where
  pattern : Pattern
  depth : Nat
  names : List String
deriving DecidableEq, Repr

/-- A pattern once or not at all. -/
def maybe (greedy : Bool) (p : Pattern) : Pattern :=
  if greedy then either p empty else either empty p

/-- The first of several patterns that can go on. -/
def choice : List Pattern → Pattern
  | [] => empty
  | [p] => p
  | p :: others => either p (choice others)

namespace Reading

/-- A pattern that has no parts. -/
def atom (p : Pattern) : Reading := ⟨p, 0, []⟩

/-- A pattern made of one that is nested in it. -/
def nest (r : Reading) (f : Pattern → Pattern) : Reading := ⟨f r.pattern, r.depth + 1, r.names⟩

/-- Several readings as one, by what their patterns come to together. -/
def join (combine : List Pattern → Pattern) (parts : List Reading) : Reading :=
  ⟨combine (parts.map pattern), depthOfAll (parts.map depth), parts.flatMap names⟩

def ofSequence (items : List Reading) : Reading := join (List.foldr andThen empty) items

def ofAlternatives (alternatives : List Reading) : Reading := join choice alternatives

/-- A group, perhaps with a name. -/
def group (name : Option String) (r : Reading) : Reading :=
  { r.nest id with names := name.toList ++ r.names }

end Reading

def readRepetitions (flags : Flags) : Nat → Reading → List Char → Reading × List Char
  | 0, r, cs => (r, cs)
  | fuel + 1, r, cs =>
      let apply := fun (repeated : Bool → Pattern → Pattern) (rest : List Char) =>
        match rest with
        | '?' :: rest => readRepetitions flags fuel (r.nest (repeated flags.swapGreed)) rest
        | rest => readRepetitions flags fuel (r.nest (repeated !flags.swapGreed)) rest
      match skipSpaced flags cs.length cs with
      | '*' :: rest => apply star rest
      | '+' :: rest => apply (fun greedy p => seq p (star greedy p)) rest
      | '?' :: rest => apply maybe rest
      | rest => (r, rest)

def ofEscape (flags : Flags) : Escape → Pattern
  | .char c => char (flags.fold (.single c))
  | .set set => char set
  | .anchor a => anchor a

mutual

def readAlternatives (flags : Flags) : Nat → List Char → Option (List Reading × List Char)
  | 0, _ => none
  | fuel + 1, cs => do
      let (items, flags, rest) ← readSequence flags fuel cs
      match rest with
      | '|' :: rest => do
          let (others, rest) ← readAlternatives flags fuel rest
          return (.ofSequence items :: others, rest)
      | rest => return ([.ofSequence items], rest)

/-- Reads the items of one alternative; flags that are set on the way stay in force. -/
def readSequence (flags : Flags) : Nat → List Char → Option (List Reading × Flags × List Char)
  | 0, _ => none
  | fuel + 1, cs =>
      match skipSpaced flags cs.length cs with
      | [] => some ([], flags, [])
      | '|' :: rest => some ([], flags, '|' :: rest)
      | ')' :: rest => some ([], flags, ')' :: rest)
      | c :: rest => do
          let (item, flags, rest) ← readItem flags fuel c rest
          let (item, rest) ←
            match item with
            | none =>
                match skipSpaced flags rest.length rest with
                | c :: more =>
                    if c ∈ ['*', '+', '?'] then none else some (Reading.atom empty, c :: more)
                | [] => some (Reading.atom empty, [])
            | some r => some (readRepetitions flags rest.length r rest)
          let (more, flags, rest) ← readSequence flags fuel rest
          return (item :: more, flags, rest)

/-- Reads an item after its first character. Flags that are set for what follows are no item. -/
def readItem (flags : Flags) : Nat → Char → List Char →
    Option (Option Reading × Flags × List Char)
  | 0, _, _ => none
  | fuel + 1, c, rest =>
      let group := fun (name : Option String) (inner : Flags) (cs : List Char) => do
        match ← readAlternatives inner fuel cs with
        | (alternatives, ')' :: rest) =>
            some (some (Reading.group name (.ofAlternatives alternatives)), flags, rest)
        | _ => none
      let named := fun (cs : List Char) => do
        let (name, rest) ← readGroupName cs
        group (some name) flags rest
      let atom := fun (p : Pattern) (rest : List Char) => some (some (Reading.atom p), flags, rest)
      match c with
      | '(' =>
          match skipSpaced flags rest.length rest with
          | '?' :: 'P' :: '<' :: name => named name
          | '?' :: '<' :: name => named name
          | '?' :: letters => do
              let (inner, opened, rest) ← readFlags [] false false flags letters
              if opened then group none inner rest else some (none, inner, rest)
          | cs => group none flags cs
      | '[' => do
          let (r, rest) ← readSet flags fuel rest
          return (some ⟨char r.set, r.depth, []⟩, flags, rest)
      | '.' => do
          guard flags.wide
          atom (char (if flags.dotAll then CharSet.all else .complement (.single '\n'))) rest
      | '^' => atom (anchor (if flags.multiLine then .lineStart else .start)) rest
      | '$' => atom (anchor (if flags.multiLine then .lineFinish else .finish)) rest
      | '\\' => do
          let (e, rest) ← readEscape flags rest
          atom (ofEscape flags e) rest
      | c =>
          if c ∈ ['*', '+', '?', '\x7b'] then none
          else atom (char (flags.fold (.single c))) rest

end

/-- Reads a pattern. Its groups have different names, and its parts are not nested too deep. -/
def ofText? (s : String) : Option Pattern := do
  let cs := s.toList
  match ← readAlternatives Flags.start (4 * cs.length + 4) cs with
  | (alternatives, []) =>
      let r := Reading.ofAlternatives alternatives
      guard (r.depth ≤ nestingLimit ∧ r.names.Nodup)
      return r.pattern
  | _ => none

end Pattern

end Clearance
