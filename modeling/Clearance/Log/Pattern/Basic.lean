/-!
# Patterns

Regular expressions over texts. A match is looked for from the left, and of the matches at one
place the preferred one is taken: alternatives from left to right, repetitions as long as they can
be, or as short as they can be where they are marked so. `Pattern.accepts` asks whether the match
that is found this way reaches the end of the text. The texts are roles and identifiers, which are
ASCII, so the classes of characters are given for ASCII alone.
-/

namespace Clearance

inductive CharSet where
  | none
  | range (first last : Char)
  | union (a b : CharSet)
  | meet (a b : CharSet)
  | complement (a : CharSet)
deriving DecidableEq, Repr

namespace CharSet

def contains : CharSet → Char → Bool
  | none, _ => false
  | range first last, c => first ≤ c && c ≤ last
  | union a b, c => a.contains c || b.contains c
  | meet a b, c => a.contains c && b.contains c
  | complement a, c => !a.contains c

def all : CharSet := complement none

def single (c : Char) : CharSet := range c c

def ofList (cs : List Char) : CharSet :=
  cs.foldr (fun c set => union (single c) set) none

/-- The characters of one set that are not in another. -/
def without (a b : CharSet) : CharSet := meet a (complement b)

def bothCases : CharSet → CharSet
  | range first last =>
      let lower := (List.range 26).map fun i => Char.ofNat (97 + i)
      let upper := (List.range 26).map fun i => Char.ofNat (65 + i)
      let inside := fun c : Char => first ≤ c && c ≤ last
      union (range first last)
        (union (ofList ((lower.filter inside).map Char.toUpper))
          (ofList ((upper.filter inside).map Char.toLower)))
  | union a b => union a.bothCases b.bothCases
  | set => set

def digits : CharSet := range '0' '9'

/-- Letters, digits and the underscore. -/
def wordChars : CharSet :=
  union (range 'a' 'z') (union (range 'A' 'Z') (union digits (single '_')))

def blanks : CharSet :=
  union (range '\t' '\r') (single ' ')

end CharSet

/-- A condition on a place in a text. Conditions on words are `wide` if letters beyond ASCII were to
count as well. -/
inductive Anchor where
  | start
  | finish
  | lineStart
  | lineFinish
  | boundary (wide : Bool)
  | noBoundary (wide : Bool)
  | wordStart (wide : Bool)
  | wordFinish (wide : Bool)
deriving DecidableEq, Repr

inductive Pattern where
  | empty
  | char (set : CharSet)
  | anchor (a : Anchor)
  | seq (first second : Pattern)
  | either (preferred other : Pattern)
  | star (greedy : Bool) (body : Pattern)
deriving DecidableEq, Repr

/-- A place in a text: the characters on either side of it. -/
structure Place where
  before : Option Char
  after : Option Char
deriving DecidableEq, Repr

def Anchor.holds (a : Anchor) (place : Place) : Bool :=
  let inWord := fun c : Option Char => c.any CharSet.wordChars.contains
  let left := inWord place.before
  let right := inWord place.after
  match a with
  | start => place.before.isNone
  | finish => place.after.isNone
  | lineStart => place.before.isNone || place.before = some '\n'
  | lineFinish => place.after.isNone || place.after = some '\n'
  | boundary _ => left != right
  | noBoundary _ => left == right
  | wordStart _ => !left && right
  | wordFinish _ => left && !right

def Anchor.isWide : Anchor → Bool
  | boundary wide | noBoundary wide | wordStart wide | wordFinish wide => wide
  | _ => false

namespace Pattern

/-- Whether a pattern has a condition on words of letters beyond ASCII. -/
def hasWideAnchor : Pattern → Bool
  | anchor a => a.isWide
  | seq a b => a.hasWideAnchor || b.hasWideAnchor
  | either a b => a.hasWideAnchor || b.hasWideAnchor
  | star _ a => a.hasWideAnchor
  | _ => false

inductive Head where
  | done
  | step (set : CharSet) (rest : Pattern)
deriving DecidableEq, Repr

def andThen : Pattern → Pattern → Pattern
  | empty, b => b
  | a, b => seq a b

/-- The ways in which a pattern can go on at a place, the preferred one first. -/
def heads (place : Place) : Pattern → List Head
  | empty => [.done]
  | char set => [.step set empty]
  | anchor a => if a.holds place then [.done] else []
  | seq a b =>
      (heads place a).flatMap fun
        | .done => heads place b
        | .step set rest => [.step set (andThen rest b)]
  | either a b => heads place a ++ heads place b
  | star greedy a =>
      let repeated := (heads place a).map fun
        | .done => .done
        | .step set rest => .step set (andThen rest (star greedy a))
      if greedy then repeated ++ [.done] else .done :: repeated

def firstOnly (ps : List Pattern) : List Pattern :=
  ps.foldl (fun seen p => if p ∈ seen then seen else seen ++ [p]) []

/-- Goes through a text. `threads` are the matches under way, the preferred one first; once a match
has been found no other one is begun and none that is less preferred goes on. -/
def search (p : Pattern) (threads : List Pattern) (found : Bool) (before : Option Char) :
    List Char → Bool
  | [] =>
      let threads := if found then threads else threads ++ [p]
      (threads.flatMap (heads ⟨before, none⟩)).contains .done
  | c :: rest =>
      let threads := if found then threads else threads ++ [p]
      let ways := threads.flatMap (heads ⟨before, some c⟩)
      let next := (ways.takeWhile (· ≠ .done)).filterMap fun
        | .done => none
        | .step set more => if set.contains c then some more else none
      search p (firstOnly next) (found || ways.contains .done) (some c) rest

def accepts (p : Pattern) (s : String) : Bool :=
  p.search [] false none s.toList

end Pattern

end Clearance
