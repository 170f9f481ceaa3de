import Clearance.Text.Bytes
import Clearance.Text.Numeral

/-!
# Universally unique identifiers

A value of 128 bits. It is written as 32 lower-case hexadecimal digits in five groups. It is read
in either letter case from that form, from the same form in braces or after `urn:uuid:`, and from
the digits alone; any other text is refused with the first thing that is wrong with it.
-/

namespace Clearance

structure Uuid where
  bits : BitVec 128
deriving DecidableEq, Repr

namespace Uuid

def groupWidths : List Nat := [8, 4, 4, 4, 12]

def splitLengths {α : Type} : List Nat → List α → List (List α)
  | [], _ => []
  | width :: widths, xs => xs.take width :: splitLengths widths (xs.drop width)

def digits (u : Uuid) : List Char :=
  fixedNumeral 16 32 u.bits.toNat

def chars (u : Uuid) : List Char :=
  ['-'].intercalate (splitLengths groupWidths u.digits)

def text (u : Uuid) : String :=
  String.ofList u.chars

def compare (u v : Uuid) : Ordering :=
  Ord.compare u.bits.toNat v.bits.toNat

/-- Why a text is not an identifier. -/
inductive Flaw where
  | length (found : Nat)
  | character (found : Char) (place : Nat)
  | groupCount (found : Nat)
  | groupLength (group expected found : Nat)
deriving DecidableEq, Repr

def Flaw.message : Flaw → String
  | length found => "invalid length: found " ++ natText found
  | character found place =>
      "invalid character: found `" ++ String.singleton found ++ "` at " ++ natText place
  | groupCount found => "invalid group count: expected 5, found " ++ natText found
  | groupLength group expected found =>
      "invalid group length in group " ++ natText group ++ ": expected " ++ natText expected ++
        ", found " ++ natText found

def ofDigits? (cs : List Char) : Option Uuid := do
  guard (cs.length = 32)
  let values ← cs.mapM hexDigit?
  return ⟨BitVec.ofNat 128 (ofDigits 16 values)⟩

/-- The digits of five groups of the right widths with hyphens between them. -/
def joinGroups? : List Nat → List Char → Option (List Char)
  | [], _ => none
  | [width], cs => if cs.length = width then some cs else none
  | width :: widths, cs =>
      match cs.drop width with
      | '-' :: rest => (joinGroups? widths rest).map (cs.take width ++ ·)
      | _ => none

def ofGroups? (cs : List Char) : Option Uuid := do
  ofDigits? (← joinGroups? groupWidths cs)

/-- The mark in front of an identifier that is used as a name. -/
def urnMark : List Char := "urn:uuid:".toList

/-- What follows the mark of a name, whose letters may be of either case. -/
def afterUrnMark? (cs : List Char) : Option (List Char) :=
  if (cs.take urnMark.length).map Char.toLower = urnMark then some (cs.drop urnMark.length)
  else none

def insideBraces? : List Char → Option (List Char)
  | '\x7b' :: rest => if rest.getLast? = some '\x7d' then some rest.dropLast else none
  | _ => none

/-- Reads any of the four forms. -/
def ofChars? (cs : List Char) : Option Uuid :=
  ofDigits? cs <|> ofGroups? cs <|> (insideBraces? cs).bind ofGroups? <|>
    (afterUrnMark? cs).bind ofGroups?

/-- The first character that is neither a hexadecimal digit nor a hyphen, and its place. -/
def strayCharacter? (cs : List Char) : Option (Char × Nat) :=
  (cs.zipIdx).find? fun (c, _) => c ≠ '-' ∧ (hexDigit? c).isNone

def hyphens (cs : List Char) : List Nat :=
  (cs.zipIdx).filterMap fun (c, i) => if c = '-' then some i else none

/-- The first group whose hyphen is out of place: its number, width and start. -/
def misplacedGroup? (places : List Nat) : Option (Nat × Nat × Nat × Nat) :=
  ([(0, 8, 0), (1, 4, 9), (2, 4, 14), (3, 4, 19)].zip places).findSome?
    fun ((group, width, start), place) =>
      if place = start + width then none else some (group, width, start, place)

/-- What is wrong with a text whose wrapper has been taken off: `total` is the length with the
wrapper and `offset` the place in the text that counts as the start. -/
def innerFlaw (cs : List Char) (wrapped : Bool) (offset total : Nat) : Flaw :=
  match strayCharacter? cs with
  | some (c, place) => .character c (offset + place)
  | none =>
      let places := hyphens cs
      if places = [] ∧ ¬ wrapped then .length total
      else if places.length ≠ 4 then .groupCount (places.length + 1)
      else
        match misplacedGroup? places with
        | some (group, width, start, place) => .groupLength group width (place - start)
        | none => .groupLength 4 12 (total - 24)

/-- What is wrong with a text that is not an identifier. A wrapper around 36 bytes is left out of
account altogether. -/
def flaw (cs : List Char) : Flaw :=
  let total := byteWidth cs
  if total = 0 ∨ 45 < total then .length total
  else
    match insideBraces? cs, afterUrnMark? cs with
    | some inner, _ => innerFlaw inner true (if total = 38 then 0 else 1) total
    | none, some inner => innerFlaw inner true (if total = 45 then 0 else urnMark.length) total
    | none, none => innerFlaw cs false 0 total

def read (s : String) : Except Flaw Uuid :=
  match ofChars? s.toList with
  | some u => .ok u
  | none => .error (flaw s.toList)

/-- The identifier of version 4 made of random bits: the bits of version and variant are set. -/
def ofRandom (random : BitVec 128) : Uuid :=
  let n := random.toNat
  let low := n % Nat.pow 2 62
  let middle := n / Nat.pow 2 64 % Nat.pow 2 12
  let high := n / Nat.pow 2 80
  ⟨BitVec.ofNat 128 (high * Nat.pow 2 80 + 4 * Nat.pow 2 76 + middle * Nat.pow 2 64 +
    2 * Nat.pow 2 62 + low)⟩

/-- The version, which the thirteenth digit holds. -/
def version (u : Uuid) : Nat :=
  u.bits.toNat / Nat.pow 2 76 % 16

end Uuid

end Clearance
