/-!
# Levels

How grave an event is, and the limits that filters set. A limit is written as a word in any
letter case or as a number.
-/

namespace Clearance

inductive Level where
  | error
  | warn
  | info
  | debug
  | trace
deriving DecidableEq, Repr

namespace Level

def rank : Level → Nat
  | error => 1
  | warn => 2
  | info => 3
  | debug => 4
  | trace => 5

def text : Level → String
  | error => "ERROR"
  | warn => "WARN"
  | info => "INFO"
  | debug => "DEBUG"
  | trace => "TRACE"

end Level

/-- The most detailed level that passes, or that none does. -/
inductive Limit where
  | off
  | upTo (level : Level)
deriving DecidableEq, Repr

namespace Limit

def rank : Limit → Nat
  | off => 0
  | upTo level => level.rank

def admits (limit : Limit) (level : Level) : Bool :=
  level.rank ≤ limit.rank

def max (a b : Limit) : Limit :=
  if a.rank < b.rank then b else a

/-- The words for limits, the narrowest first. -/
def words : List (String × Limit) :=
  [("off", off), ("error", upTo .error), ("warn", upTo .warn), ("info", upTo .info),
    ("debug", upTo .debug), ("trace", upTo .trace)]

/-- The number that decimal digits spell; a plus sign may stand in front. -/
def number? (s : String) : Option Nat :=
  let digits := match s.toList with
    | '+' :: rest => rest
    | cs => cs
  if digits.isEmpty || !digits.all Char.isDigit then none
  else some (digits.foldl (fun n c => n * 10 + (c.toNat - 48)) 0)

def ofText? (s : String) : Option Limit :=
  match number? s with
  | some n => (words[n]?).map Prod.snd
  | none => words.lookup (String.ofList (s.toList.map Char.toLower))

end Limit

end Clearance
