import Clearance.Log.Directive
import Clearance.Log.Entry

/-!
# Log filters

A filter is a list of directives. Of the directives that speak about an event by itself the most
specific one decides: the one with the longest target, then one that names a field; of two that
are equally specific for the same events the later one counts. Directives about spans widen what
passes inside the spans they fit. What no directive speaks about does not pass.
-/

namespace Clearance

structure Filter where
  directives : List Directive
deriving DecidableEq, Repr

namespace Filter

/-- The pieces of a text between commas, without the empty ones. -/
def pieces (s : String) : List (List Char) :=
  ((s.splitOn ",").filter fun piece => piece ≠ "").map String.toList

/-- Reads a filter; the first directive that is at fault is reported. -/
def read (s : String) : Except FilterFault Filter := do
  return ⟨← (pieces s).mapM Directive.read⟩

/-- The order of texts that may be missing: first those that are, then by length. -/
def compareLengths (a b : Option String) : Ordering :=
  match a, b with
  | none, none => .eq
  | none, some _ => .lt
  | some _, none => .gt
  | some s, some t => compare s.utf8ByteSize t.utf8ByteSize

def compareTexts (a b : Option String) : Ordering :=
  match a, b with
  | none, none => .eq
  | none, some _ => .lt
  | some _, none => .gt
  | some s, some t => compare s t

/-- How specific a directive about events is, compared with another one. -/
def compareSpecificity (a b : Directive) : Ordering :=
  let field := fun d : Directive => d.field.map FieldMatch.name
  (compareLengths a.target b.target).then <|
    (compare a.field.isSome b.field.isSome).then <|
      (compareTexts a.target b.target).then (compareTexts (field a) (field b))

def fitsTarget (d : Directive) (target : String) : Bool :=
  d.target.all fun front => front.toList.isPrefixOf target.toList

/-- The most specific of the directives; of equal ones the last. -/
def mostSpecific (ds : List Directive) : Option Directive :=
  ds.foldl (fun best d =>
    match best with
    | none => some d
    | some b => if compareSpecificity d b = .lt then some b else some d) none

/-- Whether the most specific of the directives lets a level pass. -/
def decides (ds : List Directive) (level : Level) : Bool :=
  (mostSpecific ds).any fun d => d.limit.admits level

def passesAlone (f : Filter) (e : LogEntry) : Bool :=
  decides (f.directives.filter fun d =>
    d.isStatic && fitsTarget d e.target && d.field.all fun m => m.name ∈ e.fieldNames) e.level

/-- Whether two directives about spans speak about the same ones. -/
def sameSpans (a b : Directive) : Bool :=
  let field := fun d : Directive => d.field.map fun m => (m.name, m.value.map ValueMatch.text)
  a.target = b.target && a.span = b.span && field a = field b

/-- The directives about spans; of those that speak about the same ones the last. -/
def dynamics (ds : List Directive) : List Directive :=
  match ds with
  | [] => []
  | d :: rest =>
      if d.isDynamic && !rest.any (fun other => other.isDynamic && sameSpans d other) then
        d :: dynamics rest
      else dynamics rest

/-- Whether a directive speaks about a span, whatever the values of its fields are. -/
def fitsSpan (d : Directive) (s : LogSpan) : Bool :=
  fitsTarget d s.target && d.span.all (· = s.name) && d.field.all fun m => m.name ∈ s.fieldNames

/-- Whether the field of a directive has the value that it asks for. -/
def fitsValue (d : Directive) (s : LogSpan) : Bool :=
  d.field.all fun m => m.value.all fun v => (s.fields.lookup m.name).any v.accepts

def limitInside (f : Filter) (s : LogSpan) : Limit :=
  ((dynamics f.directives).filter fun d => fitsSpan d s && fitsValue d s).foldl
    (fun limit d => limit.max d.limit) .off

/-- Whether a span is kept: a directive speaks about it, or it passes as events do. -/
def keepsSpan (f : Filter) (s : LogSpan) : Bool :=
  ((dynamics f.directives).any fun d => fitsSpan d s) ||
    decides (f.directives.filter fun d => d.isStatic && fitsTarget d s.target) s.level

def passes (f : Filter) (e : LogEntry) : Bool :=
  (e.span.any fun s => (f.limitInside s).admits e.level) || f.passesAlone e

/-- The entries that pass, each inside its span if that is kept. -/
def apply (f : Filter) (entries : List LogEntry) : List LogEntry :=
  (entries.filter f.passes).map fun e => { e with span := e.span.filter f.keepsSpan }

end Filter

end Clearance
