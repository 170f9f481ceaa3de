import Clearance.Document.Basic
import Clearance.Identity.Uuid
import Clearance.Number.Layout
import Clearance.Text.Quoted

/-!
# Faults

Why a document does not fit the type it is decoded as. A fault is a cause; its wording is given
once, by `Fault.message`.
-/

namespace Clearance

inductive Found where
  | null
  | bool (value : Bool)
  | int (value : Int)
  | float (value : Binary64)
  | text (value : String)
  | list
  | table
  | bareName
deriving DecidableEq, Repr

inductive Expectation where
  | bool
  | text
  | int
  | uuid
  | list
  | table
  | nothing
  | name
  | singleMember
  | payload
  | tag
  | record (name : String)
  | recordItems (name : String) (count : Nat)
  | taggedPair (name : String)
  | taggedRecord (name : String)
  | fewerItems
  | items (count : Nat)
deriving DecidableEq, Repr

inductive Fault where
  | wrongType (found : Found) (expected : Expectation)
  | wrongValue (found : Found) (expected : Expectation)
  | wrongLength (found : Nat) (expected : Expectation)
  | missingMember (name : String)
  | repeatedMember (name : String)
  | unknownName (name : String) (known : List String)
  | uuid (flaw : Uuid.Flaw)
  /-- The text the document was read from is not well formed here. -/
  | malformed
deriving DecidableEq, Repr

def accented (s : String) : String :=
  "`" ++ s ++ "`"

def elementsText (n : Nat) : String :=
  natText n ++ (if n = 1 then " element" else " elements")

def Found.message (layout : NumberLayout) : Found → String
  | null => "null"
  | bool b => "boolean " ++ accented (if b then "true" else "false")
  | int n => "integer " ++ accented (intText n)
  | float x => "floating point " ++ accented (String.ofList (layout.text x))
  | text s => "string " ++ Quoted.text s
  | list => "sequence"
  | table => "map"
  | bareName => "unit variant"

def Expectation.message : Expectation → String
  | bool => "a boolean"
  | text => "a string"
  | int => "i64"
  | uuid => "a formatted UUID string"
  | list => "a sequence"
  | table => "a map"
  | nothing => "unit"
  | name => "string or map"
  | singleMember => "map with a single key"
  | payload => "newtype variant"
  | tag => "variant identifier"
  | record typeName => "struct " ++ typeName
  | recordItems typeName count => "struct " ++ typeName ++ " with " ++ elementsText count
  | taggedPair typeName => "adjacently tagged enum " ++ typeName
  | taggedRecord typeName => "internally tagged enum " ++ typeName
  | fewerItems => "fewer elements in array"
  | items count => elementsText count ++ " in sequence"

/-- The wording of a fault; `layout` is the way its format writes numbers. -/
def Fault.message (layout : NumberLayout) : Fault → String
  | wrongType found expected =>
      "invalid type: " ++ found.message layout ++ ", expected " ++ expected.message
  | wrongValue found expected =>
      "invalid value: " ++ found.message layout ++ ", expected " ++ expected.message
  | wrongLength found expected =>
      "invalid length " ++ natText found ++ ", expected " ++ expected.message
  | missingMember name => "missing field " ++ accented name
  | repeatedMember name => "duplicate field " ++ accented name
  | unknownName name known =>
      "unknown variant " ++ accented name ++ ", expected one of " ++
        ", ".intercalate (known.map accented)
  | uuid flaw => "UUID parsing failed: " ++ flaw.message
  | malformed => "malformed text"

end Clearance
