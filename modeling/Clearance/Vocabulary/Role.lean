/-!
# Roles

The roles of an organization's members. Each role has one policy.
-/

namespace Clearance

inductive Role where
  | admin
  | member
  /-- Sees to billing alone. -/
  | billing
deriving DecidableEq, Repr

namespace Role

/-- The roles in order. -/
def all : List Role := [admin, member, billing]

def text : Role → String
  | admin => "ADMIN"
  | member => "MEMBER"
  | billing => "BILLING"

def ofText? : String → Option Role
  | "ADMIN" => some admin
  | "MEMBER" => some member
  | "BILLING" => some billing
  | _ => none

end Role

end Clearance
