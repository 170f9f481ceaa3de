import Clearance.Vocabulary.Action
import Clearance.Vocabulary.Role
import Clearance.Vocabulary.SubjectType

/-!
# Errors of abilities

Every error is one of configuration: an unknown name or a record that is no subject. That an
action is denied is an answer and not an error.
-/

namespace Clearance

/-- Why an ability could not be built or asked. -/
inductive AbilityError where
  | missingDiscriminator
  | unknownSubjectType (text : String)
  /-- A record is no subject of the type that it names, for a reason in words. -/
  | invalidSubject (type : String) (reason : String)
  | unknownRole (text : String)
  | unknownAction (text : String)
deriving DecidableEq, Repr

namespace AbilityError

def message : AbilityError → String
  | missingDiscriminator => "subject instance has no `__typename` discriminator"
  | unknownSubjectType text => "unknown subject type: " ++ text
  | invalidSubject type reason => "invalid " ++ type ++ " subject: " ++ reason
  | unknownRole text => "permissions for role " ++ text ++ " not found"
  | unknownAction text => "unknown action: " ++ text

end AbilityError

def Role.parse (s : String) : Except AbilityError Role :=
  match Role.ofText? s with
  | some r => .ok r
  | none => .error (.unknownRole s)

def Action.parse (s : String) : Except AbilityError Action :=
  match Action.ofText? s with
  | some a => .ok a
  | none => .error (.unknownAction s)

def SubjectType.parse (s : String) : Except AbilityError SubjectType :=
  match SubjectType.ofText? s with
  | some t => .ok t
  | none => .error (.unknownSubjectType s)

end Clearance
