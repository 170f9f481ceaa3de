import Clearance.Identity.Id
import Clearance.Settings.Basic
import Clearance.Vocabulary.Action
import Clearance.Vocabulary.Role
import Clearance.Vocabulary.SubjectType

/-!
# Notices

What the library tells the log. Operations give their notices back as values, in the order in
which they arise.
-/

namespace Clearance

inductive Notice where
  | builtAbility (role : Role) (user : UserId) (rules : Nat)
  /-- A query was decided, by the rule with the given index or by none. -/
  | decision (action : Action) (type : SubjectType) (onInstance allowed : Bool)
      (rule : Option Nat)
  | loadingSource (name : String)
  | configurationLoaded (config : AuthConfig)
  | loadingDefaults
  | fileNotFound (path : String)
  | loadingFile (path : String)
  | fileParsed
  | loadingEnvironment
deriving DecidableEq, Repr

end Clearance
