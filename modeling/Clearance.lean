import Clearance.Ability.Scan
import Clearance.Log.Installation
import Clearance.Session.Encoding
import Clearance.Subject.Record
import Clearance.Proofs.Ability.Policy
import Clearance.Proofs.Ability.Scan
import Clearance.Proofs.Ability.Specialize
import Clearance.Proofs.Ability.Segments
import Clearance.Proofs.Ability.Observed
import Clearance.Proofs.Settings.Layer
import Clearance.Proofs.Settings.Order
import Clearance.Proofs.Settings.Load
import Clearance.Proofs.Settings.Merge
import Clearance.Proofs.Decoding.Basic
import Clearance.Proofs.Decoding.Record
import Clearance.Proofs.Document.Canonical
import Clearance.Proofs.Subject.Record
import Clearance.Proofs.Text.Numeral
import Clearance.Proofs.Text.LetterCase
import Clearance.Proofs.Identity.Uuid
import Clearance.Proofs.Identity.Spelling
import Clearance.Proofs.Document.Json.Literal
import Clearance.Proofs.Document.Json.Text
import Clearance.Proofs.Vocabulary.Codec
import Clearance.Proofs.Rule.Codec
import Clearance.Proofs.Rule.Condition
import Clearance.Proofs.Subject.Encoding
import Clearance.Proofs.Subject.Spelling
import Clearance.Proofs.Ability.Renaming
import Clearance.Proofs.Ability.Widening
import Clearance.Proofs.Ability.Congruence
import Clearance.Proofs.Ability.Shadowing
import Clearance.Proofs.Ability.Exchange
import Clearance.Proofs.Ability.Expansion
import Clearance.Proofs.Ability.Attainable
import Clearance.Proofs.Ability.Wildcard
import Clearance.Proofs.Settings.Environment
import Clearance.Proofs.Settings.Codec
import Clearance.Proofs.Settings.Startup
import Clearance.Proofs.Settings.Trail
import Clearance.Proofs.Ability.DecisionLog
import Clearance.Proofs.Ability.Declarations
import Clearance.Proofs.Log.Installation
import Clearance.Proofs.Session.Step
import Clearance.Proofs.Session.Isolation
import Clearance.Proofs.Vocabulary.Spelling
import Clearance.Proofs.Text.Quoted
import Clearance.Proofs.Vocabulary.Display
