import Courier.Retry.Policy

/-!
# Retry decisions

After a failed attempt a strategy either stops or asks for another attempt after a delay.  Waiting,
counting and the deadline are not its business.
-/

namespace Courier

inductive Decision where
  | retry (delay : Span) (reason : String)
  | stop (reason : String)
  deriving DecidableEq

/-- A decision for every state after a failed attempt. -/
abbrev Strategy := Progress → Decision

/-- Retries as long as the policy allows it. -/
def Policy.decide (policy : Policy) : Strategy := fun progress ↦
  if policy.allows progress then
    let delay := policy.backoff progress.number
    .retry delay
      s!"retry attempt {progress.number + 1}/{policy.attempts} after {delay.text}"
  else .stop s!"max attempts reached: {progress.number}/{policy.attempts}"

/-- Listed decisions, the `k`-th for attempt `k`; past the list it stops. -/
def Decision.listed (decisions : List Decision) : Strategy := fun progress ↦
  (decisions[progress.number - 1]?).getD (.stop "list ended")

end Courier
