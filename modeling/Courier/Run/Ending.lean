import Courier.Report.Result
import Courier.Time.Span

/-!
# Endings

How a run can end, by its cause, and the result that is reported for it.
-/

namespace Courier

inductive Ending where
  | completed (value : String)
  | timedOut (limit : Span) (calls : Nat) (lastFailure : Option String)
  | exhausted (lastFailure : String)
  | fatal (error : String)
  | cancelled
  deriving DecidableEq

namespace Ending

/-- The limit, the number of calls that were started and the last failure, if there was one. -/
def timeoutDetail (limit : Span) (calls : Nat) (lastFailure : Option String) : String :=
  s!"start-to-close timeout of {limit.text} exceeded after {calls} attempt(s)" ++
    match lastFailure with
    | some summary => "; last failure: " ++ summary
    | none => ""

def result : Ending → Result
  | .completed value => .completed value
  | .timedOut limit calls lastFailure => .failed .timeout (timeoutDetail limit calls lastFailure)
  | .exhausted lastFailure => .failed .retriesExhausted lastFailure
  | .fatal error => .failed .fatal error
  | .cancelled => .failed .cancelled "run cancelled"

end Ending

end Courier
