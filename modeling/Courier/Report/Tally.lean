import Courier.Report.Result

/-!
# Tallies

The number of finished runs for each way to end.
-/

namespace Courier

structure Tally where
  completed : Nat
  timedOut : Nat
  retriesExhausted : Nat
  fatal : Nat
  cancelled : Nat
  deriving DecidableEq

namespace Tally

def empty : Tally := ⟨0, 0, 0, 0, 0⟩

def record (tally : Tally) (result : Result) : Tally :=
  match result with
  | .completed _ => { tally with completed := tally.completed + 1 }
  | .failed .timeout _ => { tally with timedOut := tally.timedOut + 1 }
  | .failed .retriesExhausted _ => { tally with retriesExhausted := tally.retriesExhausted + 1 }
  | .failed .fatal _ => { tally with fatal := tally.fatal + 1 }
  | .failed .cancelled _ => { tally with cancelled := tally.cancelled + 1 }

def failed (tally : Tally) : Nat :=
  tally.timedOut + tally.retriesExhausted + tally.fatal + tally.cancelled

def total (tally : Tally) : Nat := tally.completed + tally.failed

def ofResults (results : List Result) : Tally := results.foldl record empty

def json (tally : Tally) : Json :=
  .object
    [("completed", .number (.integer tally.completed)),
      ("timed_out", .number (.integer tally.timedOut)),
      ("retries_exhausted", .number (.integer tally.retriesExhausted)),
      ("fatal", .number (.integer tally.fatal)), ("cancelled", .number (.integer tally.cancelled))]

end Tally

end Courier
