import Courier.Json.Printer

/-!
# Results

A run is completed with the text of a reply, or failed for one of four reasons with a detail.
-/

namespace Courier

inductive FailureKind where
  | timeout
  | retriesExhausted
  | fatal
  | cancelled
  deriving DecidableEq

namespace FailureKind

def all : List FailureKind := [.timeout, .retriesExhausted, .fatal, .cancelled]

/-- The name in reports. -/
def name : FailureKind → String
  | .timeout => "TIMEOUT"
  | .retriesExhausted => "RETRIES_EXHAUSTED"
  | .fatal => "FATAL"
  | .cancelled => "CANCELLED"

/-- The wording in log entries. -/
def phrase : FailureKind → String
  | .timeout => "timeout"
  | .retriesExhausted => "retries exhausted"
  | .fatal => "fatal"
  | .cancelled => "cancelled"

end FailureKind

inductive Result where
  | completed (value : String)
  | failed (reason : FailureKind) (detail : String)
  deriving DecidableEq

namespace Result

def isCompleted : Result → Bool
  | .completed _ => true
  | .failed _ _ => false

def reason? : Result → Option FailureKind
  | .completed _ => none
  | .failed reason _ => some reason

def json : Result → Json
  | .completed value => .object [("status", .string "completed"), ("value", .string value)]
  | .failed reason detail =>
    .object [("status", .string "failed"), ("reason", .string reason.name),
      ("detail", .string detail)]

end Result

end Courier
