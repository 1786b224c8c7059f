import Courier.Report.Basic

/-!
# Log entries

Everything that is logged, by what happened.  An entry has a level, a fixed message and named fields;
numbers stay numbers and everything else is text.
-/

namespace Courier

inductive Level where
  | debug
  | info
  | warn
  | error
  deriving DecidableEq

def Level.name : Level → String
  | .debug => "DEBUG"
  | .info => "INFO"
  | .warn => "WARN"
  | .error => "ERROR"

/-- The value of a field. -/
inductive Mark where
  | number (n : Nat)
  | text (s : String)
  deriving DecidableEq

inductive Entry where
  | runStarted (eventType eventId : String)
  | payloadRejected (error : String)
  | callStarted (target data : String)
  | linkAnswered (status : Nat) (body : String)
  | callFailed (attempt : Nat) (error : String)
  | callAbandoned (attempt : Nat)
  | replyAccepted (attempt : Nat) (response : String)
  | attemptFailed (attempt : Nat) (outcome : String)
  | retryStopped (reason : String)
  | retryTooLate (delay remaining : Span)
  | retryPlanned (reason : String)
  | runCompleted (attempts : Nat)
  | runFailed (reason : FailureKind) (detail : String) (attempts : Nat)
  | completionReported (run : RunId) (attempts : Nat) (response : String)
  | failureReported (run : RunId) (attempts : Nat) (reason : FailureKind) (detail : String)
  deriving DecidableEq

namespace Entry

def level : Entry → Level
  | .callStarted _ _ | .linkAnswered _ _ => .debug
  | .payloadRejected _ | .callAbandoned _ | .attemptFailed _ _ | .runFailed _ _ _
  | .failureReported _ _ _ _ => .warn
  | .callFailed _ _ => .error
  | _ => .info

def message : Entry → String
  | .runStarted _ _ => "run started"
  | .payloadRejected _ => "rejecting payload"
  | .callStarted _ _ => "calling link proxy"
  | .linkAnswered _ _ => "link proxy responded"
  | .callFailed _ _ => "activity failed with a non-retryable error"
  | .callAbandoned _ => "deadline reached during downstream call, call abandoned"
  | .replyAccepted _ _ => "WORKFLOW_COMPLETE"
  | .attemptFailed _ _ => "attempt failed"
  | .retryStopped _ => "not retrying"
  | .retryTooLate _ _ => "backoff would cross the deadline"
  | .retryPlanned _ => "backing off"
  | .runCompleted _ => "run completed"
  | .runFailed _ _ _ => "run failed"
  | .completionReported _ _ _ | .failureReported _ _ _ _ => "run reported"

def fields : Entry → List (String × Mark)
  | .runStarted eventType eventId => [("event_type", .text eventType), ("event_id", .text eventId)]
  | .payloadRejected error => [("error", .text error)]
  | .callStarted target data => [("target_url", .text target), ("data", .text data)]
  | .linkAnswered status body => [("status", .number status), ("body", .text body)]
  | .callFailed attempt error => [("attempt", .number attempt), ("error", .text error)]
  | .callAbandoned attempt => [("attempt", .number attempt)]
  | .replyAccepted attempt response =>
    [("attempt", .number attempt), ("external_response", .text response)]
  | .attemptFailed attempt outcome => [("attempt", .number attempt), ("outcome", .text outcome)]
  | .retryStopped reason | .retryPlanned reason => [("reason", .text reason)]
  | .retryTooLate delay remaining =>
    [("delay", .text delay.text), ("remaining", .text remaining.text)]
  | .runCompleted attempts => [("attempts", .number attempts)]
  | .runFailed reason detail attempts =>
    [("reason", .text reason.phrase), ("detail", .text detail), ("attempts", .number attempts)]
  | .completionReported run attempts response =>
    [("run_id", .text run.text), ("attempts", .number attempts),
      ("external_response", .text response)]
  | .failureReported run attempts reason detail =>
    [("run_id", .text run.text), ("attempts", .number attempts), ("reason", .text reason.phrase),
      ("detail", .text detail)]

/-- The single entry about a finished run. -/
def ofReport (report : Report) : Entry :=
  match report.result with
  | .completed value => .completionReported report.runId report.attempts.length value
  | .failed reason detail => .failureReported report.runId report.attempts.length reason detail

end Entry

end Courier
