import Courier.Report.Record

/-!
# Run reports

The report of one run: its result, the records of its attempts and the times it was started and
finished.  The event type is absent when the payload was no event.
-/

namespace Courier

structure Report where
  runId : RunId
  eventType : Option String
  result : Result
  attempts : List Record
  startedAt : Timestamp
  finishedAt : Timestamp
  deriving DecidableEq

namespace Report

/-- The members in order; an absent event type and an empty list of attempts are left out. -/
def json (report : Report) : Json :=
  .object <|
    [("run_id", .string report.runId.ulid.text)] ++
    (match report.eventType with
      | some type => [("event_type", .string type)]
      | none => []) ++
    [("result", report.result.json)] ++
    (match report.attempts with
      | [] => []
      | attempts => [("attempts", .array (attempts.map Record.json))]) ++
    [("started_at", .string report.startedAt.text), ("finished_at", .string report.finishedAt.text)]

end Report

end Courier
