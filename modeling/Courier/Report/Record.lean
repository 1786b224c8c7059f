import Courier.Reply
import Courier.Report.Result
import Courier.Ulid

/-!
# Attempt records

One record for each answered attempt: what came back, in one line, and how long it took.
-/

namespace Courier

structure Record where
  id : AttemptId
  number : Nat
  kind : Reply.Kind
  status : Option Nat
  summary : String
  millis : Nat
  deriving DecidableEq

namespace Record

/-- The record of a reply; the duration is cut to whole milliseconds and held to 64 bits. -/
def ofReply (id : AttemptId) (number : Nat) (reply : Reply) (duration : Span) : Record :=
  ⟨id, number, reply.kind, reply.status?, reply.summary, min duration.millis (Numeral.greatest 64)⟩

/-- The numbers lie in the widths that reports have for them. -/
def Fits (record : Record) : Prop :=
  record.number ≤ Numeral.greatest 32 ∧
    (∀ status ∈ record.status, status ≤ Numeral.greatest 16) ∧
    record.millis ≤ Numeral.greatest 64

def json (record : Record) : Json :=
  .object <|
    [("attempt_id", .string record.id.ulid.text),
      ("attempt_number", .number (.integer record.number)),
      ("kind", .string record.kind.name)] ++
    (match record.status with
      | some status => [("status", .number (.integer status))]
      | none => []) ++
    [("summary", .string record.summary), ("duration_ms", .number (.integer record.millis))]

end Record

end Courier
