import Courier.Json.Shape
import Courier.Report.Basic
import Courier.Report.Tally
import Courier.Time.Timestamp.Reader

/-!
# Reading reports

The readers take what the printers write and more: members in any order with foreign ones among
them, and records as lists.  A result is an object with a `status`, or a list that starts with one;
its other parts are collected first and given their meaning afterwards, so a fault among them has no
place of its own.
-/

namespace Courier

open Json Json.Reader

def Ulid.reader : Reader Ulid := fun s ↦ do
  let (digits, rest) ← Reader.text "a string" s
  match Ulid.read digits with
  | .ok ulid => .ok (ulid, rest)
  | .error defect => faultHere (.other defect.message) rest

def Timestamp.reader : Reader Timestamp := fun s ↦ do
  let (shown, rest) ← Reader.text "an RFC 3339 formatted date and time string" s
  match Timestamp.read shown.toList with
  | .ok time => .ok (time, rest)
  | .error defect => faultAt (.other defect.message) rest

namespace FailureKind

def variants : List (String × FailureKind) := all.map fun kind ↦ (kind.name, kind)

def reader : Reader FailureKind := variant variants

end FailureKind

namespace Reply.Kind

def all : List Kind := [.success, .httpFailure, .transportFailure]

def variants : List (String × Kind) := all.map fun kind ↦ (kind.name, kind)

def reader : Reader Kind := variant variants

end Reply.Kind

/-! ## Results -/

namespace Result

/-- The two kinds of results. -/
inductive Status where
  | completed
  | failed

def Status.variants : List (String × Status) := [("completed", .completed), ("failed", .failed)]

/-- What a collected value is. -/
def foundIn : Json → Found
  | .null => .null
  | .bool b => .bool b
  | .number (.integer n) => .integer n
  | .number (.real negative m) => .real negative m
  | .string s => .string s
  | .array _ => .sequence
  | .object _ => .map

def textIn : Json → Except Cause String
  | .string s => .ok s
  | other => .error (.wrongType (foundIn other) "a string")

def reasonIn : Json → Except Cause FailureKind
  | .string name => named FailureKind.variants name
  | .object [(name, value)] => do
    let kind ← named FailureKind.variants name
    match value with
    | .null | .object [] => .ok kind
    | other => .error (.wrongType (foundIn other) "unit")
  | .object _ => .error (.wrongValue .map "map with a single key")
  | other => .error (.wrongType (foundIn other) "string or map")

/-- The collected members of a completed run. -/
def completedIn : Option String → List Member → Except Cause Result
  | none, [] => .error (.missingField "value")
  | some value, [] => .ok (.completed value)
  | soFar, (key, json) :: rest =>
    if key = "value" then
      match soFar with
      | none => do completedIn (some (← textIn json)) rest
      | some _ => .error (.duplicateField key)
    else completedIn soFar rest

/-- The collected members of a failed run. -/
def failedIn : Option FailureKind → Option String → List Member → Except Cause Result
  | none, _, [] => .error (.missingField "reason")
  | some _, none, [] => .error (.missingField "detail")
  | some reason, some detail, [] => .ok (.failed reason detail)
  | reason, detail, (key, json) :: rest =>
    if key = "reason" then
      match reason with
      | none => do failedIn (some (← reasonIn json)) detail rest
      | some _ => .error (.duplicateField key)
    else if key = "detail" then
      match detail with
      | none => do failedIn reason (some (← textIn json)) rest
      | some _ => .error (.duplicateField key)
    else failedIn reason detail rest

def ofMembers : Status → List Member → Except Cause Result
  | .completed => completedIn none
  | .failed => failedIn none none

/-- The collected items after the status; there may not be more of them than fields. -/
def ofItems : Status → List Json → Except Cause Result
  | .completed, [] => .error (.wrongLength 0 "struct variant RunResult::Completed with 1 element")
  | .completed, value :: rest => do
    let value ← textIn value
    if rest.isEmpty then .ok (.completed value)
    else .error (.wrongLength (rest.length + 1) "1 element in sequence")
  | .failed, [] => .error (.wrongLength 0 "struct variant RunResult::Failed with 2 elements")
  | .failed, [reason] => do
    let _ ← reasonIn reason
    .error (.wrongLength 1 "struct variant RunResult::Failed with 2 elements")
  | .failed, reason :: detail :: rest => do
    let reason ← reasonIn reason
    let detail ← textIn detail
    if rest.isEmpty then .ok (.failed reason detail)
    else .error (.wrongLength (rest.length + 2) "2 elements in sequence")

/-- Members up to the closing brace: the status and the others as they come. -/
def collect (room : Nat) : Nat → Bool → Option Status → List Member →
    Reader (Option Status × List Member)
  | 0, _, status, others, s => .ok ((status, others), s)
  | fuel + 1, first, status, others, s => do
    let (more, s) ← nextMember first s
    if more then
      let (key, s) ← stringBody s
      if key = "status" then
        if status.isSome then faultHere (.duplicateField key) s
        else
          let (found, s) ← identifier Status.variants (← colon s)
          collect room fuel false (some found) others s
      else
        let (found, s) ← Reader.value room (← colon s)
        collect room fuel false status (others ++ [(key, found)]) s
    else .ok ((status, others), s)

/-- The meaning of collected parts, with the text after them. -/
def settled (meaning : Except Cause Result) (rest : Bytes) : Except Fault (Result × Bytes) :=
  match meaning with
  | .ok result => .ok (result, rest)
  | .error cause => faultHere cause rest

/-- A result in which at most `room` containers may stand inside each other. -/
def reader (room : Nat) : Reader Result := fun s ↦
  match skipSpace s with
  | [] => faultNext .endInValue []
  | b :: s =>
    if b = 123 then do
      let ((status, others), s) ← (do
        let ((status, others), s) ← collect (room - 1) (s.length + 1) true none [] s
        match status with
        | some status => .ok ((status, others), s)
        | none => faultHere (.missingField "status") s).mapError (Fault.settle leaveObject)
      settled (ofMembers status others) (← closeObject s)
    else if b = 91 then do
      let ((status, others), s) ← (do
        let (more, s) ← nextItem true s
        if more then
          let (status, s) ← identifier Status.variants s
          let (others, s) ← items (Reader.value (room - 1)) (s.length + 1) false s
          .ok ((status, others), s)
        else faultHere (.missingField "status") s).mapError (Fault.settle leaveList)
      settled (ofItems status others) (← closeList s)
    else mismatch "internally tagged enum RunResult" (b :: s)

end Result

/-! ## Records, reports and tallies -/

/-- An identifier, written as its ULID. -/
def Id.reader {subject : Subject} : Reader (Id subject) := fun s ↦
  (Ulid.reader s).map fun (ulid, s) ↦ (⟨ulid⟩, s)

namespace Record

/-- A record some of whose fields have been read. -/
structure Partial where
  id : Option AttemptId
  number : Option Nat
  kind : Option Reply.Kind
  status : Option (Option Nat)
  summary : Option String
  millis : Option Nat

def fields : List (Slot Partial) :=
  [slot "attempt_id" Id.reader Partial.id fun p a ↦ { p with id := some a },
    slot "attempt_number" (whole "u32" (Numeral.greatest 32)) Partial.number
      fun p a ↦ { p with number := some a },
    slot "kind" Reply.Kind.reader Partial.kind fun p a ↦ { p with kind := some a },
    slot "status" (optional (whole "u16" (Numeral.greatest 16))) Partial.status
      fun p a ↦ { p with status := some a },
    slot "summary" (Reader.text "a string") Partial.summary fun p a ↦ { p with summary := some a },
    slot "duration_ms" (whole "u64" (Numeral.greatest 64)) Partial.millis
      fun p a ↦ { p with millis := some a }]

def ofPartial (p : Partial) : Except String Record := do
  .ok ⟨← need "attempt_id" p.id, ← need "attempt_number" p.number, ← need "kind" p.kind,
    p.status.getD none, ← need "summary" p.summary, ← need "duration_ms" p.millis⟩

def reader : Reader Record :=
  Reader.record "struct AttemptRecord" fields ⟨none, none, none, none, none, none⟩ ofPartial

end Record

namespace Report

/-- A report some of whose fields have been read. -/
structure Partial where
  runId : Option RunId
  eventType : Option (Option String)
  result : Option Result
  attempts : Option (List Record)
  startedAt : Option Timestamp
  finishedAt : Option Timestamp

def fields : List (Slot Partial) :=
  [slot "run_id" Id.reader Partial.runId fun p a ↦ { p with runId := some a },
    slot "event_type" (optional (Reader.text "a string")) Partial.eventType
      fun p a ↦ { p with eventType := some a },
    slot "result" (Result.reader (nesting - 1)) Partial.result
      fun p a ↦ { p with result := some a },
    slot "attempts" (Reader.list Record.reader) Partial.attempts
      fun p a ↦ { p with attempts := some a },
    slot "started_at" Timestamp.reader Partial.startedAt fun p a ↦ { p with startedAt := some a },
    slot "finished_at" Timestamp.reader Partial.finishedAt
      fun p a ↦ { p with finishedAt := some a }]

def ofPartial (p : Partial) : Except String Report := do
  .ok ⟨← need "run_id" p.runId, p.eventType.getD none, ← need "result" p.result,
    p.attempts.getD [], ← need "started_at" p.startedAt, ← need "finished_at" p.finishedAt⟩

def reader : Reader Report :=
  Reader.record "struct RunReport" fields ⟨none, none, none, none, none, none⟩ ofPartial

/-- The report that a text shows. -/
def read (source : Bytes) : Except Fault Report := readAs reader source

end Report

namespace Tally

/-- A tally some of whose fields have been read. -/
structure Partial where
  completed : Option Nat
  timedOut : Option Nat
  retriesExhausted : Option Nat
  fatal : Option Nat
  cancelled : Option Nat

def count : Reader Nat := whole "usize" (Numeral.greatest 64)

def fields : List (Slot Partial) :=
  [slot "completed" count Partial.completed fun p a ↦ { p with completed := some a },
    slot "timed_out" count Partial.timedOut fun p a ↦ { p with timedOut := some a },
    slot "retries_exhausted" count Partial.retriesExhausted
      fun p a ↦ { p with retriesExhausted := some a },
    slot "fatal" count Partial.fatal fun p a ↦ { p with fatal := some a },
    slot "cancelled" count Partial.cancelled fun p a ↦ { p with cancelled := some a }]

def ofPartial (p : Partial) : Except String Tally := do
  .ok ⟨← need "completed" p.completed, ← need "timed_out" p.timedOut,
    ← need "retries_exhausted" p.retriesExhausted, ← need "fatal" p.fatal,
    ← need "cancelled" p.cancelled⟩

def reader : Reader Tally :=
  Reader.record "struct RunCounts" fields ⟨none, none, none, none, none⟩ ofPartial

end Tally

end Courier
