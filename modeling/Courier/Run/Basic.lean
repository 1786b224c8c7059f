import Courier.Journal
import Courier.Retry.Decision
import Courier.Run.Ending
import Courier.Run.Link
import Courier.Run.Watch
import Courier.Settings

/-!
# Runs

A run takes one payload to its result under a watch: it calls the link, and after a failure waits
and calls again as its terms say.  It is a machine that moves as far as it can at the present
moment: `Run.step` is one move, and there is none while the run waits for a call or between calls,
or once it is over.  How the clock moves on and when a cancellation comes about is left to those who
drive it.
-/

namespace Courier

/-- What all runs of one kind have in common. -/
structure Terms where
  target : String
  timeout : Span
  decide : Strategy
  /-- The identifier of the record of an attempt. -/
  attemptId : Nat → AttemptId
  clockRange : ClockRange

namespace Terms

/-- Terms under which runs retry as a policy says; the policy has to be a valid one. -/
def ofPolicy (address : String) (timeout : Span) (policy : Policy) (attemptId : Nat → AttemptId)
    (clockRange : ClockRange) : Except Policy.Defect Terms :=
  match policy.check with
  | .ok policy => .ok ⟨Request.targetOf address, timeout, policy.decide, attemptId, clockRange⟩
  | .error defect => .error defect

/-- The terms that settings stand for. -/
def ofSettings (settings : Settings) (attemptId : Nat → AttemptId) (clockRange : ClockRange) :
    Except Policy.Defect Terms :=
  match settings.policy with
  | .ok policy => ofPolicy settings.linkAddress settings.timeout policy attemptId clockRange
  | .error defect => .error defect

end Terms

/-- Where a run under way stands. -/
inductive Stage where
  | ready
  | calling (since due : Moment) (answer : Answer)
  | resting (wake : Moment)

inductive Phase where
  | working (request : Request) (stage : Stage)
  | over (ending : Ending) (finishedAt : Moment)

structure Run where
  watch : Watch
  /-- The type of the event, if the payload is one. -/
  eventType : Option String
  phase : Phase
  state : Progress
  records : List Record
  /-- The calls that were started, with their moments. -/
  calls : List (Moment × Request)
  log : List Entry

namespace Run

/-- Ends the run, which is logged as its last entry. -/
def finish (run : Run) (now : Moment) (ending : Ending) : Run :=
  let entry := match ending.result with
    | .completed _ => .runCompleted run.records.length
    | .failed reason detail => .runFailed reason detail run.records.length
  { run with phase := .over ending now, log := run.log ++ [entry] }

def note (run : Run) (entry : Entry) : Run := { run with log := run.log ++ [entry] }

/-- A run of a payload, ready for its first call; a payload that is no event ends it at once. -/
def start (terms : Terms) (payload : Bytes) (now : Moment) : Run :=
  let fresh (eventType : Option String) (phase : Phase) : Run :=
    ⟨Watch.start terms.clockRange now terms.timeout, eventType, phase, Progress.initial, [], [], []⟩
  match Event.decode payload with
  | .ok event =>
    (fresh (some event.type) (.working (Request.ofEvent terms.target event) .ready)).note
      (.runStarted event.type (event.id.getD ""))
  | .error defect =>
    let error := defect.problem.message
    let run := fresh none (.over (.fatal error) now)
    (run.note (.payloadRejected error)).finish now (.fatal error)

/-- Ends the run for lack of time after a number of calls. -/
def timeOut (terms : Terms) (run : Run) (now : Moment) (calls : Nat) : Run :=
  run.finish now (.timedOut terms.timeout calls (run.state.last.map Reply.summary))

def interrupt (terms : Terms) (run : Run) (now : Moment) : Interrupt → Run
  | .cancelled => run.finish now .cancelled
  | .deadlineReached => timeOut terms run now run.state.number

/-- Starts the next call. -/
def call {σ : Type} (link : Link σ) (run : Run) (request : Request) (now : Moment) (s : σ) :
    Run × σ :=
  let (step, s) := link request s
  ({ run with
      phase := .working request (.calling now (now + step.latency) step.answer)
      calls := run.calls ++ [(now, request)]
      log := run.log ++ [.callStarted request.target (Utf8.lossy request.body)] }, s)

/-- After a failed attempt: stops, or waits before the next one, unless the wait would reach the
deadline. -/
def decide (terms : Terms) (run : Run) (request : Request) (now : Moment) : Run :=
  match terms.decide run.state with
  | .stop reason => (run.note (.retryStopped reason)).finish now (.exhausted run.state.lastText)
  | .retry delay reason =>
    let remaining := run.watch.remaining now
    if remaining ≤ delay then
      timeOut terms (run.note (.retryTooLate delay remaining)) now run.state.number
    else
      { run.note (.retryPlanned reason) with
        phase := .working request (.resting (Span.waitEnd now delay)) }

/-- Takes down the reply of a call that was started at a moment. -/
def receive (terms : Terms) (run : Run) (request : Request) (since now : Moment)
    (reply : Reply) : Run :=
  let number := run.state.number
  let record := Record.ofReply (terms.attemptId number) number reply (now - since)
  let run := { run with records := run.records ++ [record] }
  match reply with
  | .success _ body =>
    let value := Utf8.lossy body
    (run.note (.replyAccepted number value)).finish now (.completed value)
  | _ =>
    let run := run.note (.attemptFailed number reply.summary)
    let state := run.state.record reply (run.watch.elapsed now)
    decide terms { run with state := state } request now

/-- One move at the present moment, if there is any. -/
def step {σ : Type} (terms : Terms) (link : Link σ) (now : Moment) (cancelled : Bool)
    (run : Run) (s : σ) : Option (Run × σ) :=
  match run.phase with
  | .over _ _ => none
  | .working request .ready =>
    if cancelled then some (run.finish now .cancelled, s)
    else if run.watch.isExpired now then
      some (timeOut terms run now (run.state.number - 1), s)
    else some (run.call link request now s)
  | .working request (.calling since due answer) =>
    match run.watch.poll now cancelled due with
    | none => none
    | some (.error .cancelled) => some (interrupt terms run now .cancelled, s)
    | some (.error .deadlineReached) =>
      some (interrupt terms (run.note (.callAbandoned run.state.number)) now .deadlineReached, s)
    | some (.ok ()) =>
      match answer with
      | .error error =>
        some ((run.note (.callFailed run.state.number error)).finish now (.fatal error), s)
      | .ok reply => some (receive terms run request since now reply, s)
  | .working request (.resting wake) =>
    match run.watch.poll now cancelled wake with
    | none => none
    | some (.error reason) => some (interrupt terms run now reason, s)
    | some (.ok ()) =>
      some ({ run with state := run.state.advance, phase := .working request .ready }, s)

def isOver (run : Run) : Bool :=
  match run.phase with
  | .over _ _ => true
  | .working _ _ => false

/-- The moments at which a waiting run may move again. -/
def alarms (run : Run) : List Moment :=
  match run.phase with
  | .working _ (.calling _ due _) => [due, run.watch.deadline]
  | .working _ (.resting wake) => [wake, run.watch.deadline]
  | _ => []

/-- The report of a run that is over, with times from a wall clock. -/
def report? (run : Run) (id : RunId) (clock : Moment → Timestamp) : Option Report :=
  match run.phase with
  | .over ending finishedAt =>
    some ⟨id, run.eventType, ending.result, run.records, clock run.watch.startedAt,
      clock finishedAt⟩
  | .working _ _ => none

theorem isOver_eq_true_iff {run : Run} :
    run.isOver = true ↔ ∃ ending finishedAt, run.phase = .over ending finishedAt := by
  unfold isOver
  split
  · next hphase => simp [hphase]
  · next hphase => simp [hphase]

theorem map_runId_report? {run : Run} (hover : run.isOver = true) (id : RunId)
    (clock : Moment → Timestamp) :
    (run.report? id clock).toList.map Report.runId = [id] := by
  obtain ⟨ending, finishedAt, hphase⟩ := isOver_eq_true_iff.mp hover
  simp [report?, hphase]

end Run

end Courier
