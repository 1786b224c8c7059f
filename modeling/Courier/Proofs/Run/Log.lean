import Courier.Proofs.Run.Account
import Courier.Proofs.Run.Deadline

/-!
# Logs of runs

The log of a run says the same as its report.  While the run is under way, each call, each failure
and each wait has put its entry into the log, and nothing there tells of an end; the move that ends
the run adds what is said at the end, once.  Whether the last wait was followed by a call is seen
from where the run stood before that move.
-/

namespace Courier

/-- The entries with a message. -/
def entriesOf (message : String) (log : List Entry) : List Entry :=
  log.filter fun entry ↦ decide (entry.message = message)

theorem entriesOf_append (message : String) (log more : List Entry) :
    entriesOf message (log ++ more) = entriesOf message log ++ entriesOf message more :=
  List.filter_append ..

theorem entriesOf_cons (message : String) (entry : Entry) (log : List Entry) :
    entriesOf message (entry :: log) =
      if entry.message = message then entry :: entriesOf message log
      else entriesOf message log := by
  simp [entriesOf, List.filter_cons]

theorem entriesOf_nil (message : String) : entriesOf message [] = [] := rfl

namespace Record

def failures (records : List Record) : List Record :=
  records.filter fun record ↦ decide (record.kind ≠ .success)

/-- The fields of the entry about a failure. -/
def failureFields (record : Record) : List (String × Mark) :=
  [("attempt", .number record.number), ("outcome", .text record.summary)]

variable {record : Record} (records : List Record)

theorem failures_concat_of_success (hsuccess : record.kind = .success) :
    failures (records ++ [record]) = failures records := by
  simp [failures, hsuccess]

theorem failures_concat_of_failure (hfailure : record.kind ≠ .success) :
    failures (records ++ [record]) = failures records ++ [record] := by
  simp [failures, hfailure]

end Record

/-! ## Entries while a run is under way -/

/-- A log that tells of calls, failed attempts and waits, but not of an end. -/
structure Booked (first : Entry) (log : List Entry) (calls : Nat) (records : List Record)
    (waits : Nat) : Prop where
  first : log.head? = some first
  calls : (entriesOf "calling link proxy" log).length = calls
  failures : (entriesOf "attempt failed" log).map Entry.fields =
    (Record.failures records).map Record.failureFields
  waits : (entriesOf "backing off" log).length = waits
  unanswered : entriesOf "WORKFLOW_COMPLETE" log = []
  uncompleted : entriesOf "run completed" log = []
  unfailed : entriesOf "run failed" log = []

namespace Booked

variable {first entry : Entry} {log : List Entry} {calls waits number : Nat}
  {records : List Record} {record : Record} {summary target data reason : String}

/-- Nothing is counted by such an entry. -/
def IsAside (entry : Entry) : Prop :=
  entry.message ∉ ["calling link proxy", "attempt failed", "backing off", "WORKFLOW_COMPLETE",
    "run completed", "run failed"]

theorem aside (hbooked : Booked first log calls records waits) (haside : IsAside entry) :
    Booked first (log ++ [entry]) calls records waits := by
  simp only [IsAside, List.mem_cons, List.not_mem_nil, or_false, not_or] at haside
  obtain ⟨hcall, hfailed, hwait, hanswer, hcompleted, hended⟩ := haside
  obtain ⟨hfirst, hcalls, hfailures, hwaits, hunanswered, huncompleted, hunfailed⟩ := hbooked
  constructor <;> simp [entriesOf_append, entriesOf_cons, entriesOf_nil, *]

theorem call (hbooked : Booked first log calls records waits) :
    Booked first (log ++ [.callStarted target data]) (calls + 1) records waits := by
  obtain ⟨hfirst, hcalls, hfailures, hwaits, hunanswered, huncompleted, hunfailed⟩ := hbooked
  constructor <;> simp [entriesOf_append, entriesOf_cons, entriesOf_nil, Entry.message, *]

theorem wait (hbooked : Booked first log calls records waits) :
    Booked first (log ++ [.retryPlanned reason]) calls records (waits + 1) := by
  obtain ⟨hfirst, hcalls, hfailures, hwaits, hunanswered, huncompleted, hunfailed⟩ := hbooked
  constructor <;> simp [entriesOf_append, entriesOf_cons, entriesOf_nil, Entry.message, *]

theorem failure (hbooked : Booked first log calls records waits) (record : Record)
    (hkind : record.kind ≠ .success) :
    Booked first (log ++ [.attemptFailed record.number record.summary]) calls (records ++ [record])
      waits := by
  obtain ⟨hfirst, hcalls, hfailures, hwaits, hunanswered, huncompleted, hunfailed⟩ := hbooked
  have hrecords := Record.failures_concat_of_failure records hkind
  constructor <;>
    simp [entriesOf_append, entriesOf_cons, entriesOf_nil, Entry.message, Entry.fields,
      Record.failureFields, *]

theorem success (hbooked : Booked first log calls records waits) (record : Record)
    (hkind : record.kind = .success) : Booked first log calls (records ++ [record]) waits := by
  refine { hbooked with failures := ?_ }
  rw [Record.failures_concat_of_success records hkind]
  exact hbooked.failures

end Booked

namespace Run

variable {σ : Type} {terms : Terms} {link : Link σ} {now : Moment} {cancelled : Bool}
  {run next : Run} {s after : σ} {first : Entry} {waits : Nat} {request : Request} {stage : Stage}
  {ending : Ending}

/-- The waits that have been begun after so many calls. -/
def waitsAt (calls : Nat) : Stage → Nat
  | .ready => calls
  | .calling _ _ _ => calls - 1
  | .resting _ => calls

structure Underway (first : Entry) (run : Run) (request : Request) (stage : Stage) : Prop where
  phase : run.phase = .working request stage
  booked : Booked first run.log run.calls.length run.records (waitsAt run.calls.length stage)
  begun : stage = .ready ∨ run.calls ≠ []

/-! ## Entries at the end -/

/-- What the log of a run says that is over: its end comes last and is told once. -/
inductive Signed (first : Entry) (run : Run) (waits : Nat) : Ending → Prop
  | completed {before : List Entry} {number : Nat} {value : String}
      (hbooked : Booked first before run.calls.length run.records waits)
      (hlog : run.log =
        before ++ [.replyAccepted number value, .runCompleted run.records.length]) :
      Signed first run waits (.completed value)
  | failed {before : List Entry} {ending : Ending} {reason : FailureKind} {detail : String}
      (hresult : ending.result = .failed reason detail)
      (hbooked : Booked first before run.calls.length run.records waits)
      (hlog : run.log = before ++ [.runFailed reason detail run.records.length]) :
      Signed first run waits ending

theorem signed_of_failed {reason : FailureKind} {detail : String}
    (hbooked : Booked first run.log run.calls.length run.records waits)
    (hresult : ending.result = .failed reason detail) :
    Signed first (run.finish now ending) waits ending := by
  refine .failed hresult hbooked ?_
  simp only [finish, hresult]

/-- What is decided after a failed attempt is either another wait or the end. -/
theorem decide_signed (terms : Terms) (request : Request) (now : Moment)
    (hbooked : Booked first run.log run.calls.length run.records waits) :
    (∃ wake, (decide terms run request now).phase = .working request (.resting wake) ∧
        (decide terms run request now).calls = run.calls ∧
        Booked first (decide terms run request now).log run.calls.length
          (decide terms run request now).records (waits + 1)) ∨
      ∃ ending, (decide terms run request now).phase = .over ending now ∧
        (decide terms run request now).calls = run.calls ∧
        Signed first (decide terms run request now) waits ending := by
  unfold decide
  split
  · next reason _ =>
    have haside : Booked first (run.note (.retryStopped reason)).log run.calls.length run.records
        waits := hbooked.aside (by simp [Booked.IsAside, Entry.message])
    exact .inr ⟨_, rfl, rfl, signed_of_failed haside rfl⟩
  · next delay reason _ =>
    dsimp only
    split
    · have haside : Booked first (run.note (.retryTooLate delay (run.watch.remaining now))).log
          run.calls.length run.records waits :=
        hbooked.aside (by simp [Booked.IsAside, Entry.message])
      exact .inr ⟨_, rfl, rfl, signed_of_failed haside rfl⟩
    · exact .inl ⟨_, rfl, rfl, hbooked.wait⟩

/-- The run when a failure has been taken down and nothing has been decided yet. -/
def failedAt (terms : Terms) (run : Run) (since now : Moment) (reply : Reply) : Run :=
  { run with
    records := run.records ++ [Record.ofReply (terms.attemptId run.state.number) run.state.number
      reply (now - since)]
    log := run.log ++ [.attemptFailed run.state.number reply.summary]
    state := run.progressAt now reply }

theorem receive_of_failure {since : Moment} {reply : Reply} (hfailure : reply.isFailure = true) :
    receive terms run request since now reply =
      decide terms (run.failedAt terms since now reply) request now := by
  cases reply with
  | success => contradiction
  | _ => rfl

theorem receive_signed (terms : Terms) (request : Request) (since now : Moment) (reply : Reply)
    (hbooked : Booked first run.log run.calls.length run.records waits) :
    (∃ wake, (receive terms run request since now reply).phase =
          .working request (.resting wake) ∧
        Booked first (receive terms run request since now reply).log run.calls.length
          (receive terms run request since now reply).records (waits + 1)) ∨
      ∃ ending, (receive terms run request since now reply).phase = .over ending now ∧
        Signed first (receive terms run request since now reply) waits ending := by
  cases hfailure : reply.isFailure with
  | false =>
    cases reply with
    | success status body =>
      have hanswered := hbooked.success (Record.ofReply (terms.attemptId run.state.number)
        run.state.number (.success status body) (now - since)) rfl
      refine .inr ⟨.completed (Utf8.lossy body), rfl, ?_⟩
      exact @Signed.completed _ _ _ _ run.state.number _ hanswered (List.append_assoc ..)
    | _ => contradiction
  | true =>
    have hkind : reply.kind ≠ .success := by simp [Reply.kind_eq_success_iff, hfailure]
    have hfailed : Booked first (run.failedAt terms since now reply).log run.calls.length
        (run.failedAt terms since now reply).records waits :=
      hbooked.failure (Record.ofReply _ run.state.number reply _) hkind
    rw [receive_of_failure hfailure]
    rcases decide_signed terms request now hfailed with
      ⟨wake, hphase, _, hlog⟩ | ⟨ending, hphase, _, hsigned⟩
    · exact .inl ⟨wake, hphase, hlog⟩
    · exact .inr ⟨ending, hphase, hsigned⟩

/-- A run that is under way is so after its move too, or the move ends it. -/
theorem Moves.signed (hmove : run.Moves terms link now cancelled s next after)
    (hrun : Underway first run request stage) :
    (∃ stage, Underway first next request stage) ∨
      ∃ ending, next.phase = .over ending now ∧ next.calls = run.calls ∧
        Signed first next (waitsAt run.calls.length stage) ending := by
  obtain ⟨hphase, hbooked, hbegun⟩ := hrun
  cases hmove with
  | cancel => exact .inr ⟨_, rfl, rfl, signed_of_failed hbooked rfl⟩
  | expire => exact .inr ⟨_, rfl, rfl, signed_of_failed hbooked rfl⟩
  | overrun => exact .inr ⟨_, rfl, rfl, signed_of_failed hbooked rfl⟩
  | abandon =>
    have haside : Booked first (run.note (.callAbandoned run.state.number)).log run.calls.length
        run.records (waitsAt run.calls.length stage) :=
      hbooked.aside (by simp [Booked.IsAside, Entry.message])
    exact .inr ⟨_, rfl, rfl, signed_of_failed haside rfl⟩
  | @fail _ _ _ error =>
    have haside : Booked first (run.note (.callFailed run.state.number error)).log run.calls.length
        run.records (waitsAt run.calls.length stage) :=
      hbooked.aside (by simp [Booked.IsAside, Entry.message])
    exact .inr ⟨_, rfl, rfl, signed_of_failed haside rfl⟩
  | call hready =>
    cases hphase.symm.trans hready
    refine .inl ⟨_, rfl, ?_, .inr (List.append_ne_nil_of_right_ne_nil _ (List.cons_ne_nil _ _))⟩
    have hcalls : (run.call link request now s).1.calls.length = run.calls.length + 1 :=
      List.length_append
    rw [hcalls]
    exact hbooked.call
  | @receive _ since due reply hcalling =>
    cases hphase.symm.trans hcalling
    have hcalls : (Run.receive terms run request since now reply).calls = run.calls :=
      receive_calls ..
    have hpositive : run.calls ≠ [] := hbegun.resolve_left nofun
    rcases receive_signed terms request since now reply hbooked with
      ⟨wake, hresting, hbooked⟩ | ⟨ending, hover, hsigned⟩
    · refine .inl ⟨_, hresting, ?_, .inr (hcalls ▸ hpositive)⟩
      rw [hcalls]
      have hlength := List.length_pos_iff.mpr hpositive
      rwa [waitsAt, Nat.sub_add_cancel hlength] at hbooked
    · exact .inr ⟨ending, hover, hcalls, hsigned⟩
  | wake hresting =>
    cases hphase.symm.trans hresting
    exact .inl ⟨.ready, rfl, hbooked, .inl rfl⟩

/-- A wait can only be ended by the deadline or a cancellation. -/
theorem Moves.reason_of_resting (hmove : run.Moves terms link now cancelled s next after)
    {wake finishedAt : Moment} (hresting : run.phase = .working request (.resting wake))
    (hover : next.phase = .over ending finishedAt) :
    ending.result.reason? = some .timeout ∨ ending.result.reason? = some .cancelled := by
  cases hmove with
  | cancel =>
    cases hover
    exact .inr rfl
  | overrun =>
    cases hover
    exact .inl rfl
  | wake => cases hover
  | expire hphase | call hphase | abandon hphase | fail hphase | receive hphase =>
    cases hphase.symm.trans hresting

end Run

/-! ## Logs and reports -/

/-- What the log of a run with so many calls tells of its report.  Whether the run has ended in a
wait is known from elsewhere. -/
structure Report.Logged (report : Report) (calls : Nat) (rested : Prop) (log : List Entry) :
    Prop where
  ended : ∃ entry, log.getLast? = some entry ∧
    entriesOf "run completed" log ++ entriesOf "run failed" log = [entry] ∧
    (entry.message = "run completed" ↔ report.result.isCompleted = true) ∧
    ("attempts", .number report.attempts.length) ∈ entry.fields
  answered : ∀ value, report.result = .completed value → ∃ entry,
    entriesOf "WORKFLOW_COMPLETE" log = [entry] ∧ ("external_response", .text value) ∈ entry.fields
  unanswered : (∀ value, report.result ≠ .completed value) → entriesOf "WORKFLOW_COMPLETE" log = []
  failures : (entriesOf "attempt failed" log).map Entry.fields =
    (Record.failures report.attempts).map Record.failureFields
  called : (entriesOf "calling link proxy" log).length = calls
  waited : (entriesOf "backing off" log).length = calls - 1 ∨
    (entriesOf "backing off" log).length = calls ∧ 0 < calls ∧ rested ∧
      (report.result.reason? = some .timeout ∨ report.result.reason? = some .cancelled)

namespace Run.Signed

variable {first : Entry} {run : Run} {waits : Nat} {ending : Ending} {report : Report}

theorem head?_eq (hsigned : run.Signed first waits ending) : run.log.head? = some first := by
  cases hsigned with
  | completed hbooked hlog | failed _ hbooked hlog =>
    rw [hlog, List.head?_append, hbooked.first, Option.some_or]

/-- The end adds nothing to what is told of calls, failures and waits. -/
theorem exists_booked (hsigned : run.Signed first waits ending) : ∃ before,
    Booked first before run.calls.length run.records waits ∧
      ∀ message ∈ ["calling link proxy", "attempt failed", "backing off"],
        entriesOf message run.log = entriesOf message before := by
  cases hsigned with
  | completed hbooked hlog | failed _ hbooked hlog =>
    refine ⟨_, hbooked, ?_⟩
    simp [hlog, entriesOf_append, entriesOf_cons, entriesOf_nil, Entry.message]

theorem ended (hsigned : run.Signed first waits ending) : ∃ entry, run.log.getLast? = some entry ∧
    entriesOf "run completed" run.log ++ entriesOf "run failed" run.log = [entry] ∧
    (entry.message = "run completed" ↔ ending.result.isCompleted = true) ∧
    ("attempts", .number run.records.length) ∈ entry.fields := by
  cases hsigned with
  | completed hbooked hlog =>
    refine ⟨.runCompleted run.records.length, by simp [hlog], ?_, iff_of_true rfl rfl,
      by simp [Entry.fields]⟩
    simp [hlog, entriesOf_append, entriesOf_cons, entriesOf_nil, Entry.message,
      hbooked.uncompleted, hbooked.unfailed]
  | @failed _ _ reason detail hfailed hbooked hlog =>
    refine ⟨.runFailed reason detail run.records.length, by simp [hlog], ?_, ?_,
      by simp [Entry.fields]⟩
    · simp [hlog, entriesOf_append, entriesOf_cons, entriesOf_nil, Entry.message,
        hbooked.uncompleted, hbooked.unfailed]
    · simp [Entry.message, hfailed, Result.isCompleted]

theorem answered {value : String} (hsigned : run.Signed first waits ending)
    (hvalue : ending.result = .completed value) : ∃ entry,
      entriesOf "WORKFLOW_COMPLETE" run.log = [entry] ∧
        ("external_response", .text value) ∈ entry.fields := by
  cases hsigned with
  | completed hbooked hlog =>
    cases hvalue
    refine ⟨_, by simp only [hlog, entriesOf_append, hbooked.unanswered]; rfl, ?_⟩
    simp [Entry.fields]
  | failed hfailed => cases hfailed.symm.trans hvalue

theorem unanswered (hsigned : run.Signed first waits ending)
    (hnone : ∀ value, ending.result ≠ .completed value) :
    entriesOf "WORKFLOW_COMPLETE" run.log = [] := by
  cases hsigned with
  | completed => exact absurd rfl (hnone _)
  | failed _ hbooked hlog =>
    simp [hlog, entriesOf_append, entriesOf_cons, entriesOf_nil, Entry.message, hbooked.unanswered]

theorem logged {rested : Prop} (hsigned : run.Signed first waits ending)
    (hattempts : report.attempts = run.records) (hresult : report.result = ending.result)
    (hwaits : waits = run.calls.length - 1 ∨ waits = run.calls.length ∧ 0 < run.calls.length ∧
      rested ∧ (ending.result.reason? = some .timeout ∨ ending.result.reason? = some .cancelled)) :
    report.Logged run.calls.length rested run.log := by
  obtain ⟨before, hbooked, hsame⟩ := hsigned.exists_booked
  constructor
  · rw [hattempts, hresult]
    exact hsigned.ended
  · intro value hvalue
    exact hsigned.answered (hresult ▸ hvalue)
  · intro hnone
    exact hsigned.unanswered (hresult ▸ hnone)
  · rw [hattempts, hsame _ (by simp), hbooked.failures]
  · rw [hsame _ (by simp), hbooked.calls]
  · rw [hsame _ (by simp), hbooked.waits, hresult]
    exact hwaits

end Run.Signed

/-! ## Runs by themselves -/

namespace Solo

variable {σ : Type} {terms : Terms} {link : Link σ} {request : Request} {s : σ} {type : String}
  {payload : Bytes} {event : Event} {first : Entry} {solo next : Solo σ} {stage : Stage}

/-- A run that could make a call and ends instead has made none: the deadline and the token are
looked at again before every later call, but nothing has changed since the wait was over. -/
theorem Follows.calls_eq_nil (hfollows : Follows terms link request s type solo) {run : Run}
    {after : σ} {asked : Request} {ending : Ending} {finishedAt : Moment}
    (hmove : solo.run.Moves terms link solo.now solo.token.fired solo.link run after)
    (hready : solo.run.phase = .working asked .ready)
    (hover : run.phase = .over ending finishedAt) : solo.run.calls = [] := by
  have hfirst {k : Nat} {stage : Stage}
      (hstands : (Timeline.alone terms link request s).Stands request solo.now k stage solo.run)
      (hk : k = 0) : solo.run.calls = [] := by
    cases hstands.phase.symm.trans hready
    rw [hstands.calls, hk]
    rfl
  cases hfollows.course with
  | @going k stage hfired hstands =>
    cases hstands.phase.symm.trans hready
    cases k with
    | zero => exact hfirst hstands rfl
    | succ k =>
      have hearly := hstands.reaches.callStart_lt
      have hnow : solo.now = (Timeline.alone terms link request s).callStart (k + 1) :=
        hstands.allows
      rw [← hnow] at hearly
      cases hmove with
      | cancel _ hcancelled =>
        rw [hfired] at hcancelled
        contradiction
      | expire _ _ hlate =>
        rw [hstands.watch] at hlate
        exact absurd hearly (not_lt.mpr hlate)
      | call => cases hover
      | abandon hphase | fail hphase | receive hphase | overrun hphase | wake hphase =>
        cases hphase.symm.trans hready
  | caught _ hhalts =>
    rcases hhalts.idle with ⟨hk, _⟩ | ⟨hawaits, _⟩
    · exact hfirst hhalts.stands hk
    · cases hawaits with
      | call hphase | rest hphase => cases hphase.symm.trans hready
  | ended hended =>
    have hworking := hmove.isOver_eq_false
    rw [hended.isOver_eq_true] at hworking
    contradiction
  | cut _ _ hrun =>
    have hworking := hmove.isOver_eq_false
    rw [hrun] at hworking
    contradiction

/-- The turn that ends a run signs its log. -/
theorem Turns.signed (hturn : Turns terms link solo next)
    (hfollows : Follows terms link request s type solo)
    (hrun : solo.run.Underway first request stage) :
    (∃ stage, next.run.Underway first request stage) ∨
      ∃ ending, next.run.phase = .over ending next.now ∧
        ∃ waits, next.run.Signed first waits ending ∧
          (waits = next.run.calls.length - 1 ∨ waits = next.run.calls.length ∧
            0 < next.run.calls.length ∧ solo.run.isResting = true ∧
            (ending.result.reason? = some .timeout ∨ ending.result.reason? = some .cancelled)) := by
  cases hturn with
  | @move run after hmove =>
    rcases hmove.signed hrun with hnext | ⟨ending, hover, hcalls, hsigned⟩
    · exact .inl hnext
    · refine .inr ⟨ending, hover, _, hsigned, ?_⟩
      rw [hcalls]
      cases stage with
      | ready =>
        rw [hfollows.calls_eq_nil hmove hrun.phase hover]
        exact .inl rfl
      | calling => exact .inl rfl
      | resting wake =>
        have hpositive := List.length_pos_iff.mpr (hrun.begun.resolve_left nofun)
        have hresting := Run.isResting_eq_true_iff.mpr ⟨_, _, hrun.phase⟩
        exact .inr ⟨rfl, hpositive, hresting, hmove.reason_of_resting hrun.phase hover⟩
  | still => exact .inl ⟨stage, hrun⟩
  | fire => exact .inl ⟨stage, hrun⟩
  | tick => exact .inl ⟨stage, hrun⟩

/-- A run that has come to its end has taken its last step before. -/
theorem exists_last_step {count : Nat} (hworking : solo.run.isOver = false)
    (hover : (solo.after terms link count).run.isOver = true) :
    ∃ j < count, (solo.after terms link j).run.isOver = false ∧
      solo.after terms link (j + 1) = solo.after terms link count := by
  induction count with
  | zero =>
    have hover : solo.run.isOver = true := hover
    rw [hworking] at hover
    contradiction
  | succ count ih =>
    cases hbefore : (solo.after terms link count).run.isOver with
    | false => exact ⟨count, Nat.lt_succ_self count, hbefore, rfl⟩
    | true =>
      obtain ⟨j, hj, hstill, hlast⟩ := ih hbefore
      refine ⟨j, Nat.lt_succ_of_lt hj, hstill, ?_⟩
      rw [hlast, after_succ, step_of_isOver hbefore]

theorem underway_startWith (hevent : Event.decode payload = .ok event) (terms : Terms)
    (token : Token) (s : σ) : (startWith terms payload token s).run.Underway
      (.runStarted event.type (event.id.getD "")) (Request.ofEvent terms.target event) .ready := by
  rw [startWith, start_eq hevent terms 0]
  exact ⟨rfl, ⟨rfl, rfl, rfl, rfl, rfl, rfl, rfl⟩, .inl rfl⟩

theorem signed_startWith_of_error {defect : Event.Defect}
    (hdefect : Event.decode payload = .error defect) (terms : Terms) (token : Token) (s : σ) :
    (startWith terms payload token s).run.Signed (.payloadRejected defect.problem.message) 0
      (.fatal defect.problem.message) := by
  have hbooked : Booked (.payloadRejected defect.problem.message)
      [.payloadRejected defect.problem.message] 0 [] 0 :=
    ⟨rfl, rfl, rfl, rfl, rfl, rfl, rfl⟩
  rw [startWith, start_eq_of_error hdefect terms 0]
  exact .failed rfl hbooked rfl

theorem underway_after (hevent : Event.decode payload = .ok event) (terms : Terms) (link : Link σ)
    (token : Token) (s : σ) {count : Nat}
    (hworking : ((startWith terms payload token s).after terms link count).run.isOver = false) :
    ∃ stage, ((startWith terms payload token s).after terms link count).run.Underway
      (.runStarted event.type (event.id.getD "")) (Request.ofEvent terms.target event) stage := by
  induction count with
  | zero => exact ⟨.ready, underway_startWith hevent terms token s⟩
  | succ count ih =>
    rw [after_succ] at hworking ⊢
    have hbefore : ((startWith terms payload token s).after terms link count).run.isOver =
        false := by
      by_contra hover
      rw [step_of_isOver (by simpa using hover)] at hworking
      exact hover hworking
    obtain ⟨stage, hrun⟩ := ih hbefore
    have hfollows := follows_after hevent terms link token s count
    rcases (step_turns terms link _).signed hfollows hrun with hnext | ⟨ending, hphase, _⟩
    · exact hnext
    · rw [Run.isOver_eq_true_iff.mpr ⟨_, _, hphase⟩] at hworking
      contradiction

/-- Whatever the link, the strategy, the time limit and the cancellation: the log of a run agrees
with its report and its calls.  It begins with the start of the run just when the payload is an
event, and one more wait than there are further calls is told of only if the run was under way in a
wait before the step that ended it. -/
theorem log_tells_report (terms : Terms) (link : Link σ) (payload : Bytes) (token : Token) (s : σ)
    (fuel : Nat) (last : Solo σ) (id : RunId) (clock : Moment → Timestamp) (report : Report)
    (hlast : (startWith terms payload token s).finish? terms link fuel = some last)
    (hreport : last.run.report? id clock = some report) :
    let path (count : Nat) := (startWith terms payload token s).after terms link count
    (∀ defect, Event.decode payload = .error defect →
        last.run.log.head?.map Entry.message = some "rejecting payload" ∧
          report.Logged last.run.calls.length False last.run.log) ∧
      ∀ event, Event.decode payload = .ok event →
        last.run.log.head?.map Entry.message = some "run started" ∧
          ∃ j < fuel, (path j).run.isOver = false ∧ path (j + 1) = last ∧
            report.Logged last.run.calls.length ((path j).run.isResting = true) last.run.log := by
  intro path
  obtain ⟨hpath, hover⟩ := finish?_eq_some_iff.mp hlast
  refine ⟨fun defect hdefect ↦ ?_, fun event hevent ↦ ?_⟩
  · have hstart : last = startWith terms payload token s :=
      hpath.symm.trans (after_of_isOver (isOver_of_defect hdefect) fuel)
    have hsigned := signed_startWith_of_error hdefect terms token s
    rw [← hstart] at hsigned
    obtain ⟨_, hcalls, hfatal⟩ := report_of_defect hdefect hlast
    cases (hfatal id clock).symm.trans hreport
    have hrecords : last.run.records = [] := by
      rw [hstart, startWith, start_eq_of_error hdefect terms 0]
    refine ⟨by rw [hsigned.head?_eq]; rfl, hsigned.logged hrecords.symm rfl ?_⟩
    rw [hcalls]
    exact .inl rfl
  · have hworking : (startWith terms payload token s).run.isOver = false := by
      rw [startWith, start_eq hevent terms 0]
      rfl
    obtain ⟨j, hj, hbefore, hend⟩ := exists_last_step hworking (hpath ▸ hover)
    obtain ⟨stage, hrun⟩ := underway_after hevent terms link token s hbefore
    have hfollows := follows_after hevent terms link token s j
    have hturn := step_turns terms link (path j)
    rw [← after_succ, hend, hpath] at hturn
    rcases hturn.signed hfollows hrun with ⟨stage, hnext⟩ | ⟨ending, hphase, waits, hsigned, hwaits⟩
    · rw [Run.isOver, hnext.phase] at hover
      contradiction
    · rw [Run.report?, hphase] at hreport
      cases hreport
      refine ⟨by rw [hsigned.head?_eq]; rfl, j, hj, hbefore, hend.trans hpath, ?_⟩
      exact hsigned.logged rfl rfl hwaits

/-- A run that is cancelled in the wait after its first call. -/
theorem log_tells_report_waiting :
    let terms := insistent (Span.ofSeconds 30) (Span.ofMillis 5)
    let token : Token := ⟨some (Span.ofMillis 2), false⟩
    ∃ event last report, Event.decode "{}".toUTF8.toList = .ok event ∧
      (startWith terms "{}".toUTF8.toList token false).finish? terms secondTime 20 = some last ∧
      last.run.report? ⟨Ulid.ofNat 7⟩ (fun _ ↦ ⟨0, 0⟩) = some report ∧
      report.result = .failed .cancelled "run cancelled" ∧
      (entriesOf "calling link proxy" last.run.log).length = 1 ∧
      (entriesOf "backing off" last.run.log).length = 1 ∧
      (entriesOf "attempt failed" last.run.log).map Entry.fields =
        (Record.failures report.attempts).map Record.failureFields ∧
      ∃ j < 20,
        ((startWith terms "{}".toUTF8.toList token false).after terms secondTime j).run.isResting =
            true ∧
          (startWith terms "{}".toUTF8.toList token false).after terms secondTime (j + 1) =
            last := by
  intro terms token
  obtain ⟨event, hevent⟩ := exists_decode_braces
  have hany : ((startWith terms "{}".toUTF8.toList token false).finish? terms secondTime 20).any
      (fun last ↦ (last.run.report? ⟨Ulid.ofNat 7⟩ (fun _ ↦ ⟨0, 0⟩)).any fun report ↦
        decide (report.result = .failed .cancelled "run cancelled" ∧ last.run.calls.length = 1 ∧
          (entriesOf "backing off" last.run.log).length = 1)) = true := by
    decide +kernel
  obtain ⟨last, hlast, hany⟩ := (Option.any_eq_true _ _).mp hany
  obtain ⟨report, hreport, hshape⟩ := (Option.any_eq_true _ _).mp hany
  obtain ⟨hresult, hcalls, hwaits⟩ := of_decide_eq_true hshape
  obtain ⟨_, hlog⟩ := log_tells_report terms secondTime _ token false 20 last _ _ report hlast
    hreport
  obtain ⟨_, j, hj, _, hend, hlogged⟩ := hlog event hevent
  have hwaited := hlogged.waited
  rw [hwaits, hcalls] at hwaited
  obtain ⟨_, _, hresting, _⟩ := hwaited.resolve_left (by decide)
  exact ⟨event, last, report, hevent, hlast, hreport, hresult, hlogged.called.trans hcalls, hwaits,
    hlogged.failures, j, hj, hresting, hend⟩

end Solo

end Courier
