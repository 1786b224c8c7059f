import Courier.Proofs.Pool.Finish
import Courier.Proofs.Pool.Timely
import Courier.Proofs.Run.Alone

/-!
# Clearing the inbox

What has been in the inbox of a pool was started by a worker, was cleared out, or is still there.  A
payload that is cleared out is reported without an attempt: as cancelled if it is an event, and as
what it is found to be otherwise.  Once shutdown has been requested nothing is started any more but
by workers that were waiting for a payload at that moment, one each at most.
-/

namespace Courier

/-- Whether the worker waits for a payload. -/
def Worker.isListening : Worker → Bool
  | .listening => true
  | _ => false

namespace Pool

variable {σ : Type} {setup : Setup σ} {pool next last stopped : Pool σ} {s : σ} {n : Nat}
  {actions before after : List Action} {ticket : Ticket}

/-! ## Reports of a payload -/

/-- The reports under an identifier. -/
def reportsOf (pool : Pool σ) (id : RunId) : List Report :=
  pool.reports.filter fun report ↦ decide (report.runId = id)

theorem length_reportsOf (pool : Pool σ) (id : RunId) :
    (pool.reportsOf id).length = pool.reported.count id := by
  rw [reportsOf, reported, List.count, List.countP_map, List.countP_eq_length_filter]
  rfl

/-- All submissions apart, an identifier is in no more than one place. -/
theorem count_places_le (h : perform setup actions (start n s) = some pool)
    (hdistinct : (submitted actions).Nodup) (id : RunId) :
    pool.reported.count id + pool.running.count id + pool.queued.count id +
      pool.refused.count id + pool.inLine.count id ≤ 1 := by
  have hplaces := perform_balanced h id
  have hcount := count_submitted h id
  have honce := List.nodup_iff_count_le_one.mp hdistinct id
  omega

/-- All submissions apart, a report is the only one of its payload. -/
theorem reportsOf_eq (h : perform setup actions (start n s) = some pool)
    (hdistinct : (submitted actions).Nodup) {report : Report} (hreport : report ∈ pool.reports)
    {id : RunId} (hid : report.runId = id) : pool.reportsOf id = [report] := by
  have hmem : report ∈ pool.reportsOf id :=
    List.mem_filter.mpr ⟨hreport, decide_eq_true hid⟩
  have hlength : (pool.reportsOf id).length ≤ 1 := by
    have hplaces := count_places_le h hdistinct id
    rw [length_reportsOf]
    omega
  obtain ⟨only, honly⟩ : ∃ only, pool.reportsOf id = [only] :=
    List.length_eq_one_iff.mp (le_antisymm hlength (List.length_pos_of_mem hmem))
  rw [honly] at hmem ⊢
  rw [List.mem_singleton.mp hmem]

/-- The report of a payload that is cleared out at a moment. -/
def cleared (setup : Setup σ) (ticket : Ticket) (now : Moment) : Report :=
  match Event.decode ticket.payload with
  | .ok event => ⟨ticket.runId, some event.type, .failed .cancelled "run cancelled", [],
      setup.clock now, setup.clock now⟩
  | .error defect => ⟨ticket.runId, none, .failed .fatal defect.problem.message, [],
      setup.clock now, setup.clock now⟩

/-- Only an event gets as far as the cancellation. -/
theorem report?_turnedAway (setup : Setup σ) (pool : Pool σ) (ticket : Ticket) :
    (pool.turnedAway setup ticket).report? ticket.runId setup.clock =
      some (cleared setup ticket pool.now) := by
  unfold turnedAway cleared
  cases hevent : Event.decode ticket.payload with
  | ok event => simp [Solo.start_eq hevent, Run.isOver, Run.finish, Run.report?, Ending.result,
      Watch.start]
  | error defect => simp [Solo.start_eq_of_error hevent, Run.isOver, Run.report?, Ending.result,
      Watch.start]

theorem runId_cleared (setup : Setup σ) (ticket : Ticket) (now : Moment) :
    (cleared setup ticket now).runId = ticket.runId := by
  unfold cleared
  split <;> rfl

/-! ## What becomes of the inbox -/

/-- What has been in the inbox was started, was cleared out or is still there. -/
theorem perform_inbox (h : perform setup actions pool = some last) :
    (pool.inbox ++ entered setup actions pool).Perm
      (started setup actions pool ++ discarded setup actions pool ++ last.inbox) := by
  induction actions generalizing pool with
  | nil =>
    cases h
    exact List.Perm.of_eq (List.append_nil _)
  | cons action rest ih =>
    obtain ⟨next, hact, hrest⟩ := Option.bind_eq_some_iff.mp h
    have hfirst := (act_acts hact).entering_eq
    have hlater := ih hrest
    rw [entered, started, discarded, seen_cons _ rest hact, seen_cons _ rest hact,
      seen_cons _ rest hact]
    refine List.perm_iff_count.mpr fun ticket ↦ ?_
    have hfirst := congrArg (List.count ticket) hfirst
    have hlater := hlater.count_eq ticket
    simp only [entered, started, discarded, List.count_append] at hfirst hlater ⊢
    omega

/-- A payload that was cleared out has its report. -/
theorem exists_cleared (h : perform setup actions pool = some last)
    (hticket : ticket ∈ discarded setup actions pool) :
    ∃ now, cleared setup ticket now ∈ last.reports := by
  induction actions generalizing pool with
  | nil => contradiction
  | cons action rest ih =>
    obtain ⟨next, hact, hrest⟩ := Option.bind_eq_some_iff.mp h
    rw [discarded, seen_cons _ rest hact] at hticket
    rcases List.mem_append.mp hticket with hticket | hticket
    · cases act_acts hact with
      | move hmove =>
        cases hmove with
        | @discard index first others hworker hinbox =>
          have hfirst : ticket = first := by simpa [discarding, hinbox] using hticket
          subst hfirst
          refine ⟨pool.now, perform_reports_subset hrest (List.mem_append_right _ ?_)⟩
          rw [report?_turnedAway]
          exact List.mem_singleton_self _
        | _ => contradiction
      | _ => contradiction
    · exact ih hrest hticket

/-- Whatever has been in the inbox from some point on and was not started has been cleared out once
it has left. -/
theorem exists_reportsOf_cleared {more : List Action}
    (hperform : perform setup actions (start n s) = some last)
    (hdistinct : (submitted actions).Nodup) (hmore : perform setup more pool = some last)
    (hticket : ticket ∈ pool.inbox ++ entered setup more pool)
    (hidle : ticket ∉ started setup more pool) (hleft : ticket ∉ last.inbox) :
    ∃ now, last.reportsOf ticket.runId = [cleared setup ticket now] := by
  have hdiscarded : ticket ∈ discarded setup more pool := by
    rcases List.mem_append.mp ((perform_inbox hmore).subset hticket) with hgone | hstays
    · exact (List.mem_append.mp hgone).resolve_left hidle
    · exact absurd hstays hleft
  obtain ⟨now, hreport⟩ := exists_cleared hmore hdiscarded
  exact ⟨now, reportsOf_eq hperform hdistinct hreport (runId_cleared setup ticket now)⟩

/-! ## After a request for shutdown -/

theorem Acts.stopping {action : Action} (hact : Acts setup pool action next)
    (hstopping : pool.stopping = true) : next.stopping = true := by
  cases hact with
  | move hmove => cases hmove <;> exact hstopping
  | order horder => cases horder <;> first | exact hstopping | rfl
  | pass hlater => exact hstopping

/-- A worker that changes leaves the number of others that listen as it is. -/
theorem listening_setWorker {index : Nat} {worker : Worker}
    (hworker : pool.workers[index]? = some worker) (other : Worker) :
    (pool.setWorker index other).workers.countP Worker.isListening + worker.isListening.toNat =
      pool.workers.countP Worker.isListening + other.isListening.toNat := by
  obtain ⟨hindex, rfl⟩ := List.getElem?_eq_some_iff.mp hworker
  have hold := (List.getElem_cons_eraseIdx_perm hindex).countP_eq Worker.isListening
  have hnew := (List.set_perm_cons_eraseIdx hindex other).countP_eq Worker.isListening
  have htoNat (worker : Worker) :
      worker.isListening.toNat = if worker.isListening = true then 1 else 0 := by
    cases worker.isListening <;> rfl
  rw [List.countP_cons] at hold hnew
  change (pool.workers.set index other).countP Worker.isListening + _ = _
  rw [htoNat, htoNat]
  omega

/-- A payload that is started takes a listening worker away, and none is added. -/
theorem Acts.starting_le {action : Action} (hact : Acts setup pool action next)
    (hstopping : pool.stopping = true) :
    (starting pool action next).length + next.workers.countP Worker.isListening ≤
      pool.workers.countP Worker.isListening := by
  have hkept {index : Nat} {worker other : Worker} (hworker : pool.workers[index]? = some worker)
      (hother : other.isListening = false) :
      0 + (pool.setWorker index other).workers.countP Worker.isListening ≤
        pool.workers.countP Worker.isListening := by
    have hcount := listening_setWorker hworker other
    rw [hother, Bool.toNat_false] at hcount
    omega
  cases hact with
  | move hmove =>
    cases hmove with
    | look hworker =>
      rw [hstopping]
      exact hkept hworker rfl
    | @take index ticket rest hworker hinbox =>
      have hworker' : (pool.withoutFirst rest).workers[index]? = some .listening := hworker
      have hcount := listening_setWorker hworker'
        (.busy ticket (Run.start setup.terms ticket.payload pool.now))
      rw [starting_take hworker]
      exact (Nat.add_comm _ _).le.trans hcount.le
    | stop hworker hsignal => exact hkept hworker rfl
    | hangUp hworker hinbox hquiet => exact hkept hworker rfl
    | work hworker hstep => exact hkept hworker rfl
    | report hworker hover => exact hkept hworker rfl
    | close hworker => exact hkept hworker rfl
    | exit hworker hinbox => exact hkept hworker rfl
    | _ => exact (Nat.zero_add _).le
  | order horder => cases horder <;> exact (Nat.zero_add _).le
  | pass hlater => exact (Nat.zero_add _).le

/-- Once shutdown has been requested, only workers that listened then start a payload, and each of
them no more than one. -/
theorem length_started_le (h : perform setup actions pool = some last)
    (hstopping : pool.stopping = true) :
    (started setup actions pool).length + last.workers.countP Worker.isListening ≤
      pool.workers.countP Worker.isListening := by
  induction actions generalizing pool with
  | nil =>
    cases h
    exact (Nat.zero_add _).le
  | cons action rest ih =>
    obtain ⟨next, hact, hrest⟩ := Option.bind_eq_some_iff.mp h
    have hfirst := (act_acts hact).starting_le hstopping
    have hlater := ih hrest ((act_acts hact).stopping hstopping)
    rw [started, seen_cons _ rest hact, List.length_append]
    rw [started] at hlater
    omega

/-- At rest no worker listens while a payload is queued, nor when it is told to stop. -/
theorem Quiet.isListening_eq_false (hquiet : pool.Quiet setup)
    (hbusy : pool.inbox ≠ [] ∨ pool.signalled = true) {worker : Worker}
    (hworker : worker ∈ pool.workers) : worker.isListening = false := by
  rcases hquiet.worker_cases hworker with hrunning | rfl | ⟨_, hempty, hsignal⟩
  · cases worker with
    | listening => contradiction
    | _ => rfl
  · rfl
  · rcases hbusy with hinbox | hstop
    · exact absurd hempty hinbox
    · rw [hsignal] at hstop
      contradiction

theorem Quiet.listening_eq_zero (hquiet : pool.Quiet setup)
    (hbusy : pool.inbox ≠ [] ∨ pool.signalled = true) :
    pool.workers.countP Worker.isListening = 0 :=
  List.countP_eq_zero.mpr fun _ hworker ↦ by simp [hquiet.isListening_eq_false hbusy hworker]

theorem signalled_of_stopping (hstopping : pool.stopping = true) : pool.signalled = true := by
  rw [signalled, hstopping, Bool.true_or]

/-- Once shutdown has been requested, the workers of a pool at rest have a run in progress or have
left. -/
theorem Quiet.eq_gone (hquiet : pool.Quiet setup) (hstopping : pool.stopping = true)
    {worker : Worker} (hworker : worker ∈ pool.workers) (hidle : worker.isRunning = false) :
    worker = .gone := by
  rcases hquiet.worker_cases hworker with hrunning | hgone | ⟨_, _, hsignal⟩
  · rw [hidle] at hrunning
    contradiction
  · exact hgone
  · rw [signalled_of_stopping hstopping] at hsignal
    contradiction

/-! ## Histories with a shutdown -/

/-- Shutdown is requested in the course of a history, whose submissions are all different. -/
structure Shutdown (setup : Setup σ) (n : Nat) (s : σ) (before after : List Action)
    (pool stopped last : Pool σ) : Prop where
  performed : perform setup before (start n s) = some pool
  requested : pool.outer .requestShutdown = some stopped
  continued : perform setup after stopped = some last
  distinct : (submitted (before ++ after)).Nodup

section Shutdown

variable (h : Shutdown setup n s before after pool stopped last)
include h

theorem Shutdown.stopped_eq : stopped = { pool with stopping := true } := by
  cases outer_orders h.requested with
  | requestShutdown hheld => rfl

theorem Shutdown.whole :
    perform setup (before ++ .outer .requestShutdown :: after) (start n s) = some last ∧
      (submitted (before ++ .outer .requestShutdown :: after)).Nodup := by
  have hsame : submitted (before ++ .outer .requestShutdown :: after) =
      submitted (before ++ after) := by
    simp [submitted, Action.submission?]
  rw [hsame]
  exact ⟨perform_through h.performed h.requested h.continued, h.distinct⟩

theorem Shutdown.length_started_le : (started setup after stopped).length ≤
    pool.workers.countP Worker.isListening := by
  have hworkers : pool.workers = stopped.workers := by rw [h.stopped_eq]
  have hcount := Pool.length_started_le h.continued (by rw [h.stopped_eq])
  rw [hworkers]
  exact Nat.le_of_add_right_le hcount

/-- Whatever has been in the inbox since shutdown was requested and was not started has been cleared
out once it has left. -/
theorem Shutdown.exists_reportsOf (hticket : ticket ∈ pool.inbox ++ entered setup after stopped)
    (hidle : ticket ∉ started setup after stopped) (hleft : ticket ∉ last.inbox) :
    ∃ now, last.reportsOf ticket.runId = [cleared setup ticket now] := by
  have hinbox : pool.inbox = stopped.inbox := by rw [h.stopped_eq]
  rw [hinbox] at hticket
  exact exists_reportsOf_cleared h.whole.1 h.whole.2 h.continued hticket hidle hleft

end Shutdown

/-- A payload that is queued when shutdown is requested either is started by a worker that was
waiting for one at that moment, or has one report when the workers have left.  The report lists no
attempt, and it says that an event was cancelled, but of any other payload why it is no event.  No
more payloads are started than workers were waiting, and none if nothing could happen then before
the clock moved. -/
theorem queued_payloads_are_turned_away (setup : Setup σ) (n : Nat) (s : σ)
    (before after : List Action) (pool stopped last : Pool σ)
    (hshutdown : Shutdown setup n s before after pool stopped last)
    (hfinished : last.isFinished = true) :
    (∀ ticket ∈ pool.inbox, ticket ∉ started setup after stopped →
      ∃ report, last.reportsOf ticket.runId = [report] ∧ report.attempts = [] ∧
        match Event.decode ticket.payload with
        | .ok event => report.eventType = some event.type ∧
            report.result = .failed .cancelled "run cancelled"
        | .error defect => report.eventType = none ∧
            report.result = .failed .fatal defect.problem.message) ∧
      (started setup after stopped).length ≤ pool.workers.countP Worker.isListening ∧
      (pool.Quiet setup → pool.inbox ≠ [] → started setup after stopped = []) := by
  have hcount := hshutdown.length_started_le
  refine ⟨fun ticket hticket hidle ↦ ?_, hcount, fun hquiet hinbox ↦ ?_⟩
  · have horderly := perform_orderly hshutdown.whole.1
    have hempty : last.inbox = [] := horderly.empty (horderly.gone_mem hfinished)
    obtain ⟨now, hreports⟩ :=
      hshutdown.exists_reportsOf (List.mem_append_left _ hticket) hidle (by simp [hempty])
    refine ⟨cleared setup ticket now, hreports, ?_⟩
    unfold cleared
    cases Event.decode ticket.payload with
    | ok event => exact ⟨rfl, rfl, rfl⟩
    | error defect => exact ⟨rfl, rfl, rfl⟩
  · rw [hquiet.listening_eq_zero (.inl hinbox)] at hcount
    exact List.length_eq_zero_iff.mp (Nat.le_zero.mp hcount)

/-- The only worker runs an event; another one and something that is no event are queued. -/
def mixedQueue : List Action :=
  let submit (k : Nat) (text : String) : Action :=
    .outer (.submit ⟨⟨Ulid.ofNat k⟩, text.toUTF8.toList⟩)
  let worker (move : Move) : Action := .inner (.worker 0 move)
  [submit 1 "{}", submit 2 "{}", submit 3 "x", worker .look, worker .take, worker .work]

/-- The run ends after ten seconds, and the inbox is cleared. -/
def clearance : List Action :=
  let worker (move : Move) : Action := .inner (.worker 0 move)
  [.pass (Span.ofSeconds 10), worker .work, worker .report, worker .look, worker .close,
    worker .discard, worker .discard, worker .exit]

theorem exists_shutdown {holds : Pool σ → Pool σ → Pool σ → Bool}
    (hdistinct : (submitted (before ++ after)).Nodup)
    (hany : ((perform setup before (start n s)).any fun pool ↦ (pool.outer .requestShutdown).any
      fun stopped ↦ (perform setup after stopped).any (holds pool stopped)) = true) :
    ∃ pool stopped last, Shutdown setup n s before after pool stopped last ∧
      holds pool stopped last = true := by
  obtain ⟨pool, hpool, hany⟩ := (Option.any_eq_true _ _).mp hany
  obtain ⟨stopped, hstopped, hany⟩ := (Option.any_eq_true _ _).mp hany
  obtain ⟨last, hlast, hholds⟩ := (Option.any_eq_true _ _).mp hany
  exact ⟨pool, stopped, last, ⟨hpool, hstopped, hlast, hdistinct⟩, hholds⟩

theorem queued_payloads_are_turned_away_mixed : ∃ pool stopped last : Pool Unit,
    Shutdown slowSetup 1 () mixedQueue clearance pool stopped last ∧ last.isFinished = true ∧
      pool.Quiet slowSetup ∧ started slowSetup clearance stopped = [] ∧
      pool.inbox.map Ticket.runId = [⟨Ulid.ofNat 2⟩, ⟨Ulid.ofNat 3⟩] ∧
      ∀ ticket ∈ pool.inbox, ∃ report, last.reportsOf ticket.runId = [report] ∧
        report.attempts = [] := by
  have hexists : ∃ pool stopped last,
      Shutdown slowSetup 1 () mixedQueue clearance pool stopped last ∧
      decide (pool.Quiet slowSetup ∧ last.isFinished = true ∧
        pool.inbox.map Ticket.runId = [⟨Ulid.ofNat 2⟩, ⟨Ulid.ofNat 3⟩]) = true :=
    exists_shutdown (by decide +kernel) (by decide +kernel)
  obtain ⟨pool, stopped, last, hshutdown, hholds⟩ := hexists
  obtain ⟨hquiet, hfinished, hinbox⟩ := of_decide_eq_true hholds
  obtain ⟨hcleared, _, hnone⟩ := queued_payloads_are_turned_away slowSetup 1 () mixedQueue
    clearance pool stopped last hshutdown hfinished
  have hstarted : started slowSetup clearance stopped = [] := by
    refine hnone hquiet fun hempty ↦ ?_
    rw [hempty] at hinbox
    contradiction
  refine ⟨pool, stopped, last, hshutdown, hfinished, hquiet, hstarted, hinbox, ?_⟩
  intro ticket hticket
  obtain ⟨report, hreport, hattempts, _⟩ := hcleared ticket hticket (by simp [hstarted])
  exact ⟨report, hreport, hattempts⟩

/-- What is no event is not reported as cancelled. -/
theorem queued_text_is_reported_fatal : ∃ pool stopped last : Pool Unit,
    Shutdown slowSetup 1 () mixedQueue clearance pool stopped last ∧ last.isFinished = true ∧
      pool.inbox.map Ticket.runId = [⟨Ulid.ofNat 2⟩, ⟨Ulid.ofNat 3⟩] ∧
      (last.reportsOf ⟨Ulid.ofNat 3⟩).map Report.result =
        [.failed .fatal "malformed payload: expected value at line 1 column 1"] := by
  have hexists : ∃ pool stopped last,
      Shutdown slowSetup 1 () mixedQueue clearance pool stopped last ∧
      decide (last.isFinished = true ∧
        pool.inbox.map Ticket.runId = [⟨Ulid.ofNat 2⟩, ⟨Ulid.ofNat 3⟩] ∧
        (last.reportsOf ⟨Ulid.ofNat 3⟩).map Report.result =
          [.failed .fatal "malformed payload: expected value at line 1 column 1"]) = true :=
    exists_shutdown (by decide +kernel) (by decide +kernel)
  obtain ⟨pool, stopped, last, hshutdown, hholds⟩ := hexists
  exact ⟨pool, stopped, last, hshutdown, of_decide_eq_true hholds⟩

end Pool

end Courier
