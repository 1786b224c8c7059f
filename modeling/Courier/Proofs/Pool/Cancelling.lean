import Courier.Proofs.Pool.Custody
import Courier.Proofs.Pool.Intake
import Courier.Proofs.Pool.Weights

/-!
# Cancelled pools

Cancellation reaches every payload of a pool, wherever it is.  A run in progress ends at its next
step and keeps its records; a payload that is still to be run is taken as before, and its run ends
before a call.  So nothing calls the link any more, and without the clock the pool comes to rest
with nothing left in its hands.
-/

namespace Courier

variable {σ : Type} {setup : Pool.Setup σ} {pool next last : Pool σ} {moves : List Pool.Inner}
  {s : σ} {n : Nat}

/-- The report of the run of a payload that is cancelled at a moment, unless it is over before. -/
def Ticket.due (setup : Pool.Setup σ) (now : Moment) (ticket : Ticket) (run : Run) :
    Option Report :=
  (if run.isOver then run else run.finish now .cancelled).report? ticket.runId setup.clock

/-- The report of a run in progress that is cancelled at a moment. -/
def Worker.cutShort (setup : Pool.Setup σ) (now : Moment) : Worker → Option Report
  | .busy ticket run => some ⟨ticket.runId, run.eventType, .failed .cancelled "run cancelled",
      run.records, setup.clock run.watch.startedAt, setup.clock now⟩
  | _ => none

namespace Pool

/-- The reports of all payloads of a pool that is cancelled. -/
def owed (setup : Setup σ) (pool : Pool σ) : List Report :=
  pool.holdings setup (Ticket.due setup pool.now)

/-! ## No calls -/

theorem Acts.cancelled {action : Action} (hact : Acts setup pool action next)
    (hcancelled : pool.cancelled = true) : next.cancelled = true := by
  cases hact with
  | move hmove => cases hmove <;> exact hcancelled
  | order horder => cases horder <;> first | exact hcancelled | rfl
  | pass hlater => exact hcancelled

theorem Acts.calling_eq_nil {action : Action} (hact : Acts setup pool action next)
    (hcancelled : pool.cancelled = true) : calling pool action next = [] := by
  cases hact with
  | move hmove =>
    cases hmove with
    | @work index ticket run after t hworker hstep =>
      rw [hcancelled] at hstep
      obtain ⟨rfl, _⟩ := (Run.step_moves hstep).eq_of_cancelled
      obtain ⟨hindex, hbusy⟩ := List.getElem?_eq_some_iff.mp hworker
      simp [calling, callsAt, hindex, hbusy, Pool.setWorker, Worker.calls, Run.finish]
    | _ => rfl
  | _ => rfl

/-- Nothing calls the link once the pool has been cancelled. -/
theorem called_eq_nil {actions : List Action} (h : perform setup actions pool = some last)
    (hcancelled : pool.cancelled = true) : called setup actions pool = [] := by
  induction actions generalizing pool with
  | nil => rfl
  | cons action rest ih =>
    obtain ⟨next, hact, hrest⟩ := Option.bind_eq_some_iff.mp h
    have hacts := act_acts hact
    rw [called, seen_cons _ rest hact, hacts.calling_eq_nil hcancelled, List.nil_append]
    exact ih hrest (hacts.cancelled hcancelled)

/-! ## Settling -/

/-- A step of a cancelled run leaves what is due of it. -/
theorem due_eq_of_step {terms : Terms} {link : Link σ} {now : Moment} {run after : Run} {t : σ}
    (hstep : run.step terms link now true s = some (after, t)) (ticket : Ticket) :
    ticket.due setup now after = ticket.due setup now run := by
  have hmoves := Run.step_moves hstep
  obtain ⟨rfl, _⟩ := hmoves.eq_of_cancelled
  unfold Ticket.due
  rw [hmoves.isOver_eq_false]
  rfl

theorem fresh_due (setup : Setup σ) (pool : Pool σ) (ticket : Ticket) :
    fresh setup (Ticket.due setup pool.now) pool.now ticket =
      some (cleared setup ticket pool.now) :=
  report?_turnedAway setup pool ticket

theorem owed_eq (setup : Setup σ) (pool : Pool σ) : pool.owed setup =
    pool.workers.filterMap (Worker.holding (Ticket.due setup pool.now)) ++
      pool.untaken.map (cleared setup · pool.now) := by
  rw [owed, holdings, funext (fresh_due setup pool), List.filterMap_eq_map']

/-- What a cancelled pool keeps while it settles. -/
structure Settles (setup : Setup σ) (pool next : Pool σ) : Prop where
  goes : next.GoesOn
  cancelled : next.cancelled = true
  now : next.now = pool.now
  workers : next.workers.length = pool.workers.length
  reports : (next.reports ++ next.owed setup).Perm (pool.reports ++ pool.owed setup)
  refused : next.refused = pool.refused
  entries : ∀ id, next.entries id = pool.entries id

theorem settles_self (hgoes : pool.GoesOn) (hcancelled : pool.cancelled = true) :
    Settles setup pool pool :=
  ⟨hgoes, hcancelled, rfl, rfl, List.Perm.refl _, rfl, fun _ ↦ rfl⟩

theorem Settles.trans (hfirst : Settles setup pool next) (hlater : Settles setup next last) :
    Settles setup pool last where
  goes := hlater.goes
  cancelled := hlater.cancelled
  now := hlater.now.trans hfirst.now
  workers := hlater.workers.trans hfirst.workers
  reports := hlater.reports.trans hfirst.reports
  refused := hlater.refused.trans hfirst.refused
  entries id := (hlater.entries id).trans (hfirst.entries id)

theorem Moves.refused_eq {action : Inner} (hmove : Moves setup pool action next)
    (hgoes : pool.GoesOn) : next.refused = pool.refused := by
  cases hmove with
  | refuse hsender hclosed =>
    exact absurd (hgoes.spent_of_closed hclosed) (not_spent_of_sender hsender)
  | _ => rfl

/-- A payload is reported as it was due. -/
theorem Moves.reports_perm {action : Inner} (hmove : Moves setup pool action next)
    (hgoes : pool.GoesOn) (hcancelled : pool.cancelled = true) :
    (next.reports ++ next.owed setup).Perm (pool.reports ++ pool.owed setup) := by
  have hhandles : Handles setup (Ticket.due setup pool.now) pool next := by
    refine hmove.handles hgoes fun ticket run after t _ hstep ↦ ?_
    rw [hcancelled] at hstep
    exact due_eq_of_step hstep ticket
  unfold owed
  rw [hmove.now_eq]
  cases hhandles with
  | keeps hreports hperm =>
    rw [hreports]
    exact hperm.append_left _
  | @reports ticket run hworker hover hreports hperm =>
    have hdue : ticket.due setup pool.now run = run.report? ticket.runId setup.clock := by
      rw [Ticket.due, if_pos hover]
    rw [hdue] at hperm
    rw [hreports, List.append_assoc]
    exact hperm.append_left _

theorem Moves.settles {action : Inner} (hmove : Moves setup pool action next)
    (hgoes : pool.GoesOn) (hcancelled : pool.cancelled = true) : Settles setup pool next where
  goes := hmove.goesOn hgoes
  cancelled := (Acts.move hmove).cancelled hcancelled
  now := hmove.now_eq
  workers := (Acts.move hmove).length_workers
  reports := hmove.reports_perm hgoes hcancelled
  refused := hmove.refused_eq hgoes
  entries := hmove.entries_eq

/-- The work of a cancelled run: the step that ends it. -/
def stepsToEnd (_ : Ticket) (run : Run) : Nat := if run.isOver then 0 else 1

theorem stepsToEnd_le (ticket : Ticket) (run : Run) : stepsToEnd ticket run ≤ 1 := by
  unfold stepsToEnd
  split <;> decide

theorem Moves.toil_lt {action : Inner} (hmove : Moves setup pool action next)
    (hcancelled : pool.cancelled = true) : next.toil stepsToEnd 1 < pool.toil stepsToEnd 1 := by
  refine (hmove.eases fun index ticket run after t _ hstep ↦ ?_).toil_lt
    fun ticket _ ↦ stepsToEnd_le ticket _
  rw [hcancelled] at hstep
  have hmoves := Run.step_moves hstep
  obtain ⟨rfl, _⟩ := hmoves.eq_of_cancelled
  unfold stepsToEnd
  rw [hmoves.isOver_eq_false]
  exact Nat.zero_lt_one

/-- However a cancelled pool settles, it does so in a bounded number of moves. -/
theorem settles_of_perform (h : perform setup (moves.map .inner) pool = some last)
    (hgoes : pool.GoesOn) (hcancelled : pool.cancelled = true) :
    Settles setup pool last ∧ moves.length + last.toil stepsToEnd 1 ≤ pool.toil stepsToEnd 1 := by
  induction moves generalizing pool with
  | nil =>
    cases h
    exact ⟨settles_self hgoes hcancelled, (Nat.zero_add _).le⟩
  | cons action rest ih =>
    obtain ⟨next, hact, hrest⟩ := Option.bind_eq_some_iff.mp h
    have hmove := inner_moves hact
    have hfirst := hmove.settles hgoes hcancelled
    have hless := hmove.toil_lt hcancelled
    obtain ⟨hlater, hbound⟩ := ih hrest hfirst.goes hfirst.cancelled
    refine ⟨hfirst.trans hlater, ?_⟩
    rw [List.length_cons]
    omega

/-! ## At rest -/

/-- Each run of a cancelled pool can move, so that there is none at rest. -/
theorem Quiet.not_busy (hquiet : pool.Quiet setup) (hcancelled : pool.cancelled = true)
    (ticket : Ticket) (run : Run) : .busy ticket run ∉ pool.workers := by
  intro hbusy
  obtain ⟨index, hworker⟩ := List.mem_iff_getElem?.mp hbusy
  have hwork := hquiet.workerMove_eq_none hworker .work
  simp only [workerMove, Option.map_eq_none_iff] at hwork
  rcases Run.step_eq_none_iff.mp hwork with hover | ⟨huncancelled, _⟩
  · rw [(hquiet.awaits hworker).1.isOver_eq_false] at hover
    contradiction
  · rw [hcancelled] at huncancelled
    contradiction

/-- A cancelled pool at rest has nothing in its hands. -/
theorem GoesOn.emptied (hgoes : pool.GoesOn) (hquiet : pool.Quiet setup)
    (hcancelled : pool.cancelled = true) (hworkers : 0 < pool.workers.length) :
    pool.untaken = [] ∧ pool.owed setup = [] ∧ pool.runsInProgress = 0 := by
  have hbusy := hquiet.not_busy hcancelled
  have hidle : ∀ worker ∈ pool.workers, worker.isRunning = false := by
    intro worker hworker
    cases worker with
    | busy ticket run => exact absurd hworker (hbusy ticket run)
    | _ => rfl
  obtain ⟨worker, hworker⟩ := List.exists_mem_of_length_pos hworkers
  obtain ⟨hinbox, hsenders⟩ := hgoes.idle hquiet hworker (hidle worker hworker)
  have huntaken : pool.untaken = [] := by rw [untaken, hinbox, hsenders, List.map_nil]; rfl
  refine ⟨huntaken, ?_, ?_⟩
  · rw [owed, holdings, filterMap_holding_eq_nil hbusy, huntaken]
    rfl
  · refine List.countP_eq_zero.mpr fun worker hworker ↦ ?_
    rw [hidle worker hworker]
    exact Bool.false_ne_true

/-- At rest all runs are in progress, so that the cancellation cuts all of them short. -/
theorem Quiet.owed_eq (hquiet : pool.Quiet setup) : pool.owed setup =
    pool.workers.filterMap (Worker.cutShort setup pool.now) ++
      pool.untaken.map (cleared setup · pool.now) := by
  rw [Pool.owed_eq, List.append_left_inj]
  refine List.filterMap_congr fun worker hworker ↦ ?_
  obtain ⟨index, hindex⟩ := List.mem_iff_getElem?.mp hworker
  cases worker with
  | busy ticket run =>
    have hworking := (hquiet.awaits hindex).1.isOver_eq_false
    simp only [Worker.holding, Ticket.due, hworking, Bool.false_eq_true, if_false]
    rfl
  | _ => rfl

/-! ## Coming to rest -/

/-- Without the clock a pool comes to rest: however it goes on, after a bounded number of moves, and
then something holds of it. -/
structure ComesToRest (setup : Setup σ) (pool : Pool σ) (holds : Pool σ → Prop) : Prop where
  bounded : ∃ bound : Nat, ∀ (moves : List Inner) (last : Pool σ),
    perform setup (moves.map .inner) pool = some last → moves.length ≤ bound
  reaches : ∃ (moves : List Inner) (rest : Pool σ),
    perform setup (moves.map .inner) pool = some rest ∧ rest.Quiet setup
  holds : ∀ (moves : List Inner) (rest : Pool σ),
    perform setup (moves.map .inner) pool = some rest → rest.Quiet setup → holds rest

/-- A pool whose moves are bounded comes to rest. -/
theorem exists_rest {bound : Nat} (hbound : ∀ (moves : List Inner) (last : Pool σ),
    perform setup (moves.map .inner) pool = some last → moves.length ≤ bound) :
    ∃ (moves : List Inner) (rest : Pool σ),
      perform setup (moves.map .inner) pool = some rest ∧ rest.Quiet setup := by
  -- Each move that is still possible uses up one of the bound.
  induction bound generalizing pool with
  | zero =>
    refine ⟨[], pool, rfl, fun action ↦ ?_⟩
    by_contra hmove
    obtain ⟨next, hmove⟩ := Option.ne_none_iff_exists'.mp hmove
    have hone := hbound [action] next (by
      simp only [List.map_cons, List.map_nil, perform, act, hmove, Option.bind_some])
    exact absurd hone (Nat.not_succ_le_zero _)
  | succ bound ih =>
    by_cases hquiet : pool.Quiet setup
    · exact ⟨[], pool, rfl, hquiet⟩
    · obtain ⟨action, hmove⟩ := not_forall.mp hquiet
      obtain ⟨next, hmove⟩ := Option.ne_none_iff_exists'.mp hmove
      have hfirst (moves : List Inner) :
          perform setup ((action :: moves).map .inner) pool =
            perform setup (moves.map .inner) next := by
        rw [List.map_cons, perform, act, hmove, Option.bind_some]
      obtain ⟨moves, rest, hrest, hquiet⟩ := ih fun moves last hlast ↦
        Nat.le_of_succ_le_succ (hbound (action :: moves) last (by rw [hfirst, hlast]))
      exact ⟨action :: moves, rest, by rw [hfirst, hrest], hquiet⟩

/-- What becomes of a cancelled pool without the clock. -/
structure Emptied (pool rest : Pool σ) (reports : List Report) (accepted : List RunId) : Prop where
  now : rest.now = pool.now
  reports : rest.reports.Perm reports
  accepted : rest.accepted.Perm accepted
  refused : rest.refused = pool.refused
  untaken : rest.untaken = []
  idle : rest.runsInProgress = 0

/-- A cancelled pool comes to rest with a report of each of its payloads. -/
theorem GoesOn.comesToRest (setup : Setup σ) (hgoes : pool.GoesOn)
    (hcancelled : pool.cancelled = true) (hworkers : 0 < pool.workers.length) :
    pool.ComesToRest setup fun rest ↦
      Emptied pool rest (pool.reports ++ pool.owed setup) (pool.accepted ++ pool.inLine) := by
  have hbound (moves : List Inner) (last : Pool σ)
      (hlast : perform setup (moves.map .inner) pool = some last) :
      moves.length ≤ pool.toil stepsToEnd 1 :=
    Nat.le_of_add_right_le (settles_of_perform hlast hgoes hcancelled).2
  refine ⟨⟨_, hbound⟩, exists_rest hbound, fun moves rest hrest hquiet ↦ ?_⟩
  have hsettles := (settles_of_perform hrest hgoes hcancelled).1
  obtain ⟨huntaken, howed, hidle⟩ :=
    hsettles.goes.emptied hquiet hsettles.cancelled (hsettles.workers ▸ hworkers)
  refine ⟨hsettles.now, ?_, ?_, hsettles.refused, huntaken, hidle⟩
  · have hreports := hsettles.reports
    rwa [howed, List.append_nil] at hreports
  · refine List.perm_iff_count.mpr fun id ↦ ?_
    have hentries := hsettles.entries id
    have hline : rest.inLine = [] := by
      rw [inLine, (List.append_eq_nil_iff.mp huntaken).2, List.map_nil]
    simp only [entries, hline, hsettles.refused, List.count_nil] at hentries
    rw [List.count_append]
    omega

/-! ## Submissions to a cancelled pool -/

/-- What a submission adds to a pool that takes it. -/
structure Adds (setup : Setup σ) (ticket : Ticket) (pool next : Pool σ) : Prop where
  now : next.now = pool.now
  workers : next.workers.length = pool.workers.length
  reports : next.reports = pool.reports
  refused : next.refused = pool.refused
  accepted : (next.accepted ++ next.inLine).Perm (pool.accepted ++ pool.inLine ++ [ticket.runId])
  owed : (next.owed setup).Perm (pool.owed setup ++ [cleared setup ticket pool.now])

theorem Orders.owed_perm (setup : Setup σ) {ticket : Ticket}
    (horder : Orders pool (.submit ticket) next) (hgoes : pool.GoesOn) (hunspent : ¬ pool.Spent) :
    (next.owed setup).Perm (pool.owed setup ++ [cleared setup ticket pool.now]) := by
  have huntaken := horder.untaken_perm hgoes hunspent
  have hnow : next.now = pool.now := by cases horder <;> rfl
  have hworkers : next.workers = pool.workers := by cases horder <;> rfl
  rw [owed_eq, owed_eq, hnow, hworkers, List.append_assoc]
  refine ((huntaken.map _).trans ?_).append_left _
  exact (List.perm_append_singleton _ _).symm

theorem Orders.adds {ticket : Ticket} (horder : Orders pool (.submit ticket) next)
    (hgoes : pool.GoesOn) (hunspent : ¬ pool.Spent) : Adds setup ticket pool next := by
  have howed := horder.owed_perm setup hgoes hunspent
  cases horder with
  | turnDown hclosed => exact absurd (hgoes.spent_of_closed hclosed) hunspent
  | accept hopen hroom =>
    refine ⟨rfl, rfl, rfl, rfl, ?_, howed⟩
    rw [List.append_assoc, List.append_assoc]
    exact List.perm_append_comm.append_left _
  | lineUp hopen hroom =>
    refine ⟨rfl, rfl, rfl, rfl, ?_, howed⟩
    rw [List.append_assoc, inLine, inLine, List.map_append, List.map_append]
    exact List.Perm.refl _

/-- A cancelled pool that a payload is submitted to comes to rest with a report of this one too. -/
theorem GoesOn.comesToRest_of_submit {ticket : Ticket} (hgoes : pool.GoesOn)
    (hcancelled : pool.cancelled = true) (hworkers : 0 < pool.workers.length)
    (hsubmit : pool.outer (.submit ticket) = some next) : next.ComesToRest setup fun rest ↦
      Emptied pool rest (pool.reports ++ pool.owed setup ++ [cleared setup ticket pool.now])
        (pool.accepted ++ pool.inLine ++ [ticket.runId]) := by
  have horder := outer_orders hsubmit
  have hunspent := not_spent_of_submitters (submitters_pos_of_submit hsubmit)
  have hadds : Adds setup ticket pool next := horder.adds hgoes hunspent
  have hacts : Acts setup pool (.outer (.submit ticket)) next := .order horder
  obtain ⟨hbounded, hreaches, hholds⟩ := (hgoes.submit hunspent horder).comesToRest setup
    (hacts.cancelled hcancelled) (hadds.workers ▸ hworkers)
  refine ⟨hbounded, hreaches, fun moves rest hrest hquiet ↦ ?_⟩
  have hemptied := hholds moves rest hrest hquiet
  refine ⟨hemptied.now.trans hadds.now, ?_, hemptied.accepted.trans hadds.accepted,
    hemptied.refused.trans hadds.refused, hemptied.untaken, hemptied.idle⟩
  refine hemptied.reports.trans ?_
  rw [hadds.reports, List.append_assoc]
  exact hadds.owed.append_left _

theorem workers_pos_of_perform {actions : List Action}
    (h : perform setup actions (start n s) = some last) : 0 < last.workers.length :=
  perform_length_workers h ▸ workers_start_pos n s

/-- A pool that nobody has stopped is cancelled at rest.  From then on nothing calls the link,
whatever happens.  Without the clock the pool comes to rest, however it goes on: then the runs that
were in progress are reported as cancelled with the records they had, the payloads that were queued
or waited as cancelled without any or, if they cannot be read, as rejected, all waiting submissions
have been accepted and nothing is left.  The same becomes of each payload that is submitted later,
in whatever state of the pool, as long as nobody stops it. -/
theorem cancellation_empties_pool (setup : Setup σ) (n : Nat) (s : σ) (before : List Action)
    (pool : Pool σ) (hperform : perform setup before (start n s) = some pool)
    (hgoes : ∀ action ∈ before, action.stopsPool = false) (hquiet : pool.Quiet setup) :
    ∃ cancelled : Pool σ, pool.outer .cancel = some cancelled ∧
      (∀ (after : List Action) (last : Pool σ), perform setup after cancelled = some last →
        called setup after cancelled = [] ∧ last.link = pool.link) ∧
      (cancelled.ComesToRest setup fun rest ↦ Emptied pool rest
        (pool.reports ++ pool.workers.filterMap (Worker.cutShort setup pool.now) ++
          pool.untaken.map (cleared setup · pool.now))
        (pool.accepted ++ pool.inLine)) ∧
      ∀ (after : List Action) (later next : Pool σ) (ticket : Ticket),
        perform setup after cancelled = some later →
        (∀ action ∈ after, action.stopsPool = false) →
        later.outer (.submit ticket) = some next →
        next.ComesToRest setup fun rest ↦ Emptied later rest
          (later.reports ++ later.owed setup ++ [cleared setup ticket later.now])
          (later.accepted ++ later.inLine ++ [ticket.runId]) := by
  have hpool : pool.GoesOn := (perform_goesOn hperform hgoes (goesOn_start n s)).1
  have hcancel : pool.outer .cancel = some { pool with cancelled := true } := if_pos hpool.held
  have hcancelled : pool.act setup (.outer .cancel) = some { pool with cancelled := true } :=
    hcancel
  have hnext : ({ pool with cancelled := true } : Pool σ).GoesOn := hpool.act hcancelled rfl
  refine ⟨_, hcancel, fun after last hlast ↦ ?_, ?_, fun after later next ticket hlater hstops ↦ ?_⟩
  · have hnone := called_eq_nil hlast rfl
    have hlink := perform_link_eq hlast hnone
    exact ⟨hnone, hlink⟩
  · have howed : ({ pool with cancelled := true } : Pool σ).owed setup = _ := hquiet.owed_eq
    have hworkers := workers_pos_of_perform hperform
    obtain ⟨hbounded, hreaches, hholds⟩ := hnext.comesToRest setup rfl hworkers
    refine ⟨hbounded, hreaches, fun moves rest hrest hresting ↦ ?_⟩
    obtain ⟨hnow, hreports, haccepted, hrefused, huntaken, hidle⟩ :=
      hholds moves rest hrest hresting
    rw [howed, ← List.append_assoc] at hreports
    exact ⟨hnow, hreports, haccepted, hrefused, huntaken, hidle⟩
  · have hwhole := perform_through hperform hcancelled hlater
    have hcancelled : later.cancelled = true :=
      perform_induction (motive := fun pool ↦ pool.cancelled = true)
        (fun _ _ _ hact hflag ↦ hact.cancelled hflag) hlater rfl
    exact (perform_goesOn hlater hstops hnext).1.comesToRest_of_submit hcancelled
      (workers_pos_of_perform hwhole)

/-- In front of a full inbox something that is no event waits behind an event. -/
def overfull : List Action :=
  crowdedHistory ++ [.outer (.submit ⟨⟨Ulid.ofNat 7⟩, "x".toUTF8.toList⟩)]

theorem cancellation_empties_pool_overfull : ∃ pool cancelled : Pool Unit,
    perform slowSetup overfull (start 1 ()) = some pool ∧
      (∀ action ∈ overfull, action.stopsPool = false) ∧ pool.Quiet slowSetup ∧
      pool.outer .cancel = some cancelled ∧
      ∃ (moves : List Inner) (rest : Pool Unit),
        perform slowSetup (moves.map .inner) cancelled = some rest ∧ rest.Quiet slowSetup ∧
        called slowSetup (moves.map .inner) cancelled = [] ∧ rest.now = pool.now ∧
        rest.accepted.Perm ([1, 2, 3, 4, 5, 6, 7].map fun k ↦ ⟨Ulid.ofNat k⟩) ∧
        (rest.reports.map Report.result).Perm
          (List.replicate 6 (.failed .cancelled "run cancelled") ++
            [.failed .fatal "malformed payload: expected value at line 1 column 1"]) := by
  have hany : ((perform slowSetup overfull (start 1 ())).any fun pool ↦
      decide (pool.Quiet slowSetup ∧
        pool.accepted ++ pool.inLine = [1, 2, 3, 4, 5, 6, 7].map (fun k ↦ ⟨Ulid.ofNat k⟩) ∧
        (pool.reports ++ pool.workers.filterMap (Worker.cutShort slowSetup pool.now) ++
          pool.untaken.map (cleared slowSetup · pool.now)).map Report.result =
            List.replicate 6 (.failed .cancelled "run cancelled") ++
              [.failed .fatal "malformed payload: expected value at line 1 column 1"])) = true := by
    decide +kernel
  obtain ⟨pool, hperform, hholds⟩ := (Option.any_eq_true _ _).mp hany
  obtain ⟨hquiet, hids, hresults⟩ := of_decide_eq_true hholds
  have hgoes : ∀ action ∈ overfull, action.stopsPool = false := by
    simp [overfull, crowdedHistory, Action.stopsPool]
  obtain ⟨cancelled, hcancel, hcalls, hrests, _⟩ :=
    cancellation_empties_pool slowSetup 1 () overfull pool hperform hgoes hquiet
  obtain ⟨moves, rest, hrest, hresting⟩ := hrests.reaches
  obtain ⟨hnow, hreports, haccepted, _, _, _⟩ := hrests.holds moves rest hrest hresting
  refine ⟨pool, cancelled, hperform, hgoes, hquiet, hcancel, moves, rest, hrest, hresting,
    (hcalls _ rest hrest).1, hnow, hids ▸ haccepted, ?_⟩
  rw [← hresults]
  exact hreports.map _

end Pool

end Courier
