import Courier.Command.Batch
import Courier.Proofs.Pool.Join
import Courier.Proofs.Pool.Tending

/-!
# Histories of a batch

A history is a list of what a batch did and of how the clock went on meanwhile, which it may do at
any time.  The pool of a batch is never stopped or cancelled, so that it tends the payloads of all
files before the first that cannot be read.  Under a strategy that stops, all histories have
boundedly many actions, and an action is possible until the batch is over.
-/

namespace Courier.Batch

variable {σ : Type}

/-- Something that happens to a batch: it acts, or the clock goes on. -/
inductive Happening where
  | act (action : Action)
  | pass (later : Moment)

def Happening.isAct : Happening → Bool
  | .act _ => true
  | .pass _ => false

/-- The batch at a later moment. -/
def pass (batch : Batch σ) (later : Moment) : Batch σ :=
  { batch with pool := { batch.pool with now := later } }

/-- What something that happens leads to, where it is possible. -/
def happen (setup : Setup σ) (batch : Batch σ) : Happening → Option (Batch σ)
  | .act action => batch.act setup action
  | .pass later => if batch.pool.now ≤ later then some (batch.pass later) else none

/-- The batch after a history. -/
def perform (setup : Setup σ) : List Happening → Batch σ → Option (Batch σ)
  | [], batch => some batch
  | happening :: rest, batch => (batch.happen setup happening).bind (perform setup rest)

/-- The payloads of the files before the first that cannot be read. -/
def readable : List PayloadFile → List Bytes
  | [] => []
  | ⟨_, .ok payload⟩ :: rest => payload :: readable rest
  | ⟨_, .error _⟩ :: _ => []

/-- The first file that cannot be read. -/
def firstFault : List PayloadFile → Option (String × FileFault)
  | [] => none
  | ⟨_, .ok _⟩ :: rest => firstFault rest
  | ⟨path, .error fault⟩ :: _ => some (path, fault)

/-- Payloads with the identifiers of their runs. -/
def tickets (setup : Setup σ) (payloads : List Bytes) : List Ticket :=
  payloads.mapIdx fun k payload ↦ ⟨setup.runId k, payload⟩

theorem firstFault_eq_none_iff (files : List PayloadFile) :
    firstFault files = none ↔ ∀ file ∈ files, ∃ payload, file.content = .ok payload := by
  induction files with
  | nil => exact iff_of_true rfl fun _ hfile ↦ nomatch hfile
  | cons file rest ih =>
    obtain ⟨path, content⟩ := file
    cases content with
    | ok payload =>
      rw [firstFault, ih, List.forall_mem_cons]
      exact (and_iff_right ⟨payload, rfl⟩).symm
    | error fault =>
      refine iff_of_false (nomatch ·) fun hall ↦ ?_
      obtain ⟨payload, hcontent⟩ := hall _ List.mem_cons_self
      contradiction

theorem tickets_append (setup : Setup σ) (payloads : List Bytes) (payload : Bytes) :
    tickets setup (payloads ++ [payload]) =
      tickets setup payloads ++ [⟨setup.runId payloads.length, payload⟩] :=
  List.mapIdx_concat

variable {setup : Setup σ} {files : List PayloadFile} {batch next last : Batch σ}
  {happening : Happening} {history : List Happening}

/-! ## Steps -/

/-- What can happen, a case for each kind.  Apart from reading a file in vain all of it is something
that happens to the pool. -/
inductive Steps (setup : Setup σ) (batch : Batch σ) : Happening → Batch σ → Prop
  | submit {path : String} {payload : Bytes} {rest : List PayloadFile} {pool : Pool σ}
      (hfiles : batch.files = ⟨path, .ok payload⟩ :: rest) (hsenders : batch.pool.senders = [])
      (hpool : batch.pool.outer (.submit ⟨setup.runId batch.submitted, payload⟩) = some pool) :
      Steps setup batch (.act .submit)
        { batch with pool := pool, files := rest, submitted := batch.submitted + 1 }
  | stumble {path : String} {fault : FileFault} {rest : List PayloadFile}
      (hfiles : batch.files = ⟨path, .error fault⟩ :: rest) (hsenders : batch.pool.senders = []) :
      Steps setup batch (.act .submit) { batch with files := [], fault := some (path, fault) }
  | hangUp {pool : Pool σ} (hfiles : batch.files = []) (hsenders : batch.pool.senders = [])
      (hpool : batch.pool.outer .dropSubmitter = some pool) :
      Steps setup batch (.act .hangUp) { batch with pool := pool }
  | pool {action : Pool.Inner} {pool : Pool σ}
      (hpool : batch.pool.inner setup.pool action = some pool) :
      Steps setup batch (.act (.pool action)) { batch with pool := pool }
  | tick {moment : Moment} (hquiet : batch.pool.Quiet setup.pool)
      (hnext : nextMoment batch.pool.alarms = some moment) :
      Steps setup batch (.act .tick) (batch.pass (max batch.pool.now moment))
  | pass {later : Moment} (hlater : batch.pool.now ≤ later) :
      Steps setup batch (.pass later) (batch.pass later)

theorem act_steps {action : Action} (h : batch.act setup action = some next) :
    Steps setup batch (.act action) next := by
  cases action with
  | submit =>
    simp only [act, submit] at h
    split at h
    · contradiction
    · next path content rest hfiles =>
      split at h
      · contradiction
      · next hidle =>
        have hsenders : batch.pool.senders = [] := by simpa using hidle
        split at h
        · cases h
          exact .stumble hfiles hsenders
        · obtain ⟨pool, hpool, hnext⟩ := Option.bind_eq_some_iff.mp h
          cases hnext
          exact .submit hfiles hsenders hpool
  | hangUp =>
    simp only [act, hangUp] at h
    split at h
    · next hready =>
      obtain ⟨hfiles, hsenders⟩ := Bool.and_eq_true_iff.mp hready
      obtain ⟨pool, hpool, rfl⟩ := Option.map_eq_some_iff.mp h
      exact .hangUp (List.isEmpty_iff.mp hfiles) (List.isEmpty_iff.mp hsenders) hpool
    · contradiction
  | pool action =>
    obtain ⟨pool, hpool, rfl⟩ := Option.map_eq_some_iff.mp h
    exact .pool hpool
  | tick =>
    obtain ⟨pool, htick, rfl⟩ := Option.map_eq_some_iff.mp h
    unfold Pool.tick? at htick
    split at htick
    · contradiction
    · next hidle =>
      obtain ⟨moment, hnext, rfl⟩ := Option.map_eq_some_iff.mp htick
      exact .tick (Pool.quiet_of_next?_eq_none hidle) hnext

theorem happen_steps (h : batch.happen setup happening = some next) :
    Steps setup batch happening next := by
  cases happening with
  | act action => exact act_steps h
  | pass later =>
    simp only [happen] at h
    split at h
    · next hlater => cases h; exact .pass hlater
    · contradiction

/-- What every step keeps holds after every history. -/
theorem perform_induction {motive : Batch σ → Prop}
    (hstep : ∀ batch happening next, Steps setup batch happening next → motive batch → motive next)
    (h : perform setup history batch = some last) (hbatch : motive batch) : motive last := by
  induction history generalizing batch with
  | nil => cases h; exact hbatch
  | cons happening rest ih =>
    obtain ⟨next, hnext, hrest⟩ := Option.bind_eq_some_iff.mp h
    exact ih hrest (hstep batch happening next (happen_steps hnext) hbatch)

/-! ## Files and payloads -/

/-- What has become of the files so far. -/
structure Handles (setup : Setup σ) (files : List PayloadFile) (batch : Batch σ) : Prop where
  manned : 0 < batch.pool.workers.length
  hung : batch.pool.submitters = 0 → batch.files = []
  unharmed : batch.files ≠ [] → batch.fault = none
  fault : batch.fault.or (firstFault batch.files) = firstFault files
  tends : ∃ taken, taken ++ readable batch.files = readable files ∧
    batch.submitted = taken.length ∧ batch.pool.Tends setup.pool (tickets setup taken)

theorem handles_start (setup : Setup σ) (workers : Nat) (files : List PayloadFile) (s : σ) :
    (start workers files s).Handles setup files where
  manned := Pool.workers_start_pos workers s
  hung hnone := nomatch hnone
  unharmed _ := rfl
  fault := Option.none_or
  tends := ⟨[], rfl, rfl, Pool.tends_start setup.pool workers s⟩

/-- The pool of a batch does something, or something is done to it, which leaves the files alone. -/
theorem Handles.act (hbatch : batch.Handles setup files) {action : Pool.Action} {pool : Pool σ}
    (h : batch.pool.act setup.pool action = some pool) (hgoes : action.stopsPool = false)
    (hcalm : action.cancels = false) (hnone : Pool.submissions [action] = [])
    (hhung : pool.submitters = 0 → batch.files = []) :
    Handles setup files { batch with pool := pool } := by
  obtain ⟨taken, hreadable, hsubmitted, htends⟩ := hbatch.tends
  have htended := htends.act h hgoes hcalm
  rw [hnone, List.append_nil] at htended
  exact ⟨(Pool.act_acts h).length_workers ▸ hbatch.manned, hhung, hbatch.unharmed, hbatch.fault,
    taken, hreadable, hsubmitted, htended⟩

theorem Handles.pass (hbatch : batch.Handles setup files) {later : Moment}
    (hlater : batch.pool.now ≤ later) : (batch.pass later).Handles setup files := by
  have hact : batch.pool.act setup.pool (.pass later) = some (batch.pass later).pool :=
    if_pos hlater
  exact hbatch.act hact rfl rfl rfl hbatch.hung

theorem inner_submitters {action : Pool.Inner} {pool : Pool σ}
    (h : batch.pool.inner setup.pool action = some pool) :
    pool.submitters = batch.pool.submitters := by
  cases Pool.inner_moves h <;> rfl

theorem submit_submitters {ticket : Ticket} {pool : Pool σ}
    (h : batch.pool.outer (.submit ticket) = some pool) :
    pool.submitters = batch.pool.submitters := by
  cases Pool.outer_orders h <;> rfl

theorem Steps.handles (hstep : Steps setup batch happening next)
    (hbatch : batch.Handles setup files) : next.Handles setup files := by
  cases hstep with
  | @submit path payload rest pool hfiles hsenders hpool =>
    obtain ⟨taken, hreadable, hsubmitted, htends⟩ := hbatch.tends
    have hact : batch.pool.act setup.pool
        (.outer (.submit ⟨setup.runId batch.submitted, payload⟩)) = some pool := hpool
    have hpositive := Pool.submitters_pos_of_submit hpool
    have hfault := hbatch.fault
    rw [hfiles] at hreadable hfault
    refine ⟨(Pool.act_acts hact).length_workers ▸ hbatch.manned, fun hnone ↦ ?_,
      fun _ ↦ hbatch.unharmed (by simp [hfiles]), hfault, taken ++ [payload], ?_, ?_, ?_⟩
    · have hnone : pool.submitters = 0 := hnone
      rw [submit_submitters hpool] at hnone
      omega
    · rw [List.append_assoc]
      exact hreadable
    · rw [List.length_append, hsubmitted]
      rfl
    · rw [tickets_append, ← hsubmitted]
      exact htends.act hact rfl rfl
  | @stumble path fault rest hfiles hsenders =>
    obtain ⟨taken, hreadable, hsubmitted, htends⟩ := hbatch.tends
    have hunharmed := hbatch.unharmed (by simp [hfiles])
    have hfault := hbatch.fault
    rw [hfiles] at hreadable hfault
    rw [hunharmed] at hfault
    exact ⟨hbatch.manned, fun _ ↦ rfl, fun hfiles ↦ absurd rfl hfiles, hfault, taken, hreadable,
      hsubmitted, htends⟩
  | hangUp hfiles hsenders hpool =>
    exact hbatch.act (show batch.pool.act setup.pool (.outer .dropSubmitter) = _ from hpool) rfl rfl
      rfl fun _ ↦ hfiles
  | @pool action pool hpool =>
    exact hbatch.act (show batch.pool.act setup.pool (.inner action) = _ from hpool) rfl rfl rfl
      fun hnone ↦ hbatch.hung (inner_submitters hpool ▸ hnone)
  | tick hquiet hnext => exact hbatch.pass (le_max_left _ _)
  | pass hlater => exact hbatch.pass hlater

theorem perform_handles (h : perform setup history batch = some last)
    (hbatch : batch.Handles setup files) : last.Handles setup files :=
  perform_induction (fun _ _ _ hstep ↦ hstep.handles) h hbatch

/-! ## Work -/

variable {bound : Nat} {action : Action}

/-- A bound for what a batch still does if no run has more attempts.  A file that is still to be
handed over counts for more than a payload in the pool. -/
def toil (bound : Nat) (batch : Batch σ) : Nat :=
  (Run.steps bound + 3) * (3 * batch.files.length) + batch.pool.submitters +
    batch.pool.toil (fun _ run ↦ run.left bound batch.pool.now) (Run.steps bound)

theorem toil_pass_le (bound : Nat) {later : Moment} (hlater : batch.pool.now ≤ later) :
    (batch.pass later).toil bound ≤ batch.toil bound := by
  have hburden : batch.pool.burden (fun _ run ↦ run.left bound later) ≤
      batch.pool.burden fun _ run ↦ run.left bound batch.pool.now :=
    Pool.burden_le fun _ run _ ↦ run.left_antitone bound hlater
  exact Nat.add_le_add_left (Nat.add_le_add_left hburden _) _

theorem Handles.within (hbatch : batch.Handles setup files)
    (hstops : setup.pool.terms.StopsBy bound) (hbound : 0 < bound) {ticket : Ticket} {run : Run}
    (hbusy : .busy ticket run ∈ batch.pool.workers) : run.Within bound := by
  obtain ⟨taken, _, _, htends⟩ := hbatch.tends
  obtain ⟨origin, hrun⟩ := htends.unfolding ticket run hbusy
  exact hrun.within hstops hbound

/-- When the clock goes on to the next alarm it gets a run on. -/
theorem Handles.toil_tick_lt (hbatch : batch.Handles setup files)
    (hstops : setup.pool.terms.StopsBy bound) (hbound : 0 < bound)
    (hquiet : batch.pool.Quiet setup.pool) {moment : Moment}
    (hnext : nextMoment batch.pool.alarms = some moment) :
    (batch.pass (max batch.pool.now moment)).toil bound < batch.toil bound := by
  obtain ⟨⟨alarm, halarm, rfl⟩, _⟩ := nextMoment_spec hnext
  obtain ⟨worker, hworker, hmem⟩ := List.mem_flatMap.mp halarm
  cases worker with
  | busy ticket run =>
    obtain ⟨index, hindex⟩ := List.mem_iff_getElem?.mp hworker
    obtain ⟨hawaits, hearly⟩ := hquiet.awaits hindex
    have hreached : alarm ≤ max batch.pool.now (Span.ceilMillis alarm) :=
      (Span.le_ceilMillis alarm).trans (le_max_right _ _)
    have hless := hawaits.left_lt hearly hmem hreached (hbatch.within hstops hbound hworker)
    have hburden : batch.pool.burden
        (fun _ run ↦ run.left bound (max batch.pool.now (Span.ceilMillis alarm))) <
        batch.pool.burden fun _ run ↦ run.left bound batch.pool.now :=
      Pool.burden_lt (fun _ run _ ↦ run.left_antitone bound (le_max_left _ _)) hworker hless
    exact Nat.add_lt_add_left (Nat.add_lt_add_left hburden _) _
  | _ => contradiction

theorem toil_submit_lt {ticket : Ticket} {file : PayloadFile} {rest : List PayloadFile}
    {pool : Pool σ} {fault : Option (String × FileFault)} {submitted : Nat}
    (hfiles : batch.files = file :: rest) (hpool : batch.pool.outer (.submit ticket) = some pool) :
    toil bound ⟨pool, rest, submitted, fault⟩ < batch.toil bound := by
  have horder := Pool.outer_orders hpool
  have hpayloads : pool.payloads ≤ batch.pool.payloads + 2 := by
    cases horder <;> simp only [Pool.payloads, List.length_append, List.length_singleton] <;> omega
  have hburden : pool.burden (fun _ run ↦ run.left bound pool.now) =
      batch.pool.burden fun _ run ↦ run.left bound batch.pool.now := by
    cases horder <;> rfl
  have hmore := Nat.mul_le_mul_left (Run.steps bound + 3) hpayloads
  have hfewer : (Run.steps bound + 3) * (3 * (rest.length + 1)) =
      (Run.steps bound + 3) * (3 * rest.length) + (Run.steps bound + 3) * 3 := Nat.mul_add _ _ _
  rw [Nat.mul_add] at hmore
  simp only [toil, Pool.toil, hburden, submit_submitters hpool, hfiles, List.length_cons]
  omega

theorem Steps.toil_lt (hstep : Steps setup batch (.act action) next)
    (hbatch : batch.Handles setup files) (hstops : setup.pool.terms.StopsBy bound)
    (hbound : 0 < bound) : next.toil bound < batch.toil bound := by
  cases hstep with
  | submit hfiles hsenders hpool => exact toil_submit_lt hfiles hpool
  | stumble hfiles hsenders =>
    have hfewer : (Run.steps bound + 3) * (3 * 0) <
        (Run.steps bound + 3) * (3 * batch.files.length) := by
      refine Nat.mul_lt_mul_of_pos_left ?_ (Nat.succ_pos _)
      rw [hfiles, List.length_cons]
      omega
    exact Nat.add_lt_add_right (Nat.add_lt_add_right hfewer _) _
  | hangUp hfiles hsenders hpool =>
    cases Pool.outer_orders hpool with
    | dropSubmitter hpositive =>
      refine Nat.add_lt_add_right (Nat.add_lt_add_left ?_ _) _
      exact Nat.sub_lt hpositive Nat.zero_lt_one
  | @pool action pool hpool =>
    have hmove := Pool.inner_moves hpool
    have heases :
        Pool.Eases setup.pool (fun _ run ↦ run.left bound batch.pool.now) batch.pool pool :=
      hmove.eases fun index ticket run after t hworker hrun ↦ (Run.step_moves hrun).left_lt
        (hbatch.within hstops hbound (List.mem_of_getElem? hworker)) hstops
    have hless : pool.toil (fun _ run ↦ run.left bound batch.pool.now) (Run.steps bound) < _ :=
      heases.toil_lt fun _ _ ↦ Run.left_le _ _ _
    simp only [toil, hmove.now_eq, inner_submitters hpool]
    omega
  | tick hquiet hnext => exact hbatch.toil_tick_lt hstops hbound hquiet hnext

/-- All histories of a batch have boundedly many actions. -/
theorem acts_le_of_perform (h : perform setup history batch = some last)
    (hbatch : batch.Handles setup files) (hstops : setup.pool.terms.StopsBy bound)
    (hbound : 0 < bound) :
    history.countP Happening.isAct + last.toil bound ≤ batch.toil bound := by
  induction history generalizing batch with
  | nil =>
    cases h
    exact (Nat.zero_add _).le
  | cons happening rest ih =>
    obtain ⟨next, hnext, hrest⟩ := Option.bind_eq_some_iff.mp h
    have hstep := happen_steps hnext
    have hlater := ih hrest (hstep.handles hbatch)
    cases happening with
    | act action =>
      have hless := hstep.toil_lt hbatch hstops hbound
      rw [List.countP_cons_of_pos rfl]
      omega
    | pass later =>
      cases hstep with
      | pass hpass =>
        have hless := toil_pass_le bound hpass
        rw [List.countP_cons_of_neg Bool.false_ne_true]
        omega

/-! ## Progress -/

theorem tick_eq_some (hquiet : batch.pool.Quiet setup.pool) {moment : Moment}
    (hnext : nextMoment batch.pool.alarms = some moment) :
    batch.act setup .tick = some (batch.pass (max batch.pool.now moment)) := by
  rw [act, Pool.tick?, Pool.next?_eq_none_iff.mpr hquiet, hnext]
  rfl

/-- A batch that is not over can act. -/
theorem Handles.exists_act (hbatch : batch.Handles setup files)
    (hunfinished : batch.isOver = false) : ∃ action next, batch.act setup action = some next := by
  obtain ⟨taken, _, _, htends⟩ := hbatch.tends
  by_contra hnone
  have hnone (action : Action) : batch.act setup action = none := by
    by_contra hsome
    obtain ⟨next, hact⟩ := Option.ne_none_iff_exists'.mp hsome
    exact hnone ⟨action, next, hact⟩
  -- The pool would be at rest without a run in progress, since a run would make the clock go on.
  have hquiet : batch.pool.Quiet setup.pool :=
    fun action ↦ Option.map_eq_none_iff.mp (hnone (.pool action))
  have hidle (worker : Worker) (hworker : worker ∈ batch.pool.workers) :
      worker.isRunning = false := by
    by_contra hrunning
    obtain ⟨moment, hnext, _⟩ := hquiet.exists_pass hworker (Bool.not_eq_false _ ▸ hrunning)
    have htick := tick_eq_some hquiet hnext
    rw [hnone .tick] at htick
    contradiction
  obtain ⟨worker, hworker⟩ := List.exists_mem_of_length_pos hbatch.manned
  have hsenders := (htends.goes.idle hquiet hworker (hidle worker hworker)).2
  -- So nothing would be in the way of handing over, and in the end of hanging up.
  have hfiles : batch.files = [] := by
    by_contra hleft
    have hsubmit := hnone .submit
    have hpositive : 0 < batch.pool.submitters :=
      Nat.pos_of_ne_zero fun hzero ↦ hleft (hbatch.hung hzero)
    cases hfiles : batch.files with
    | nil => exact hleft hfiles
    | cons file rest =>
      obtain ⟨path, content⟩ := file
      cases content <;> simp [Batch.act, submit, hfiles, hsenders, Pool.outer, hpositive] at hsubmit
  have hdropped : batch.pool.submitters = 0 := by
    by_contra hsubmitters
    have hhangUp := hnone .hangUp
    have hpositive := Nat.pos_of_ne_zero hsubmitters
    simp [Batch.act, hangUp, hfiles, hsenders, Pool.outer, hpositive] at hhangUp
  obtain ⟨worker, hworker, hrunning⟩ :=
    htends.goes.exists_running hquiet hdropped hunfinished
  rw [hidle worker hworker] at hrunning
  contradiction

/-! ## The fixed order -/

theorem exists_act_of_next? (h : batch.next? setup = some next) :
    ∃ action, batch.act setup action = some next := by
  unfold next? at h
  split at h
  · next hsubmit => exact ⟨.submit, hsubmit.trans h⟩
  · split at h
    · next hhangUp => exact ⟨.hangUp, hhangUp.trans h⟩
    · split at h
      · next pool hpool =>
        obtain ⟨action, hinner⟩ := Pool.exists_inner_of_next? hpool
        refine ⟨.pool action, ?_⟩
        rw [act, hinner]
        exact h
      · exact ⟨.tick, h⟩

/-- The fixed order finds an action if there is any. -/
theorem exists_next?_of_act (h : batch.act setup action = some next) :
    ∃ other, batch.next? setup = some other := by
  refine Option.ne_none_iff_exists'.mp fun hnone ↦ ?_
  unfold next? at hnone
  split at hnone
  · contradiction
  · next hsubmit =>
    split at hnone
    · contradiction
    · next hhangUp =>
      split at hnone
      · contradiction
      · next hpool =>
        cases action with
        | submit =>
          rw [act, hsubmit] at h
          contradiction
        | hangUp =>
          rw [act, hhangUp] at h
          contradiction
        | pool action =>
          rw [act, Pool.quiet_of_next?_eq_none hpool action] at h
          contradiction
        | tick =>
          rw [hnone] at h
          contradiction

/-- With enough fuel a batch is finished in the fixed order, which is one of its histories. -/
theorem Handles.finishes (hbatch : batch.Handles setup files)
    (hstops : setup.pool.terms.StopsBy bound) (hbound : 0 < bound) :
    ∃ enough last history, (∀ fuel ≥ enough, batch.finish? setup fuel = some last) ∧
      perform setup history batch = some last ∧ last.isOver = true := by
  induction htoil : batch.toil bound using Nat.strong_induction_on generalizing batch with
  | _ toil ih =>
    cases hover : batch.isOver with
    | true =>
      refine ⟨0, batch, [], fun fuel _ ↦ ?_, rfl, hover⟩
      cases fuel with
      | zero => exact if_pos hover
      | succ fuel => exact if_pos hover
    | false =>
      obtain ⟨_, _, hact⟩ := hbatch.exists_act hover
      obtain ⟨next, hnext⟩ := exists_next?_of_act hact
      obtain ⟨action, hact⟩ := exists_act_of_next? hnext
      have hstep := act_steps hact
      obtain ⟨enough, last, history, hfinish, hperform, hlast⟩ :=
        ih _ (htoil ▸ hstep.toil_lt hbatch hstops hbound) (hstep.handles hbatch) rfl
      refine ⟨enough + 1, last, .act action :: history, fun fuel hfuel ↦ ?_, ?_, hlast⟩
      · obtain ⟨fuel, rfl⟩ := Nat.exists_eq_add_of_le' (Nat.le_of_add_left_le hfuel)
        rw [finish?, hover, hnext]
        exact hfinish fuel (Nat.le_of_succ_le_succ hfuel)
      · rw [perform, happen, hact]
        exact hperform

end Courier.Batch
