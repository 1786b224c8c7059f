import Courier.Proofs.Pool.Clearing

/-!
# Closing the inbox

A request for shutdown does not close the inbox: the first worker that leaves does.  As long as every
worker has a run in progress, what is submitted finds its place in the inbox and is cleared out
later; only what finds the inbox full, and what comes after the first worker has left, is refused.
-/

namespace Courier.Pool

variable {σ : Type} {setup : Setup σ} {pool next last : Pool σ} {s : σ} {n : Nat}
  {actions more : List Action} {ticket : Ticket}

/-! ## Who has closed the inbox -/

/-- A closed inbox was closed by a worker that has not come back since. -/
def HasCloser (pool : Pool σ) : Prop :=
  pool.closed = true → ∃ worker ∈ pool.workers, worker.hasClosed = true

theorem HasCloser.setWorker (hpool : pool.HasCloser) {index : Nat} {worker other : Worker}
    (hworker : pool.workers[index]? = some worker)
    (hother : worker.hasClosed = true → other.hasClosed = true) :
    (pool.setWorker index other).HasCloser := by
  intro hclosed
  obtain ⟨closer, hcloser, hhas⟩ := hpool hclosed
  obtain ⟨place, hplace⟩ := List.mem_iff_getElem?.mp hcloser
  rcases eq_or_ne index place with rfl | hne
  · cases hplace.symm.trans hworker
    have hindex := (List.getElem?_eq_some_iff.mp hworker).1
    exact ⟨other, List.mem_of_getElem? (List.getElem?_set_self hindex), hother hhas⟩
  · exact ⟨closer, List.mem_of_getElem? ((List.getElem?_set_ne hne).trans hplace), hhas⟩

theorem Moves.hasCloser {action : Inner} (hmove : Moves setup pool action next)
    (hpool : pool.HasCloser) : next.HasCloser := by
  cases hmove with
  | look hworker => exact hpool.setWorker hworker (nomatch ·)
  | @take index ticket rest hworker hinbox =>
    have hrest : (pool.withoutFirst rest).HasCloser := hpool
    exact hrest.setWorker hworker (nomatch ·)
  | stop hworker hsignal => exact hpool.setWorker hworker (nomatch ·)
  | hangUp hworker hinbox hquiet => exact hpool.setWorker hworker (nomatch ·)
  | work hworker hstep => exact hpool.setWorker hworker (nomatch ·)
  | @report index ticket run hworker hover =>
    have hadd : (pool.addReport setup ticket run).HasCloser := hpool
    exact hadd.setWorker hworker (nomatch ·)
  | close hworker =>
    have hindex := (List.getElem?_eq_some_iff.mp hworker).1
    exact fun _ ↦ ⟨.draining, List.mem_of_getElem? (List.getElem?_set_self hindex), rfl⟩
  | exit hworker hinbox => exact hpool.setWorker hworker fun _ ↦ rfl
  | _ => exact hpool

theorem Acts.hasCloser {action : Action} (hact : Acts setup pool action next)
    (hpool : pool.HasCloser) : next.HasCloser := by
  cases hact with
  | move hmove => exact hmove.hasCloser hpool
  | order horder => cases horder <;> exact hpool
  | pass hlater => exact hpool

/-- Shutdown requested, the inbox of a pool at rest is closed exactly if a worker has left. -/
theorem Quiet.closed_iff (hquiet : pool.Quiet setup) (hstopping : pool.stopping = true)
    (horderly : pool.Orderly) (hcloser : pool.HasCloser) :
    pool.closed = true ↔ ∃ worker ∈ pool.workers, worker.isRunning = false := by
  constructor
  · intro hclosed
    obtain ⟨worker, hworker, hhas⟩ := hcloser hclosed
    refine ⟨worker, hworker, ?_⟩
    cases worker with
    | busy => contradiction
    | _ => rfl
  · rintro ⟨worker, hworker, hidle⟩
    have hgone := hquiet.eq_gone hstopping hworker hidle
    exact horderly.closed worker hworker (by rw [hgone]; rfl)

/-! ## Submissions that wait -/

/-- Shutdown has been requested, no worker waits for a payload, and as long as the inbox is open no
submission that waits for a place has one. -/
structure Barred (pool : Pool σ) : Prop where
  stopping : pool.stopping = true
  deaf : ∀ worker ∈ pool.workers, worker.isListening = false
  waiting : pool.closed = false → ∀ sender ∈ pool.senders, sender.granted = false

theorem Quiet.barred (hquiet : pool.Quiet setup) (hstopping : pool.stopping = true) :
    pool.Barred where
  stopping := hstopping
  deaf _ hworker := hquiet.isListening_eq_false (.inr (signalled_of_stopping hstopping)) hworker
  waiting hopen _ hsender := hquiet.ungranted hopen hsender

theorem Barred.setWorker (hpool : pool.Barred) (index : Nat) {worker : Worker}
    (hworker : worker.isListening = false) : (pool.setWorker index worker).Barred where
  stopping := hpool.stopping
  deaf other hother := by
    rcases List.mem_or_eq_of_mem_set hother with hother | rfl
    · exact hpool.deaf other hother
    · exact hworker
  waiting := hpool.waiting

theorem Moves.barred {action : Inner} (hmove : Moves setup pool action next)
    (horderly : pool.Orderly) (hpool : pool.Barred) : next.Barred := by
  have hshut (hclosed : pool.closed = true) {P : Prop} (hopen : pool.closed = false) : P :=
    absurd (hclosed.symm.trans hopen) (by decide)
  cases hmove with
  | @look index hworker =>
    rw [hpool.stopping]
    exact hpool.setWorker index rfl
  | take hworker hinbox => exact nomatch hpool.deaf _ (List.mem_of_getElem? hworker)
  | @stop index hworker hsignal => exact hpool.setWorker index rfl
  | @hangUp index hworker hinbox hquiet => exact hpool.setWorker index rfl
  | @work index ticket run after t hworker hstep =>
    have hset : (pool.setWorker index (.busy ticket after)).Barred := hpool.setWorker index rfl
    exact ⟨hset.stopping, hset.deaf, hset.waiting⟩
  | @report index ticket run hworker hover =>
    have hset : (pool.setWorker index .arriving).Barred := hpool.setWorker index rfl
    exact ⟨hset.stopping, hset.deaf, hset.waiting⟩
  | @close index hworker =>
    have hset : (pool.setWorker index .draining).Barred := hpool.setWorker index rfl
    exact ⟨hset.stopping, hset.deaf, (nomatch ·)⟩
  | discard hworker hinbox =>
    exact ⟨hpool.stopping, hpool.deaf,
      hshut (horderly.closed _ (List.mem_of_getElem? hworker) rfl)⟩
  | @exit index hworker hinbox => exact hpool.setWorker index rfl
  | refuse hsender hclosed => exact ⟨hpool.stopping, hpool.deaf, hshut hclosed⟩
  | enter hsender hopen hgranted =>
    rw [hpool.waiting hopen _ (List.mem_of_getElem? hsender)] at hgranted
    contradiction

theorem Acts.barred {action : Action} (hact : Acts setup pool action next)
    (horderly : pool.Orderly) (hpool : pool.Barred) : next.Barred := by
  cases hact with
  | move hmove => exact hmove.barred horderly hpool
  | order horder =>
    cases horder with
    | @lineUp ticket hopen hroom =>
      refine ⟨hpool.stopping, hpool.deaf, fun _ sender hsender ↦ ?_⟩
      rcases List.mem_append.mp hsender with hsender | hsender
      · exact hpool.waiting hopen sender hsender
      · rw [List.mem_singleton.mp hsender]
    | requestShutdown hheld => exact ⟨rfl, hpool.deaf, hpool.waiting⟩
    | _ => exact ⟨hpool.stopping, hpool.deaf, hpool.waiting⟩
  | pass hlater => exact ⟨hpool.stopping, hpool.deaf, hpool.waiting⟩

/-- Nothing is accepted any more unless it finds a place at once. -/
theorem Barred.accepted_subset {action : Action} (hpool : pool.Barred)
    (hact : Acts setup pool action next) :
    next.accepted ⊆ pool.accepted ++ submitted [action] := by
  have hkept (action : Action) (haccepted : next.accepted = pool.accepted) :
      next.accepted ⊆ pool.accepted ++ submitted [action] := by
    rw [haccepted]
    exact List.subset_append_left _ _
  cases hact with
  | move hmove =>
    cases hmove with
    | enter hsender hopen hgranted =>
      rw [hpool.waiting hopen _ (List.mem_of_getElem? hsender)] at hgranted
      contradiction
    | _ => exact hkept _ rfl
  | order horder =>
    cases horder with
    | accept hopen hroom => exact List.Subset.refl _
    | _ => exact hkept _ rfl
  | pass hlater => exact hkept _ rfl

theorem perform_barred (h : perform setup actions pool = some last) (horderly : pool.Orderly)
    (hpool : pool.Barred) : last.accepted ⊆ pool.accepted ++ submitted actions := by
  induction actions generalizing pool with
  | nil => cases h; exact List.subset_append_left _ _
  | cons action rest ih =>
    obtain ⟨next, hact, hrest⟩ := perform_cons h
    intro id hid
    rw [submitted_cons, ← List.append_assoc]
    have hlater := ih hrest (hact.orderly horderly) (hact.barred horderly hpool) hid
    rcases List.mem_append.mp hlater with hid | hid
    · exact List.mem_append_left _ (hpool.accepted_subset hact hid)
    · exact List.mem_append_right _ hid

/-! ## Submissions after a request for shutdown -/

theorem not_reported (h : perform setup actions (start n s) = some pool) {id : RunId}
    (hid : id ∉ pool.accepted) : id ∉ pool.reports.map Report.runId := by
  intro hreported
  have hcount := perform_balanced h id
  have hpositive : 0 < pool.reported.count id := List.count_pos_iff.mpr hreported
  rw [List.count_eq_zero_of_not_mem hid] at hcount
  omega

/-- All submissions apart, a new one has not been accepted before. -/
theorem not_accepted (h : perform setup actions (start n s) = some pool)
    (hdistinct : (submitted (actions ++ more)).Nodup) {id : RunId} (hid : id ∈ submitted more) :
    id ∉ pool.accepted := by
  intro haccepted
  have hcount := count_submitted h id
  have honce := List.nodup_iff_count_le_one.mp hdistinct id
  rw [submitted_append, List.count_append] at honce
  have hold := List.count_pos_iff.mpr haccepted
  have hnew := List.count_pos_iff.mpr hid
  omega

/-- What finds a place at once has been cleared out when the workers have left. -/
theorem Barred.exists_reportsOf (hpool : pool.Barred)
    (hperform : perform setup actions (start n s) = some last)
    (hdistinct : (submitted actions).Nodup) (hmore : perform setup more pool = some last)
    (hticket : ticket ∈ pool.inbox) (hfinished : last.isFinished = true) :
    ∃ now, last.reportsOf ticket.runId = [cleared setup ticket now] := by
  have hdeaf : pool.workers.countP Worker.isListening = 0 :=
    List.countP_eq_zero.mpr fun worker hworker ↦ by simp [hpool.deaf worker hworker]
  have hcount := length_started_le hmore hpool.stopping
  have hstarted : started setup more pool = [] := List.length_eq_zero_iff.mp (by omega)
  have horderly := perform_orderly hperform
  have hempty : last.inbox = [] := horderly.empty (horderly.gone_mem hfinished)
  exact exists_reportsOf_cleared hperform hdistinct hmore (List.mem_append_left _ hticket)
    (by simp [hstarted]) (by simp [hempty])

/-- At rest a closed inbox keeps no submission waiting. -/
theorem Quiet.senders_eq_nil (hquiet : pool.Quiet setup) (hclosed : pool.closed = true) :
    pool.senders = [] := by
  refine List.eq_nil_iff_forall_not_mem.mpr fun sender hsender ↦ ?_
  obtain ⟨index, hindex⟩ := List.mem_iff_getElem?.mp hsender
  have hnone := hquiet (.sender index)
  simp [inner, senderMove, hindex, hclosed] at hnone

/-- A submission that has to wait for a place after a request for shutdown is never accepted, and is
refused when the inbox has been closed. -/
theorem Barred.refuses (hpool : pool.Barred) (horderly : pool.Orderly)
    (hperform : perform setup (actions ++ more) (start n s) = some last)
    (hbefore : perform setup actions (start n s) = some pool)
    (hdistinct : (submitted (actions ++ more)).Nodup) (hmore : perform setup more pool = some last)
    (hwaits : ticket.runId ∈ pool.inLine) :
    ticket.runId ∉ last.accepted ∧ ticket.runId ∉ last.reports.map Report.runId ∧
      (last.closed = true → last.Quiet setup → ticket.runId ∈ last.refused) := by
  have honce := List.nodup_iff_count_le_one.mp hdistinct ticket.runId
  have hthen := count_submitted hbefore ticket.runId
  have hnow := count_submitted hperform ticket.runId
  have hline := List.count_pos_iff.mpr hwaits
  rw [submitted_append, List.count_append] at honce hnow
  have hrejected : ticket.runId ∉ last.accepted := by
    intro haccepted
    rcases List.mem_append.mp (perform_barred hmore horderly hpool haccepted) with hold | hnew
    · have hold := List.count_pos_iff.mpr hold
      omega
    · have hnew := List.count_pos_iff.mpr hnew
      omega
  refine ⟨hrejected, not_reported hperform hrejected, fun hclosed hquiet ↦ ?_⟩
  have hempty : last.inLine = [] := by rw [inLine, hquiet.senders_eq_nil hclosed]; rfl
  rw [List.count_eq_zero_of_not_mem hrejected, hempty, List.count_nil] at hnow
  exact List.count_pos_iff.mp (by omega)

/-- When a pool has come to rest after a request for shutdown, its inbox is closed exactly if some
worker has no run in progress.  If it is closed, every submission from then on is refused and not
reported.  Otherwise a submission is accepted as long as the inbox has room, and has been cleared
out when the workers have left; only one that finds the inbox full is never accepted, never reported
and in the end refused. -/
theorem submissions_after_shutdown (setup : Setup σ) (n : Nat) (s : σ) (actions : List Action)
    (pool : Pool σ) (hperform : perform setup actions (start n s) = some pool)
    (hstopping : pool.stopping = true) (hquiet : pool.Quiet setup) :
    (pool.closed = true ↔ ∃ worker ∈ pool.workers, worker.isRunning = false) ∧
      (pool.closed = true → ∀ (more : List Action) (last : Pool σ),
        perform setup more pool = some last → (submitted (actions ++ more)).Nodup →
          ∀ id ∈ submitted more,
            id ∈ last.refused ∧ id ∉ last.accepted ∧ id ∉ last.reports.map Report.runId) ∧
      (pool.closed = false → ∀ (ticket : Ticket) (next : Pool σ) (more : List Action)
        (last : Pool σ), pool.outer (.submit ticket) = some next →
        perform setup more next = some last →
        (submitted (actions ++ .outer (.submit ticket) :: more)).Nodup →
          (pool.inbox.length < 4 * pool.workers.length → ticket.runId ∈ next.accepted ∧
            (last.isFinished = true →
              ∃ now, last.reportsOf ticket.runId = [cleared setup ticket now])) ∧
          (4 * pool.workers.length ≤ pool.inbox.length → ticket.runId ∉ last.accepted ∧
            ticket.runId ∉ last.reports.map Report.runId ∧
            (last.closed = true → last.Quiet setup → ticket.runId ∈ last.refused))) := by
  have horderly := perform_orderly hperform
  have hcloser : pool.HasCloser :=
    perform_induction (fun _ _ _ hact h ↦ hact.hasCloser h) hperform (nomatch ·)
  have hbarred := hquiet.barred hstopping
  refine ⟨hquiet.closed_iff hstopping horderly hcloser,
    fun hclosed more last hmore hdistinct id hid ↦ ?_,
    fun hopen ticket next more last hsubmit hmore hdistinct ↦ ?_⟩
  · have hrefuses := perform_refuses hmore hclosed
    have hwhole : perform setup (actions ++ more) (start n s) = some last := by
      rw [perform_append, hperform, Option.bind_some, hmore]
    have hnew : id ∉ last.accepted := by
      rw [hrefuses.accepted]
      exact not_accepted hperform hdistinct hid
    exact ⟨hrefuses.refused (List.mem_append_right _ hid), hnew, not_reported hwhole hnew⟩
  · have hdone : pool.act setup (.outer (.submit ticket)) = some next := hsubmit
    have hwhole := perform_through hperform hdone hmore
    have hact : Acts setup pool (.outer (.submit ticket)) next := .order (outer_orders hsubmit)
    have hnext := hact.barred horderly hbarred
    have hgranted : pool.senders.countP Sender.granted = 0 :=
      List.countP_eq_zero.mpr fun sender hsender ↦ by simp [hbarred.waiting hopen sender hsender]
    cases outer_orders hsubmit with
    | turnDown hclosed => exact absurd (hclosed.symm.trans hopen) (by decide)
    | accept _ hroom =>
      have hless : pool.inbox.length < 4 * pool.workers.length := by
        rw [room, capacity, hgranted] at hroom
        omega
      refine ⟨fun _ ↦ ⟨List.mem_append_right _ (List.mem_singleton_self _), ?_⟩, fun hfull ↦ ?_⟩
      · exact hnext.exists_reportsOf hwhole hdistinct hmore
          (List.mem_append_right _ (List.mem_singleton_self _))
      · omega
    | lineUp _ hroom =>
      have hfull : 4 * pool.workers.length ≤ pool.inbox.length := by
        rw [room, capacity, hgranted] at hroom
        omega
      refine ⟨fun hless ↦ by omega, fun _ ↦ ?_⟩
      have hsame : actions ++ .outer (.submit ticket) :: more =
          (actions ++ [.outer (.submit ticket)]) ++ more := by simp
      have hbefore : perform setup (actions ++ [.outer (.submit ticket)]) (start n s) = some _ :=
        perform_through hperform hdone rfl
      rw [hsame] at hwhole hdistinct
      exact hnext.refuses (hact.orderly horderly) hwhole hbefore hdistinct hmore
        (by simp [inLine])

/-- Shutdown is requested while the only worker runs a payload. -/
def stoppedAtWork : List Action :=
  let worker (move : Move) : Action := .inner (.worker 0 move)
  [.outer (.submit ⟨⟨Ulid.ofNat 1⟩, "{}".toUTF8.toList⟩), worker .look, worker .take,
    worker .work, .outer .requestShutdown]

def latecomer : Ticket := ⟨⟨Ulid.ofNat 2⟩, "{}".toUTF8.toList⟩

/-- The run ends after ten seconds, and the worker leaves. -/
def departure : List Action :=
  let worker (move : Move) : Action := .inner (.worker 0 move)
  [.pass (Span.ofSeconds 10), worker .work, worker .report, worker .look, worker .close,
    worker .discard, worker .exit]

theorem submissions_after_shutdown_at_work : ∃ pool next last : Pool Unit,
    perform slowSetup stoppedAtWork (start 1 ()) = some pool ∧ pool.stopping = true ∧
      pool.Quiet slowSetup ∧ pool.closed = false ∧
      pool.outer (.submit latecomer) = some next ∧
      perform slowSetup departure next = some last ∧ last.isFinished = true ∧
      latecomer.runId ∈ next.accepted ∧
      ∃ now, last.reportsOf latecomer.runId = [cleared slowSetup latecomer now] := by
  have hany : ((perform slowSetup stoppedAtWork (start 1 ())).any fun pool ↦
      decide (pool.stopping = true ∧ pool.Quiet slowSetup ∧ pool.closed = false ∧
        pool.inbox.length < 4 * pool.workers.length) &&
      (pool.outer (.submit latecomer)).any fun next ↦
        (perform slowSetup departure next).any isFinished) = true := by decide +kernel
  obtain ⟨pool, hperform, hpool⟩ := (Option.any_eq_true _ _).mp hany
  obtain ⟨hpool, hlater⟩ := Bool.and_eq_true_iff.mp hpool
  obtain ⟨hstopping, hquiet, hopen, hroom⟩ := of_decide_eq_true hpool
  obtain ⟨next, hsubmit, hlater⟩ := (Option.any_eq_true _ _).mp hlater
  obtain ⟨last, hlast, hfinished⟩ := (Option.any_eq_true _ _).mp hlater
  obtain ⟨_, _, hlate⟩ := submissions_after_shutdown slowSetup 1 () stoppedAtWork pool hperform
    hstopping hquiet
  obtain ⟨hplace, _⟩ := hlate hopen latecomer next departure last hsubmit hlast (by decide +kernel)
  obtain ⟨haccepted, hreport⟩ := hplace hroom
  exact ⟨pool, next, last, hperform, hstopping, hquiet, hopen, hsubmit, hlast, hfinished,
    haccepted, hreport hfinished⟩

end Courier.Pool
