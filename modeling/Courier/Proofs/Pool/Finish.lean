import Courier.Proofs.Pool.Ledger

/-!
# Finished pools

A pool is finished when all its workers have left.  Every worker closes the inbox and finds it empty
before it leaves, and nothing enters a closed inbox; so the reports of a finished pool are those of
the accepted submissions, each once, and whatever is submitted to it afterwards is refused.
-/

namespace Courier.Pool

variable {σ : Type} {setup : Setup σ} {pool next last : Pool σ}

/-- The inbox is closed once a worker has come to clear it, and empty once one has left. -/
structure Orderly (pool : Pool σ) : Prop where
  staffed : pool.workers ≠ []
  closed : ∀ worker ∈ pool.workers, worker.hasClosed = true → pool.closed = true
  empty : .gone ∈ pool.workers → pool.inbox = []

theorem orderly_start (n : Nat) (s : σ) : (start n s).Orderly where
  staffed := by
    have hcount : workerCount n ≠ 0 := by unfold workerCount; omega
    simpa [start] using hcount
  closed worker hworker hclosed := by
    rw [List.eq_of_mem_replicate hworker] at hclosed
    contradiction
  empty hgone := by
    have := List.eq_of_mem_replicate hgone
    contradiction

theorem Orderly.setWorker (hpool : pool.Orderly) (index : Nat) {worker : Worker}
    (hclosed : worker.hasClosed = true → pool.closed = true)
    (hempty : worker = .gone → pool.inbox = []) : (pool.setWorker index worker).Orderly where
  staffed hnil := hpool.staffed (by simpa [Pool.setWorker] using hnil)
  closed other hother hother' := by
    rcases List.mem_or_eq_of_mem_set hother with hother | rfl
    · exact hpool.closed other hother hother'
    · exact hclosed hother'
  empty hgone := by
    rcases List.mem_or_eq_of_mem_set hgone with hgone | hgone
    · exact hpool.empty hgone
    · exact hempty hgone.symm

/-- As long as the inbox holds something no worker has left, and it may change. -/
theorem Orderly.setInbox (hpool : pool.Orderly) (hfull : pool.inbox ≠ [] ∨ pool.closed = false)
    (hworkers : next.workers = pool.workers) (hclosed : next.closed = pool.closed) :
    next.Orderly where
  staffed := by rw [hworkers]; exact hpool.staffed
  closed := by rw [hworkers, hclosed]; exact hpool.closed
  empty hgone := by
    rw [hworkers] at hgone
    rcases hfull with hfull | hopen
    · exact absurd (hpool.empty hgone) hfull
    · rw [hpool.closed _ hgone rfl] at hopen
      contradiction

theorem Moves.orderly {action : Inner} (hmove : Moves setup pool action next)
    (hpool : pool.Orderly) : next.Orderly := by
  cases hmove with
  | @look index hworker =>
    apply hpool.setWorker index
    · split <;> exact (nomatch ·)
    · split <;> exact (nomatch ·)
  | @take index ticket rest hworker hinbox =>
    have hrest : (pool.withoutFirst rest).Orderly :=
      hpool.setInbox (.inl (by simp [hinbox])) rfl rfl
    exact hrest.setWorker index (nomatch ·) (nomatch ·)
  | @stop index hworker hsignal => exact hpool.setWorker index (nomatch ·) (nomatch ·)
  | @hangUp index hworker hinbox hquiet => exact hpool.setWorker index (nomatch ·) (nomatch ·)
  | @work index ticket run after s hworker hstep =>
    have hset : (pool.setWorker index (.busy ticket after)).Orderly :=
      hpool.setWorker index (nomatch ·) (nomatch ·)
    exact ⟨hset.staffed, hset.closed, hset.empty⟩
  | @report index ticket run hworker hover =>
    have hadd : (pool.addReport setup ticket run).Orderly :=
      ⟨hpool.staffed, hpool.closed, hpool.empty⟩
    exact hadd.setWorker index (nomatch ·) (nomatch ·)
  | @close index hworker =>
    have hclose : ({ pool with closed := true } : Pool σ).Orderly :=
      ⟨hpool.staffed, fun _ _ _ ↦ rfl, hpool.empty⟩
    exact hclose.setWorker index (fun _ ↦ rfl) (nomatch ·)
  | discard hworker hinbox => exact hpool.setInbox (.inl (by simp [hinbox])) rfl rfl
  | @exit index hworker hinbox =>
    have hclosed := hpool.closed _ (List.mem_of_getElem? hworker) rfl
    exact hpool.setWorker index (fun _ ↦ hclosed) (fun _ ↦ hinbox)
  | refuse hsender hclosed => exact ⟨hpool.staffed, hpool.closed, hpool.empty⟩
  | enter hsender hopen hgranted => exact hpool.setInbox (.inr hopen) rfl rfl

theorem Acts.orderly {action : Action} (hact : Acts setup pool action next)
    (hpool : pool.Orderly) : next.Orderly := by
  cases hact with
  | move hmove => exact hmove.orderly hpool
  | order horder =>
    cases horder with
    | accept hopen hroom => exact hpool.setInbox (.inr hopen) rfl rfl
    | _ => exact ⟨hpool.staffed, hpool.closed, hpool.empty⟩
  | pass hlater => exact ⟨hpool.staffed, hpool.closed, hpool.empty⟩

/-! ## After the last worker -/

theorem perform_orderly {n : Nat} {s : σ} {actions : List Action}
    (h : perform setup actions (start n s) = some pool) : pool.Orderly :=
  perform_induction (fun _ _ _ hact hpool ↦ hact.orderly hpool) h (orderly_start n s)

theorem eq_gone_of_isFinished (hfinished : pool.isFinished = true) {worker : Worker}
    (hworker : worker ∈ pool.workers) : worker = .gone := by
  have hgone := List.all_eq_true.mp hfinished worker hworker
  cases worker <;> first | rfl | contradiction

theorem running_of_isFinished (hfinished : pool.isFinished = true) : pool.running = [] := by
  apply List.flatMap_eq_nil_iff.mpr
  intro worker hworker
  rw [eq_gone_of_isFinished hfinished hworker]
  rfl

theorem Orderly.gone_mem (hpool : pool.Orderly) (hfinished : pool.isFinished = true) :
    .gone ∈ pool.workers := by
  obtain ⟨worker, hworker⟩ := List.exists_mem_of_ne_nil _ hpool.staffed
  rwa [← eq_gone_of_isFinished hfinished hworker]

theorem reported_perm_accepted (hbalanced : pool.Balanced) (horderly : pool.Orderly)
    (hfinished : pool.isFinished = true) : pool.reported.Perm pool.accepted := by
  apply List.perm_iff_count.mpr
  intro id
  have hid := hbalanced id
  have hempty : pool.queued = [] := by
    rw [queued, horderly.empty (horderly.gone_mem hfinished), List.map_nil]
  rw [running_of_isFinished hfinished, hempty, List.count_nil] at hid
  omega

/-- Nothing was accepted on the way from one pool to a later one, and some submissions were
refused. -/
structure Refuses (pool later : Pool σ) (ids : List RunId) : Prop where
  accepted : later.accepted = pool.accepted
  refused : pool.refused ++ ids ⊆ later.refused

theorem Acts.refuses {action : Action} (hact : Acts setup pool action next)
    (hclosed : pool.closed = true) :
    Refuses pool next (submitted [action]) ∧ next.closed = true := by
  have hkept (action : Action) (haccepted : next.accepted = pool.accepted)
      (hrefused : next.refused = pool.refused) (hnone : submitted [action] = []) :
      Refuses pool next (submitted [action]) := by
    refine ⟨haccepted, ?_⟩
    rw [hnone, hrefused, List.append_nil]
    exact List.Subset.refl _
  cases hact with
  | move hmove =>
    cases hmove with
    | enter hsender hopen _ => rw [hclosed] at hopen; contradiction
    | close => exact ⟨hkept _ rfl rfl rfl, rfl⟩
    | refuse => exact ⟨⟨rfl, by simp [submitted, Action.submission?]⟩, hclosed⟩
    | _ => exact ⟨hkept _ rfl rfl rfl, hclosed⟩
  | order horder =>
    cases horder with
    | turnDown => exact ⟨⟨rfl, List.Subset.refl _⟩, hclosed⟩
    | accept hopen hroom => rw [hclosed] at hopen; contradiction
    | lineUp hopen hroom => rw [hclosed] at hopen; contradiction
    | _ => exact ⟨hkept _ rfl rfl rfl, hclosed⟩
  | pass hlater => exact ⟨hkept _ rfl rfl rfl, hclosed⟩

/-- A closed inbox stays closed, and every submission to it is refused. -/
theorem perform_refuses {actions : List Action} (h : perform setup actions pool = some last)
    (hclosed : pool.closed = true) : Refuses pool last (submitted actions) := by
  induction actions generalizing pool with
  | nil => cases h; exact ⟨rfl, by simp [submitted]⟩
  | cons action rest ih =>
    obtain ⟨next, hact, hrest⟩ := perform_cons h
    obtain ⟨hrefuses, hnext⟩ := hact.refuses hclosed
    have hlast := ih hrest hnext
    refine ⟨hlast.accepted.trans hrefuses.accepted, ?_⟩
    rw [submitted_cons action rest, ← List.append_assoc]
    intro id hid
    apply hlast.refused
    rcases List.mem_append.mp hid with hid | hid
    · exact List.mem_append_left _ (hrefuses.refused hid)
    · exact List.mem_append_right _ hid

theorem Acts.reports_eq {action : Action} (hact : Acts setup pool action next)
    (hfinished : pool.isFinished = true) :
    next.reports = pool.reports ∧ next.isFinished = true := by
  cases hact with
  | move hmove =>
    cases hmove with
    | refuse hsender _ => exact ⟨rfl, hfinished⟩
    | enter hsender _ _ => exact ⟨rfl, hfinished⟩
    -- the workers have left, so none of them moves
    | _ =>
      have := eq_gone_of_isFinished hfinished (List.mem_of_getElem? (by assumption))
      contradiction
  | order horder => cases horder <;> exact ⟨rfl, hfinished⟩
  | pass hlater => exact ⟨rfl, hfinished⟩

/-- Nothing was reported or accepted on the way from one pool to a later one, and some submissions
were refused. -/
structure Idle (pool later : Pool σ) (ids : List RunId) : Prop extends Refuses pool later ids where
  reports : later.reports = pool.reports

theorem perform_idle {actions : List Action} (h : perform setup actions pool = some last)
    (horderly : pool.Orderly) (hfinished : pool.isFinished = true) :
    Idle pool last (submitted actions) := by
  have hclosed := horderly.closed _ (horderly.gone_mem hfinished) rfl
  refine ⟨perform_refuses h hclosed, (perform_induction
    (motive := fun later ↦ later.reports = pool.reports ∧ later.isFinished = true) ?_ h
    ⟨rfl, hfinished⟩).1⟩
  rintro earlier action later hact ⟨hreports, hfinished⟩
  obtain ⟨hsame, hlater⟩ := hact.reports_eq hfinished
  exact ⟨hsame.trans hreports, hlater⟩

/-- Once all workers have left, whatever happened before in whatever order: the reports are those of
the accepted submissions, each once; no refused submission has one; and from then on every
submission is refused and nothing else is reported. -/
theorem finished_reports_perm_accepted (setup : Setup σ) (n : Nat) (s : σ) (actions : List Action)
    (pool : Pool σ) (hperform : perform setup actions (start n s) = some pool)
    (hdistinct : (submitted actions).Nodup) (hfinished : pool.isFinished = true) :
    (pool.reports.map Report.runId).Perm pool.accepted ∧
      (pool.reports.map Report.runId).Nodup ∧
      (∀ id ∈ pool.refused, id ∉ pool.reports.map Report.runId) ∧
      ∀ more later, perform setup more pool = some later →
        later.reports = pool.reports ∧ later.accepted = pool.accepted ∧
          ∀ id ∈ submitted more, id ∈ later.refused := by
  have hbalanced : pool.Balanced :=
    perform_induction (fun _ _ _ hact hpool ↦ hact.balanced hpool) hperform (balanced_start n s)
  have horderly : pool.Orderly :=
    perform_induction (fun _ _ _ hact hpool ↦ hact.orderly hpool) hperform (orderly_start n s)
  have hperm := reported_perm_accepted hbalanced horderly hfinished
  have hentries (id : RunId) : pool.accepted.count id + pool.refused.count id ≤ 1 := by
    have hcount := perform_entries hperform id
    have honce := List.nodup_iff_count_le_one.mp hdistinct id
    have hstart : (start n s).entries id = 0 := rfl
    unfold entries at hcount hstart
    omega
  refine ⟨hperm, ?_, ?_, ?_⟩
  · apply hperm.nodup_iff.mpr
    apply List.nodup_iff_count_le_one.mpr
    intro id
    have := hentries id
    omega
  · intro id hrefused hreported
    have haccepted := List.count_pos_iff.mpr (hperm.subset hreported)
    have hrefused := List.count_pos_iff.mpr hrefused
    have := hentries id
    omega
  · intro more later hmore
    have hidle := perform_idle hmore horderly hfinished
    refine ⟨hidle.reports, hidle.accepted, fun id hid ↦ ?_⟩
    exact hidle.refused (List.mem_append_right _ hid)

/-- Stops after a failure, over a link that answers at once. -/
def calmSetup : Setup Unit where
  terms := ⟨"", Span.ofSeconds 30, fun _ ↦ .stop "", fun k ↦ ⟨Ulid.ofNat k⟩, .usual⟩
  link := fun _ _ ↦ (⟨.ok (.success 200 []), 0⟩, ())
  clock := fun _ ↦ ⟨0, 0⟩

/-- One payload is run, one is cleared out at shutdown and one comes too late. -/
def calmHistory : List Action :=
  let ticket (k : Nat) : Ticket := ⟨⟨Ulid.ofNat k⟩, "{}".toUTF8.toList⟩
  let worker (move : Move) : Action := .inner (.worker 0 move)
  [.outer (.submit (ticket 1)), .outer (.submit (ticket 2)), worker .look, worker .take,
    .outer .requestShutdown, worker .work, worker .work, worker .report, worker .look,
    worker .close, .outer (.submit (ticket 3)), worker .discard, worker .exit]

theorem finished_reports_perm_accepted_calm :
    ∃ pool, perform calmSetup calmHistory (start 1 ()) = some pool ∧
      (submitted calmHistory).Nodup ∧ pool.isFinished = true ∧
      pool.accepted = [⟨Ulid.ofNat 1⟩, ⟨Ulid.ofNat 2⟩] ∧ pool.refused = [⟨Ulid.ofNat 3⟩] ∧
      (pool.reports.map Report.runId).Perm [⟨Ulid.ofNat 1⟩, ⟨Ulid.ofNat 2⟩] ∧
      ⟨Ulid.ofNat 3⟩ ∉ pool.reports.map Report.runId := by
  have hany : ((perform calmSetup calmHistory (start 1 ())).any fun pool ↦ pool.isFinished &&
      decide (pool.accepted = [⟨Ulid.ofNat 1⟩, ⟨Ulid.ofNat 2⟩] ∧
        pool.refused = [⟨Ulid.ofNat 3⟩])) = true := by decide +kernel
  obtain ⟨pool, hperform, hpool⟩ := (Option.any_eq_true _ _).mp hany
  obtain ⟨hfinished, hpool⟩ := Bool.and_eq_true_iff.mp hpool
  obtain ⟨haccepted, hrefused⟩ := of_decide_eq_true hpool
  have hdistinct : (submitted calmHistory).Nodup := by decide +kernel
  obtain ⟨hperm, _, hnot, _⟩ := finished_reports_perm_accepted calmSetup 1 () calmHistory pool
    hperform hdistinct hfinished
  refine ⟨pool, hperform, hdistinct, hfinished, haccepted, hrefused, ?_, ?_⟩
  · rwa [haccepted] at hperm
  · exact hnot _ (by rw [hrefused]; exact List.mem_singleton_self _)

end Courier.Pool
