import Courier.Proofs.Pool.Custody
import Courier.Proofs.Pool.Undisturbed

/-!
# Payloads in a pool's care

A pool that is neither stopped nor cancelled has each payload that was submitted to it either still
in its hands or reported, and the report is one of a run of this payload.  Nothing is assumed of the
link or of the clock, which may go on at any time.
-/

namespace Courier

variable {σ : Type}

/-- What a run of a payload can have come to by a moment if nobody cancels it, over a link that
others may call as well. -/
inductive Run.Unfolds (terms : Terms) (link : Link σ) (payload : Bytes) (origin : Moment) :
    Moment → Run → Prop
  | start : Unfolds terms link payload origin origin (Run.start terms payload origin)
  | wait {now later : Moment} {run : Run} (hrun : Unfolds terms link payload origin now run)
      (hlater : now ≤ later) : Unfolds terms link payload origin later run
  | move {now : Moment} {run next : Run} {s t : σ}
      (hrun : Unfolds terms link payload origin now run)
      (hmove : run.Moves terms link now false s next t) :
      Unfolds terms link payload origin now next

theorem Run.Unfolds.within {terms : Terms} {link : Link σ} {payload : Bytes} {origin now : Moment}
    {run : Run} {bound : Nat} (hrun : Run.Unfolds terms link payload origin now run)
    (hstops : terms.StopsBy bound) (hbound : 0 < bound) : run.Within bound := by
  induction hrun with
  | start => exact within_start terms payload origin hbound
  | wait _ _ ih => exact ih
  | move _ hmove ih => exact hmove.within hstops ih

namespace Ticket

/-- The run of a payload can have come to this. -/
def Unfolds (setup : Pool.Setup σ) (ticket : Ticket) (now : Moment) (run : Run) : Prop :=
  ∃ origin, Run.Unfolds setup.terms setup.link ticket.payload origin now run

/-- A run of a payload, which nobody cancelled, can be reported like this. -/
def Yields (setup : Pool.Setup σ) (ticket : Ticket) (report : Report) : Prop :=
  ∃ now run, ticket.Unfolds setup now run ∧ run.report? ticket.runId setup.clock = some report

end Ticket

namespace Pool

variable {setup : Setup σ} {pool next : Pool σ} {all : List Ticket} {n : Nat} {s : σ}

/-! ## Runs in progress -/

/-- Each run in progress is one of the worker's payload. -/
def Unfolding (setup : Setup σ) (pool : Pool σ) : Prop :=
  ∀ ticket run, .busy ticket run ∈ pool.workers → ticket.Unfolds setup pool.now run

theorem Unfolding.setWorker (hpool : pool.Unfolding setup) (index : Nat) {worker : Worker}
    (hworker : ∀ ticket run, worker = .busy ticket run → ticket.Unfolds setup pool.now run) :
    (pool.setWorker index worker).Unfolding setup := by
  intro ticket run hbusy
  rcases List.mem_or_eq_of_mem_set hbusy with hbusy | hbusy
  · exact hpool ticket run hbusy
  · exact hworker ticket run hbusy.symm

theorem Moves.unfolding {action : Inner} (hmove : Moves setup pool action next)
    (huncancelled : pool.cancelled = false) (hpool : pool.Unfolding setup) :
    next.Unfolding setup := by
  cases hmove with
  | @look index hworker =>
    refine hpool.setWorker index ?_
    split <;> rintro _ _ ⟨⟩
  | @take index ticket rest hworker hinbox =>
    have hrest : (pool.withoutFirst rest).Unfolding setup := hpool
    refine hrest.setWorker index ?_
    rintro _ _ ⟨⟩
    exact ⟨pool.now, .start⟩
  | @work index ticket run after t hworker hstep =>
    have hset : (pool.setWorker index (.busy ticket after)).Unfolding setup := by
      refine hpool.setWorker index ?_
      rintro _ _ ⟨⟩
      obtain ⟨origin, hrun⟩ := hpool ticket run (List.mem_of_getElem? hworker)
      rw [huncancelled] at hstep
      exact ⟨origin, hrun.move (Run.step_moves hstep)⟩
    exact hset
  | @report index ticket run hworker hover =>
    have hadd : (pool.addReport setup ticket run).Unfolding setup := hpool
    exact hadd.setWorker index (by rintro _ _ ⟨⟩)
  | @close index hworker =>
    have hset : (pool.setWorker index .draining).Unfolding setup :=
      hpool.setWorker index (by rintro _ _ ⟨⟩)
    exact hset
  | @stop index => exact hpool.setWorker index (by rintro _ _ ⟨⟩)
  | @hangUp index => exact hpool.setWorker index (by rintro _ _ ⟨⟩)
  | @exit index => exact hpool.setWorker index (by rintro _ _ ⟨⟩)
  | discard => exact hpool
  | refuse => exact hpool
  | enter => exact hpool

theorem Acts.unfolding {action : Action} (hact : Acts setup pool action next)
    (huncancelled : pool.cancelled = false) (hpool : pool.Unfolding setup) :
    next.Unfolding setup := by
  cases hact with
  | move hmove => exact hmove.unfolding huncancelled hpool
  | order horder => cases horder <;> exact hpool
  | pass hlater =>
    intro ticket run hbusy
    obtain ⟨origin, hrun⟩ := hpool ticket run hbusy
    exact ⟨origin, hrun.wait hlater⟩

theorem Acts.uncancelled {action : Action} (hact : Acts setup pool action next)
    (hcalm : action.cancels = false) (huncancelled : pool.cancelled = false) :
    next.cancelled = false := by
  cases hact with
  | move hmove => cases hmove <;> exact huncancelled
  | order horder =>
    cases horder with
    | cancel => contradiction
    | _ => exact huncancelled
  | pass hlater => exact huncancelled

/-! ## Payloads in a pool's care -/

/-- The payloads in a pool's hands. -/
def unreported (setup : Setup σ) (pool : Pool σ) : List Ticket :=
  pool.holdings setup fun ticket _ ↦ some ticket

/-- A pool that nobody has stopped or cancelled has all these payloads in its care. -/
structure Tends (setup : Setup σ) (all : List Ticket) (pool : Pool σ) : Prop where
  goes : pool.GoesOn
  uncancelled : pool.cancelled = false
  unfolding : pool.Unfolding setup
  told : ∃ done, List.Forall₂ (Ticket.Yields setup) done pool.reports ∧
    (done ++ pool.unreported setup).Perm all

theorem tends_start (setup : Setup σ) (n : Nat) (s : σ) : (start n s).Tends setup [] where
  goes := goesOn_start n s
  uncancelled := rfl
  unfolding _ _ hworker := nomatch List.eq_of_mem_replicate hworker
  told := by
    have hidle (ticket : Ticket) (run : Run) : .busy ticket run ∉ (start n s).workers :=
      fun hbusy ↦ nomatch List.eq_of_mem_replicate hbusy
    refine ⟨[], .nil, ?_⟩
    rw [unreported, holdings, filterMap_holding_eq_nil hidle]
    exact .nil

theorem Moves.told {action : Inner} (hmove : Moves setup pool action next)
    (hpool : pool.Tends setup all) : ∃ done, List.Forall₂ (Ticket.Yields setup) done next.reports ∧
      (done ++ next.unreported setup).Perm all := by
  obtain ⟨done, hyields, hperm⟩ := hpool.told
  have hhandles : Handles setup (fun ticket _ ↦ some ticket) pool next :=
    hmove.handles hpool.goes fun _ _ _ _ _ _ ↦ rfl
  cases hhandles with
  | keeps hreports hheld =>
    rw [hreports]
    exact ⟨done, hyields, (hheld.append_left _).trans hperm⟩
  | @reports ticket run hworker hover hreports hheld =>
    obtain ⟨ending, finishedAt, hphase⟩ := Run.isOver_eq_true_iff.mp hover
    obtain ⟨report, hreport⟩ : ∃ report, run.report? ticket.runId setup.clock = some report := by
      simp [Run.report?, hphase]
    have hyield : ticket.Yields setup report :=
      ⟨pool.now, run, hpool.unfolding ticket run hworker, hreport⟩
    refine ⟨done ++ [ticket], ?_, ?_⟩
    · rw [hreports, hreport]
      exact List.rel_append hyields (.cons hyield .nil)
    · rw [List.append_assoc]
      exact (hheld.append_left _).trans hperm

theorem Orders.unreported_perm {ticket : Ticket} (horder : Orders pool (.submit ticket) next)
    (hgoes : pool.GoesOn) (hunspent : ¬ pool.Spent) (setup : Setup σ) :
    (next.unreported setup).Perm (pool.unreported setup ++ [ticket]) := by
  have huntaken := horder.untaken_perm hgoes hunspent
  have hworkers : next.workers = pool.workers := by cases horder <;> rfl
  have hfresh (now : Moment) (tickets : List Ticket) :
      tickets.filterMap (fresh setup (fun ticket _ ↦ some ticket) now) = tickets :=
    List.filterMap_some
  rw [unreported, unreported, holdings, holdings, hworkers, hfresh, hfresh, List.append_assoc]
  exact (huntaken.trans (List.perm_append_singleton _ _).symm).append_left _

theorem Tends.order {action : Outer} (hpool : pool.Tends setup all)
    (h : pool.outer action = some next) :
    ∃ done, List.Forall₂ (Ticket.Yields setup) done next.reports ∧
      (done ++ next.unreported setup).Perm (all ++ submissions [.outer action]) := by
  obtain ⟨done, hyields, hperm⟩ := hpool.told
  have horder := outer_orders h
  cases action with
  | submit ticket =>
    have hunspent := not_spent_of_submitters (submitters_pos_of_submit h)
    have hheld := horder.unreported_perm hpool.goes hunspent setup
    have hreports : next.reports = pool.reports := by cases horder <;> rfl
    refine ⟨done, hreports ▸ hyields, (hheld.append_left _).trans ?_⟩
    rw [← List.append_assoc]
    exact hperm.append_right _
  | _ =>
    rw [show submissions [.outer _] = [] from rfl, List.append_nil]
    cases horder
    exact ⟨done, hyields, hperm⟩

/-- What a pool has in its care is what was submitted to it. -/
theorem Tends.act {action : Action} (hpool : pool.Tends setup all)
    (h : pool.act setup action = some next) (hgoes : action.stopsPool = false)
    (hcalm : action.cancels = false) : next.Tends setup (all ++ submissions [action]) where
  goes := hpool.goes.act h hgoes
  uncancelled := (act_acts h).uncancelled hcalm hpool.uncancelled
  unfolding := (act_acts h).unfolding hpool.uncancelled hpool.unfolding
  told := by
    cases action with
    | inner action =>
      rw [show submissions [.inner action] = [] from rfl, List.append_nil]
      exact (inner_moves h).told hpool
    | outer action => exact hpool.order h
    | pass later =>
      rw [show submissions [.pass later] = [] from rfl, List.append_nil]
      cases act_acts h with
      | pass => exact hpool.told

/-- When all workers have left, every payload has its report. -/
theorem Tends.exists_reports (hpool : pool.Tends setup all) (hworkers : 0 < pool.workers.length)
    (hfinished : pool.isFinished = true) :
    ∃ reports, List.Forall₂ (Ticket.Yields setup) all reports ∧ reports.Perm pool.reports := by
  obtain ⟨done, hyields, hperm⟩ := hpool.told
  obtain ⟨worker, hworker⟩ := List.exists_mem_of_length_pos hworkers
  have hgone := eq_gone_of_isFinished hfinished hworker
  have hspent := hpool.goes.spent_of_through hworker (hgone ▸ rfl)
  have hidle (ticket : Ticket) (run : Run) : .busy ticket run ∉ pool.workers :=
    fun hbusy ↦ nomatch eq_gone_of_isFinished hfinished hbusy
  have hnone : pool.unreported setup = [] := by
    rw [unreported, holdings, filterMap_holding_eq_nil hidle, untaken, hspent.2.1, hspent.2.2]
    rfl
  rw [hnone, List.append_nil] at hperm
  exact List.perm_comp_forall₂ hperm.symm hyields

end Pool

end Courier
