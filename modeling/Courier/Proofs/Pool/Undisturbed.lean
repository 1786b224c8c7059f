import Courier.Proofs.Pool.Finish
import Courier.Proofs.Pool.Pace

/-!
# Undisturbed pools

As long as a pool is neither cancelled nor told to stop, it serves whatever is submitted to it: all
that it holds are submissions, each report is that of a submission's run alone, and when the workers
have left every submission has its report.
-/

namespace Courier.Pool

variable {σ : Type} {setup : Setup σ} {s : σ} {answer : Bytes → Step} {pool next : Pool σ}
  {all : List Ticket} {now : Moment} {actions : List Action} {n : Nat}

/-- The payloads that were submitted. -/
def submissions (actions : List Action) : List Ticket := actions.filterMap Action.submission?

theorem submitted_eq (actions : List Action) :
    submitted actions = (submissions actions).map Ticket.runId :=
  List.map_filterMap.symm

/-! ## Reports of runs alone -/

/-- A report that one of some payloads has when it is run alone, from some moment on. -/
inductive Served (setup : Setup σ) (s : σ) (all : List Ticket) (now : Moment) (report : Report) :
    Prop
  | alone {ticket : Ticket} {origin : Moment} {last : Solo σ} (hticket : ticket ∈ all)
      (hwhole : Span.IsWhole origin) (horigin : origin ≤ now)
      (hends : (ticket.alone setup s origin).Ends setup.terms setup.link last)
      (hreport : last.run.report? ticket.runId setup.clock = some report)

theorem Served.mono {later : Moment} {report : Report}
    (hserved : Served setup s all now report) (hle : now ≤ later) :
    Served setup s all later report := by
  obtain ⟨hticket, hwhole, horigin, hends, hreport⟩ := hserved
  exact .alone hticket hwhole (horigin.trans hle) hends hreport

/-- All that a pool holds are submitted payloads, and all that it has reported are their runs. -/
structure Serves (setup : Setup σ) (s : σ) (all : List Ticket) (pool : Pool σ) : Prop where
  lined : pool.senders.map Sender.ticket ⊆ all
  queued : pool.inbox ⊆ all
  running : ∀ ticket run, .busy ticket run ∈ pool.workers → ticket ∈ all
  served : ∀ report ∈ pool.reports, Served setup s all pool.now report
  unrefused : pool.refused = []

theorem serves_start (setup : Setup σ) (n : Nat) (s : σ) (all : List Ticket) :
    (start n s).Serves setup s all where
  lined := List.nil_subset _
  queued := List.nil_subset _
  running _ _ hworker := nomatch List.eq_of_mem_replicate hworker
  served _ hreport := nomatch hreport
  unrefused := rfl

theorem Serves.setWorker (hpool : pool.Serves setup s all) (index : Nat) {worker : Worker}
    (hworker : ∀ ticket run, worker = .busy ticket run → ticket ∈ all) :
    (pool.setWorker index worker).Serves setup s all where
  lined := hpool.lined
  queued := hpool.queued
  running ticket run hbusy := by
    rcases List.mem_or_eq_of_mem_set hbusy with hbusy | hbusy
    · exact hpool.running ticket run hbusy
    · exact hworker ticket run hbusy.symm
  served := hpool.served
  unrefused := hpool.unrefused

theorem Moves.serves {action : Inner} (hmove : Moves setup pool action next)
    (hgoes : pool.GoesOn) (hpace : pool.Punctual setup s) (hpool : pool.Serves setup s all) :
    next.Serves setup s all := by
  cases hmove with
  | @look index hworker =>
    refine hpool.setWorker index ?_
    split <;> rintro _ _ ⟨⟩
  | @take index ticket rest hworker hinbox =>
    have hfull : ticket :: rest ⊆ all := hinbox ▸ hpool.queued
    have hrest : (pool.withoutFirst rest).Serves setup s all := {
      lined := by
        rw [withoutFirst, map_ticket_grantFirst]
        exact hpool.lined
      queued := (List.cons_subset.mp hfull).2
      running := hpool.running
      served := hpool.served
      unrefused := hpool.unrefused }
    refine hrest.setWorker index ?_
    rintro _ _ ⟨⟩
    exact (List.cons_subset.mp hfull).1
  | @work index ticket run after t hworker hstep =>
    have hset : (pool.setWorker index (.busy ticket after)).Serves setup s all := by
      refine hpool.setWorker index ?_
      rintro _ _ ⟨⟩
      exact hpool.running ticket run (List.mem_of_getElem? hworker)
    exact ⟨hset.lined, hset.queued, hset.running, hset.served, hset.unrefused⟩
  | @report index ticket run hworker hover =>
    have hbusy := List.mem_of_getElem? hworker
    have hadd : (pool.addReport setup ticket run).Serves setup s all := by
      refine ⟨hpool.lined, hpool.queued, hpool.running, fun report hreport ↦ ?_, hpool.unrefused⟩
      rcases List.mem_append.mp hreport with hreport | hreport
      · exact hpool.served report hreport
      · obtain ⟨origin, hwhole, horigin, hpaced⟩ := hpace.paced ticket run hbusy
        obtain ⟨last, hends, rfl, _⟩ := hpaced.ends hover
        exact .alone (hpool.running ticket _ hbusy) hwhole horigin hends
          (Option.mem_toList.mp hreport)
    exact hadd.setWorker index (by rintro _ _ ⟨⟩)
  | discard hworker hinbox =>
    have hspent := hgoes.spent_of_through (List.mem_of_getElem? hworker) rfl
    exact absurd hspent (not_spent_of_inbox hinbox)
  | refuse hsender hclosed =>
    exact absurd (hgoes.spent_of_closed hclosed) (not_spent_of_sender hsender)
  | @enter index sender hsender hopen hgranted =>
    have hsenders : (pool.senders.eraseIdx index).map Sender.ticket ⊆ all :=
      List.Subset.trans (List.map_subset _ List.eraseIdx_subset) hpool.lined
    have hticket : sender.ticket ∈ all :=
      hpool.lined (List.mem_map_of_mem (List.mem_of_getElem? hsender))
    exact ⟨hsenders, List.append_subset.mpr ⟨hpool.queued, by simpa using hticket⟩, hpool.running,
      hpool.served, hpool.unrefused⟩
  | @close index hworker =>
    have hset : (pool.setWorker index .draining).Serves setup s all :=
      hpool.setWorker index (by rintro _ _ ⟨⟩)
    exact ⟨hset.lined, hset.queued, hset.running, hset.served, hset.unrefused⟩
  | @stop index hworker hsignal => exact hpool.setWorker index (by rintro _ _ ⟨⟩)
  | @hangUp index hworker hinbox hquiet => exact hpool.setWorker index (by rintro _ _ ⟨⟩)
  | @exit index hworker hinbox => exact hpool.setWorker index (by rintro _ _ ⟨⟩)

theorem Serves.act {action : Action} (hpool : pool.Serves setup s all)
    (h : pool.act setup action = some next) (hknown : ∀ ticket ∈ action.submission?, ticket ∈ all)
    (hgoes : pool.GoesOn) (hpace : pool.Punctual setup s) : next.Serves setup s all := by
  cases act_acts h with
  | move hmove => exact hmove.serves hgoes hpace hpool
  | order horder =>
    cases horder with
    | turnDown hclosed =>
      have hunspent := not_spent_of_submitters (submitters_pos_of_submit h)
      exact absurd (hgoes.spent_of_closed hclosed) hunspent
    | @accept ticket hopen hroom =>
      have hticket : ticket ∈ all := hknown ticket rfl
      exact ⟨hpool.lined, List.append_subset.mpr ⟨hpool.queued, by simpa using hticket⟩,
        hpool.running, hpool.served, hpool.unrefused⟩
    | @lineUp ticket hopen hroom =>
      have hticket : ticket ∈ all := hknown ticket rfl
      refine ⟨?_, hpool.queued, hpool.running, hpool.served, hpool.unrefused⟩
      rw [List.map_append]
      exact List.append_subset.mpr ⟨hpool.lined, by simpa using hticket⟩
    | _ => exact ⟨hpool.lined, hpool.queued, hpool.running, hpool.served, hpool.unrefused⟩
  | pass hlater =>
    exact ⟨hpool.lined, hpool.queued, hpool.running,
      fun report hreport ↦ (hpool.served report hreport).mono hlater, hpool.unrefused⟩

/-! ## Undisturbed pools -/

/-- A timely history of a new pool that is neither cancelled nor told to stop. -/
structure Undisturbed (setup : Setup σ) (n : Nat) (s : σ) (actions : List Action) (pool : Pool σ) :
    Prop where
  performed : perform setup actions (start n s) = some pool
  timely : Timely setup actions (start n s)
  goes : ∀ action ∈ actions, action.stopsPool = false
  calm : ∀ action ∈ actions, action.cancels = false
  distinct : (submitted actions).Nodup

theorem Undisturbed.serves (hpool : Undisturbed setup n s actions pool)
    (hanswers : setup.link.AnswersByBody s answer) :
    pool.GoesOn ∧ pool.Punctual setup s ∧ pool.Serves setup s (submissions actions) := by
  refine hpool.timely.induction hpool.performed
    (motive := fun pool ↦ pool.GoesOn ∧ pool.Punctual setup s ∧
      pool.Serves setup s (submissions actions)) ?_
    ⟨goesOn_start n s, punctual_start setup n s, serves_start setup n s _⟩
  rintro action haction pool next hact hontime ⟨hgoes, hpace, hserves⟩
  refine ⟨hgoes.act hact (hpool.goes action haction),
    (act_acts hact).punctual hanswers hontime (hpool.calm action haction) hpace,
    hserves.act hact (fun ticket hticket ↦ ?_) hgoes hpace⟩
  exact List.mem_filterMap.mpr ⟨action, haction, hticket⟩

/-- The identifier of a report tells its payload, and the report is that of its run alone. -/
theorem Undisturbed.alone (hpool : Undisturbed setup n s actions pool)
    (hanswers : setup.link.AnswersByBody s answer) {ticket : Ticket} {report : Report}
    (hticket : ticket ∈ submissions actions) (hreport : report ∈ pool.reports)
    (hid : report.runId = ticket.runId) :
    ∃ origin ≤ pool.now, Span.IsWhole origin ∧
      ∃ last, (ticket.alone setup s origin).Ends setup.terms setup.link last ∧
        last.run.report? ticket.runId setup.clock = some report := by
  have hdistinct := hpool.distinct
  rw [submitted_eq] at hdistinct
  obtain ⟨hfound, hwhole, horigin, hends, hlast⟩ :=
    (hpool.serves hanswers).2.2.served report hreport
  have hsame := List.inj_on_of_nodup_map hdistinct hfound hticket
    ((Run.runId_of_report? hlast).symm.trans hid)
  subst hsame
  exact ⟨_, horigin, hwhole, _, hends, hlast⟩

end Courier.Pool
