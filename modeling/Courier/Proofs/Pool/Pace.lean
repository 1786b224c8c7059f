import Courier.Proofs.Pool.Timely
import Courier.Proofs.Run.Pace

/-!
# The pace of a worker

In a timely pool that nobody cancels, over a link whose answers are settled by the bodies of the
requests, a worker takes its run through the very steps that the run takes alone from the same
moment on.  It reports what the run alone ends with, and not before the run alone ends.
-/

namespace Courier

variable {σ : Type} {setup : Pool.Setup σ} {s : σ} {answer : Bytes → Step}
  {pool next last : Pool σ} {index : Nat} {ticket : Ticket} {run : Run} {origin later : Moment}

namespace Ticket

/-- The run of the payload with the link to itself, from a moment on. -/
def alone (setup : Pool.Setup σ) (s : σ) (ticket : Ticket) (origin : Moment) : Solo σ :=
  Solo.startAt setup.terms ticket.payload none origin s

/-- A run of the payload has come as far as the run alone, started at the same moment. -/
def Paced (setup : Pool.Setup σ) (s : σ) (ticket : Ticket) (origin now : Moment) (run : Run) :
    Prop :=
  ∃ count,
    (ticket.alone setup s origin).Paced setup.terms setup.link now count run ⟨none, false⟩

theorem paced_start (setup : Pool.Setup σ) (s : σ) (ticket : Ticket) (origin : Moment) :
    ticket.Paced setup s origin origin (Run.start setup.terms ticket.payload origin) :=
  ⟨0, Solo.paced_self setup.terms setup.link (ticket.alone setup s origin)⟩

theorem Paced.move {now : Moment} {asked : List Request} {after : Run} {t : σ}
    (hanswers : setup.link.AnswersByBody s answer) (hpaced : ticket.Paced setup s origin now run)
    (hstep : run.step setup.terms setup.link now false (setup.link.told s asked) =
      some (after, t)) : ticket.Paced setup s origin now after := by
  obtain ⟨count, hcount⟩ := hpaced
  exact ⟨count + 1, hcount.move hanswers ⟨[], rfl⟩ hstep⟩

theorem Paced.ends {now : Moment} (hpaced : ticket.Paced setup s origin now run)
    (hover : run.isOver = true) :
    ∃ last, (ticket.alone setup s origin).Ends setup.terms setup.link last ∧
      last.run = run ∧ last.now ≤ now := by
  obtain ⟨count, hcount⟩ := hpaced
  exact hcount.ends hover

end Ticket

namespace Pool

/-! ## Waiting -/

/-- A run of a pool at rest waits. -/
theorem Quiet.awaits (hquiet : pool.Quiet setup)
    (hworker : pool.workers[index]? = some (.busy ticket run)) :
    run.Awaits pool.now ∧ pool.now < run.watch.deadline := by
  have hwork := hquiet.workerMove_eq_none hworker .work
  have hreport := hquiet.workerMove_eq_none hworker .report
  simp only [workerMove, Option.map_eq_none_iff] at hwork hreport
  rcases Run.step_eq_none_iff.mp hwork with hover | ⟨_, hearly, hawaits⟩
  · rw [if_pos hover] at hreport
    contradiction
  · exact ⟨hawaits, hearly⟩

theorem mem_alarms (hworker : pool.workers[index]? = some (.busy ticket run)) {alarm : Moment}
    (halarm : alarm ∈ run.alarms) : alarm ∈ pool.alarms :=
  List.mem_flatMap.mpr ⟨.busy ticket run, List.mem_of_getElem? hworker, halarm⟩

/-- A run keeps pace while the clock goes on to a moment that comes before none of its alarms. -/
theorem exists_paced_of_pass {count : Nat}
    (hpaced : (ticket.alone setup s origin).Paced setup.terms setup.link pool.now count run
      ⟨none, false⟩)
    (hworker : pool.workers[index]? = some (.busy ticket run))
    (hontime : (Action.pass later).OnTime setup pool) (hlater : pool.now ≤ later) :
    ∃ more, (ticket.alone setup s origin).Paced setup.terms setup.link later (count + more) run
      ⟨none, false⟩ := by
  rcases hlater.eq_or_lt with rfl | hlater
  · exact ⟨0, hpaced⟩
  · obtain ⟨hquiet, hwhole, hleast⟩ := hontime
    obtain ⟨hawaits, hearly⟩ := hquiet.awaits hworker
    have halarms : Solo.alarms run ⟨none, false⟩ = run.alarms := by
      simp [Solo.alarms, hawaits.isOver_eq_false, Token.alarms]
    obtain ⟨more, hmore, _⟩ := hpaced.tick (.idle hawaits hearly rfl rfl) hwhole hlater
      fun alarm halarm ↦ hleast alarm (mem_alarms hworker (halarms ▸ halarm))
    exact ⟨more, hmore⟩

theorem paced_of_pass (hpaced : ticket.Paced setup s origin pool.now run)
    (hworker : pool.workers[index]? = some (.busy ticket run))
    (hontime : (Action.pass later).OnTime setup pool) (hlater : pool.now ≤ later) :
    ticket.Paced setup s origin later run := by
  obtain ⟨count, hcount⟩ := hpaced
  obtain ⟨more, hmore⟩ := exists_paced_of_pass hcount hworker hontime hlater
  exact ⟨count + more, hmore⟩

/-! ## What a pool keeps -/

/-- Nothing has been cancelled, and every run keeps pace with the run alone. -/
structure Punctual (setup : Setup σ) (s : σ) (pool : Pool σ) : Prop where
  whole : Span.IsWhole pool.now
  uncancelled : pool.cancelled = false
  told : ∃ asked, pool.link = setup.link.told s asked
  paced : ∀ ticket run, .busy ticket run ∈ pool.workers → ∃ origin,
    Span.IsWhole origin ∧ origin ≤ pool.now ∧ ticket.Paced setup s origin pool.now run

theorem punctual_start (setup : Setup σ) (n : Nat) (s : σ) : (start n s).Punctual setup s where
  whole := Span.isWhole_zero
  uncancelled := rfl
  told := ⟨[], rfl⟩
  paced _ _ hworker := nomatch List.eq_of_mem_replicate hworker

theorem Punctual.setWorker (hpool : pool.Punctual setup s) (index : Nat) {worker : Worker}
    (hpaced : ∀ ticket run, worker = .busy ticket run → ∃ origin,
      Span.IsWhole origin ∧ origin ≤ pool.now ∧ ticket.Paced setup s origin pool.now run) :
    (pool.setWorker index worker).Punctual setup s where
  whole := hpool.whole
  uncancelled := hpool.uncancelled
  told := hpool.told
  paced ticket run hworker := by
    rcases List.mem_or_eq_of_mem_set hworker with hworker | hworker
    · exact hpool.paced ticket run hworker
    · exact hpaced ticket run hworker.symm

theorem Moves.punctual {action : Inner} (hanswers : setup.link.AnswersByBody s answer)
    (hmove : Moves setup pool action next) (hpool : pool.Punctual setup s) :
    next.Punctual setup s := by
  cases hmove with
  | @look index hworker =>
    refine hpool.setWorker index ?_
    split <;> exact fun _ _ ↦ (nomatch ·)
  | @take index ticket rest hworker hinbox =>
    have hrest : (pool.withoutFirst rest).Punctual setup s :=
      ⟨hpool.whole, hpool.uncancelled, hpool.told, hpool.paced⟩
    refine hrest.setWorker index ?_
    rintro _ _ ⟨⟩
    exact ⟨pool.now, hpool.whole, le_rfl, Ticket.paced_start setup s ticket pool.now⟩
  | @work index ticket run after t hworker hstep =>
    obtain ⟨asked, hlink⟩ := hpool.told
    rw [hpool.uncancelled, hlink] at hstep
    have hset : (pool.setWorker index (.busy ticket after)).Punctual setup s := by
      refine hpool.setWorker index ?_
      rintro _ _ ⟨⟩
      obtain ⟨origin, hwhole, horigin, hpaced⟩ :=
        hpool.paced ticket run (List.mem_of_getElem? hworker)
      exact ⟨origin, hwhole, horigin, hpaced.move hanswers hstep⟩
    obtain ⟨more, _, rfl⟩ := (Run.step_moves hstep).told_eq
    exact ⟨hset.whole, hset.uncancelled, ⟨asked ++ more, (Link.told_append asked more).symm⟩,
      hset.paced⟩
  | @report index ticket run hworker hover =>
    have hadd : (pool.addReport setup ticket run).Punctual setup s :=
      ⟨hpool.whole, hpool.uncancelled, hpool.told, hpool.paced⟩
    exact hadd.setWorker index fun _ _ ↦ (nomatch ·)
  | @close index hworker =>
    have hset : (pool.setWorker index .draining).Punctual setup s :=
      hpool.setWorker index fun _ _ ↦ (nomatch ·)
    exact ⟨hset.whole, hset.uncancelled, hset.told, hset.paced⟩
  | @stop index hworker hsignal => exact hpool.setWorker index fun _ _ ↦ (nomatch ·)
  | @hangUp index hworker hinbox hquiet => exact hpool.setWorker index fun _ _ ↦ (nomatch ·)
  | @exit index hworker hinbox => exact hpool.setWorker index fun _ _ ↦ (nomatch ·)
  | _ => exact ⟨hpool.whole, hpool.uncancelled, hpool.told, hpool.paced⟩

theorem Acts.punctual {action : Action} (hanswers : setup.link.AnswersByBody s answer)
    (hact : Acts setup pool action next) (hontime : action.OnTime setup pool)
    (hgoes : action.cancels = false) (hpool : pool.Punctual setup s) :
    next.Punctual setup s := by
  cases hact with
  | move hmove => exact hmove.punctual hanswers hpool
  | order horder =>
    cases horder with
    | cancel => contradiction
    | _ => exact ⟨hpool.whole, hpool.uncancelled, hpool.told, hpool.paced⟩
  | @pass later hlater =>
    refine ⟨hontime.2.1, hpool.uncancelled, hpool.told, fun ticket run hmem ↦ ?_⟩
    obtain ⟨index, hworker⟩ := List.mem_iff_getElem?.mp hmem
    obtain ⟨origin, hwhole, horigin, hpaced⟩ := hpool.paced ticket run hmem
    exact ⟨origin, hwhole, horigin.trans hlater,
      paced_of_pass hpaced hworker hontime hlater⟩

theorem Timely.punctual {actions : List Action} (hanswers : setup.link.AnswersByBody s answer)
    (htimely : Timely setup actions pool) (h : perform setup actions pool = some last)
    (hgoes : ∀ action ∈ actions, action.cancels = false) (hpool : pool.Punctual setup s) :
    last.Punctual setup s :=
  htimely.induction h
    (fun action haction _ _ hact hontime ↦
      (act_acts hact).punctual hanswers hontime (hgoes action haction))
    hpool

/-! ## What becomes of a run -/

/-- The run of a worker that started at a moment goes on, or has been reported as it ends alone. -/
inductive Followed (setup : Setup σ) (s : σ) (index : Nat) (ticket : Ticket) (origin : Moment)
    (pool : Pool σ) : Prop
  | going {run : Run} (hworker : pool.workers[index]? = some (.busy ticket run))
      (hpaced : ticket.Paced setup s origin pool.now run)
  | reported {last : Solo σ} {report : Report}
      (hends : (ticket.alone setup s origin).Ends setup.terms setup.link last)
      (hnow : last.now ≤ pool.now)
      (hlast : last.run.report? ticket.runId setup.clock = some report)
      (hreport : report ∈ pool.reports)

/-- A worker is left alone when another one changes. -/
theorem getElem?_setWorker_of_ne {changed : Nat} {worker other : Worker}
    (hworker : pool.workers[index]? = some worker)
    (hother : pool.workers[changed]? = some other) (hne : other ≠ worker) (new : Worker) :
    (pool.setWorker changed new).workers[index]? = some worker := by
  have hindex : changed ≠ index := by
    rintro rfl
    exact hne (Option.some.inj (hother.symm.trans hworker))
  rw [Pool.setWorker, List.getElem?_set_ne hindex, hworker]

theorem Moves.followed {action : Inner} (hanswers : setup.link.AnswersByBody s answer)
    (hmove : Moves setup pool action next) (hpool : pool.Punctual setup s)
    (hworker : pool.workers[index]? = some (.busy ticket run))
    (hpaced : ticket.Paced setup s origin pool.now run) :
    Followed setup s index ticket origin next := by
  have hkept {changed : Nat} {other : Worker} (hother : pool.workers[changed]? = some other)
      (hne : other ≠ .busy ticket run) (new : Worker) :
      (pool.setWorker changed new).workers[index]? = some (.busy ticket run) :=
    getElem?_setWorker_of_ne hworker hother hne new
  cases hmove with
  | look hother => exact .going (hkept hother (nomatch ·) _) hpaced
  | take hother hinbox => exact .going (hkept hother (nomatch ·) _) hpaced
  | stop hother hsignal => exact .going (hkept hother (nomatch ·) _) hpaced
  | hangUp hother hinbox hquiet => exact .going (hkept hother (nomatch ·) _) hpaced
  | close hother => exact .going (hkept hother (nomatch ·) _) hpaced
  | exit hother hinbox => exact .going (hkept hother (nomatch ·) _) hpaced
  | @work changed other old after t hother hstep =>
    rcases eq_or_ne changed index with rfl | hne
    · cases hother.symm.trans hworker
      obtain ⟨asked, hlink⟩ := hpool.told
      rw [hpool.uncancelled, hlink] at hstep
      have hindex := (List.getElem?_eq_some_iff.mp hworker).1
      exact .going (List.getElem?_set_self hindex) (hpaced.move hanswers hstep)
    · exact .going ((List.getElem?_set_ne hne).trans hworker) hpaced
  | @report changed other old hother hover =>
    rcases eq_or_ne changed index with rfl | hne
    · cases hother.symm.trans hworker
      obtain ⟨last, hends, rfl, hnow⟩ := hpaced.ends hover
      obtain ⟨ending, finishedAt, hphase⟩ := Run.isOver_eq_true_iff.mp hover
      refine .reported hends hnow (by rw [Run.report?, hphase]) ?_
      simp [Pool.setWorker, addReport, Run.report?, hphase]
    · exact .going ((List.getElem?_set_ne hne).trans hworker) hpaced
  | _ => exact .going hworker hpaced

theorem Acts.followed {action : Action} (hanswers : setup.link.AnswersByBody s answer)
    (hact : Acts setup pool action next) (hontime : action.OnTime setup pool)
    (hpool : pool.Punctual setup s) (hfollowed : Followed setup s index ticket origin pool) :
    Followed setup s index ticket origin next := by
  cases hfollowed with
  | going hworker hpaced =>
    cases hact with
    | move hmove => exact hmove.followed hanswers hpool hworker hpaced
    | order horder => cases horder <;> exact .going hworker hpaced
    | pass hlater =>
      exact .going hworker (paced_of_pass hpaced hworker hontime hlater)
  | reported hends hnow hlast hreport =>
    exact .reported hends (hnow.trans hact.now_le) hlast (hact.reports_subset hreport)

theorem Timely.followed {actions : List Action} (hanswers : setup.link.AnswersByBody s answer)
    (htimely : Timely setup actions pool) (h : perform setup actions pool = some last)
    (hgoes : ∀ action ∈ actions, action.cancels = false) (hpool : pool.Punctual setup s)
    (hworker : pool.workers[index]? = some (.busy ticket run))
    (hpaced : ticket.Paced setup s origin pool.now run) :
    Followed setup s index ticket origin last := by
  refine (htimely.induction h
    (motive := fun pool ↦ pool.Punctual setup s ∧ Followed setup s index ticket origin pool)
    ?_ ⟨hpool, .going hworker hpaced⟩).2
  rintro action haction pool next hact hontime ⟨hpool, hfollowed⟩
  exact ⟨(act_acts hact).punctual hanswers hontime (hgoes action haction) hpool,
    (act_acts hact).followed hanswers hontime hpool hfollowed⟩

end Pool

end Courier
