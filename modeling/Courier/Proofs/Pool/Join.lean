import Courier.Proofs.Pool.Undisturbed
import Courier.Proofs.Pool.Weights
import Mathlib.Algebra.Order.BigOperators.Group.List
import Mathlib.Data.Prod.Lex
import Mathlib.Order.Lattice.Nat

/-!
# Joining a pool

Whatever a pool does by itself brings its workers nearer to their leaving, as long as the run of
every payload alone comes to an end: a payload that is taken leaves the inbox for good, and a step
of a run is one of those that the run alone has left.  So a pool comes to rest, and the clock takes
it on from rest to rest.  Once nobody is left who could submit there is an alarm to wait for until
the workers have left.
-/

namespace Courier

variable {σ : Type} {setup : Pool.Setup σ} {s : σ} {answer : Bytes → Step}
  {pool next last : Pool σ} {index : Nat} {ticket : Ticket} {run after : Run}
  {now later : Moment} {left : Nat}

namespace Ticket

/-- The run of the payload alone comes to an end, from whatever moment on. -/
def EndsAlone (setup : Pool.Setup σ) (s : σ) (ticket : Ticket) : Prop :=
  ∀ origin, Span.IsWhole origin →
    ∃ last, (ticket.alone setup s origin).Ends setup.terms setup.link last

/-- So many steps on from where a run of the payload stands, the run alone is over. -/
def Remains (setup : Pool.Setup σ) (s : σ) (ticket : Ticket) (now : Moment) (run : Run)
    (left : Nat) : Prop :=
  ∃ origin count,
    (ticket.alone setup s origin).Paced setup.terms setup.link now count run ⟨none, false⟩ ∧
      ((ticket.alone setup s origin).after setup.terms setup.link (count + left)).run.isOver = true

theorem EndsAlone.exists_remains {origin : Moment} (hends : ticket.EndsAlone setup s)
    (hwhole : Span.IsWhole origin) (hpaced : ticket.Paced setup s origin now run) :
    ∃ left, ticket.Remains setup s now run left := by
  obtain ⟨count, hcount⟩ := hpaced
  obtain ⟨last, enough, hlast⟩ := hends origin hwhole
  obtain ⟨rfl, hover⟩ := Solo.finish?_eq_some_iff.mp (hlast (count + enough) (Nat.le_add_left _ _))
  exact ⟨enough, origin, count, hcount, hover⟩

/-- A step of a run is one of those that are left. -/
theorem Remains.move {asked : List Request} {t : σ} (hanswers : setup.link.AnswersByBody s answer)
    (hremains : ticket.Remains setup s now run left)
    (hstep : run.step setup.terms setup.link now false (setup.link.told s asked) =
      some (after, t)) : ∃ fewer < left, ticket.Remains setup s now after fewer := by
  obtain ⟨origin, count, hcount, hover⟩ := hremains
  have hnext := hcount.move hanswers ⟨[], rfl⟩ hstep
  have hless : count + 1 ≤ count + left := hnext.le hover
  refine ⟨left - 1, by omega, origin, count + 1, hnext, ?_⟩
  rwa [show count + 1 + (left - 1) = count + left by omega]

theorem Remains.pass (hremains : ticket.Remains setup s pool.now run left)
    (hworker : pool.workers[index]? = some (.busy ticket run))
    (hontime : (Pool.Action.pass later).OnTime setup pool) (hlater : pool.now ≤ later) :
    ∃ fewer ≤ left, ticket.Remains setup s later run fewer := by
  obtain ⟨origin, count, hcount, hover⟩ := hremains
  obtain ⟨more, hmore⟩ := Pool.exists_paced_of_pass hcount hworker hontime hlater
  have hless : count + more ≤ count + left := hmore.le hover
  refine ⟨left - more, Nat.sub_le _ _, origin, count + more, hmore, ?_⟩
  rwa [show count + more + (left - more) = count + left by omega]

end Ticket

/-- How many moves a worker has before it at most, if it takes no payload any more. -/
noncomputable def Worker.weight (setup : Pool.Setup σ) (s : σ) (now : Moment) : Worker → Nat
  | .gone => 0
  | .draining => 1
  | .leaving => 2
  | .listening => 3
  | .arriving => 4
  | .busy ticket run => 5 + sInf {left | ticket.Remains setup s now run left}

namespace Pool

/-! ## The load of a pool -/

/-- What a pool has before it.  The payloads that are still to be taken come first, since one that has
been taken may weigh any amount; a submission that waits has to enter the inbox, and counts twice. -/
noncomputable def load (setup : Setup σ) (s : σ) (pool : Pool σ) : ℕ ×ₗ ℕ :=
  toLex (2 * pool.senders.length + pool.inbox.length,
    (pool.workers.map (Worker.weight setup s pool.now)).sum)

/-- The runs of a pool all come to an end alone. -/
def RunsEnd (setup : Setup σ) (s : σ) (pool : Pool σ) : Prop :=
  ∀ ticket run, .busy ticket run ∈ pool.workers → ticket.EndsAlone setup s

theorem load_eq (s : σ) (pool : Pool σ) : pool.load setup s = toLex (pool.payloads,
    pool.burden fun ticket run ↦ sInf {left | ticket.Remains setup s pool.now run left}) := by
  have hweight : Worker.weight setup s pool.now = Worker.weightBy fun ticket run ↦
      sInf {left | ticket.Remains setup s pool.now run left} := by
    funext worker
    cases worker <;> rfl
  rw [load, hweight]
  rfl

/-- Whatever a pool does by itself lessens its load. -/
theorem Moves.load_lt {action : Inner} (hanswers : setup.link.AnswersByBody s answer)
    (hmove : Moves setup pool action next) (hpace : pool.Punctual setup s)
    (hends : pool.RunsEnd setup s) : next.load setup s < pool.load setup s := by
  have heases : Eases setup
      (fun ticket run ↦ sInf {left | ticket.Remains setup s pool.now run left}) pool next := by
    refine hmove.eases fun index ticket run after t hworker hstep ↦ ?_
    have hbusy := List.mem_of_getElem? hworker
    obtain ⟨asked, hlink⟩ := hpace.told
    rw [hpace.uncancelled, hlink] at hstep
    obtain ⟨origin, hwhole, _, hpaced⟩ := hpace.paced ticket run hbusy
    have hremains := Nat.sInf_mem ((hends ticket run hbusy).exists_remains hwhole hpaced)
    obtain ⟨fewer, hfewer, hnext⟩ := Ticket.Remains.move hanswers hremains hstep
    exact (Nat.sInf_le hnext).trans_lt hfewer
  rw [load_eq, load_eq, hmove.now_eq]
  cases heases with
  | worker hpayloads hburden => exact Prod.Lex.toLex_lt_toLex.mpr (.inr ⟨hpayloads, hburden⟩)
  | taken _ hpayloads | payload hpayloads => exact Prod.Lex.toLex_lt_toLex.mpr (.inl hpayloads)

section Undisturbed

variable {n : Nat} {actions more : List Action}

theorem Undisturbed.continues (hpool : Undisturbed setup n s actions pool)
    (hmore : Continues setup pool more last) :
    Undisturbed setup n s (actions ++ more) last ∧
      submissions (actions ++ more) = submissions actions := by
  have hnone : submissions more = [] := by
    refine List.filterMap_eq_nil_iff.mpr fun action haction ↦ ?_
    cases action with
    | outer order => exact nomatch hmore.own _ haction
    | _ => rfl
  have hsame : submissions (actions ++ more) = submissions actions := by
    rw [submissions, List.filterMap_append, ← submissions, ← submissions, hnone, List.append_nil]
  have hmild : ∀ action ∈ more, action.stopsPool = false ∧ action.cancels = false := by
    intro action haction
    cases action with
    | outer order => exact nomatch hmore.own _ haction
    | _ => exact ⟨rfl, rfl⟩
  refine ⟨⟨?_, hpool.timely.append hpool.performed hmore.timely, ?_, ?_, ?_⟩, hsame⟩
  · rw [perform_append, hpool.performed, Option.bind_some, hmore.performed]
  · exact fun action haction ↦ (List.mem_append.mp haction).elim (hpool.goes action)
      fun hmem ↦ (hmild action hmem).1
  · exact fun action haction ↦ (List.mem_append.mp haction).elim (hpool.calm action)
      fun hmem ↦ (hmild action hmem).2
  · rw [submitted_eq, hsame, ← submitted_eq]
    exact hpool.distinct

theorem Undisturbed.runsEnd (hpool : Undisturbed setup n s actions pool)
    (hanswers : setup.link.AnswersByBody s answer)
    (hends : ∀ ticket ∈ submissions actions, ticket.EndsAlone setup s) :
    pool.RunsEnd setup s :=
  fun ticket run hbusy ↦ hends ticket ((hpool.serves hanswers).2.2.running ticket run hbusy)

/-! ## Coming to rest -/

/-- With enough actions a pool comes to rest as another. -/
def SettlesAs (setup : Setup σ) (pool rest : Pool σ) : Prop :=
  ∃ enough, ∀ fuel ≥ enough, pool.settle setup fuel = rest

theorem settle_of_quiet (hquiet : pool.Quiet setup) (fuel : Nat) :
    pool.settle setup fuel = pool := by
  cases fuel with
  | zero => rfl
  | succ fuel => rw [settle, next?_eq_none_iff.mpr hquiet]

/-- A pool comes to rest, and it has a lesser load then unless it is at rest already. -/
theorem Undisturbed.settles (hpool : Undisturbed setup n s actions pool)
    (hanswers : setup.link.AnswersByBody s answer)
    (hends : ∀ ticket ∈ submissions actions, ticket.EndsAlone setup s) :
    ∃ rest more, pool.SettlesAs setup rest ∧ rest.Quiet setup ∧ Continues setup pool more rest ∧
      (pool.Quiet setup ∧ rest = pool ∨ rest.load setup s < pool.load setup s) := by
  induction hload : pool.load setup s using WellFoundedLT.induction generalizing pool actions with
  | ind load ih =>
    cases hnext : pool.next? setup with
    | none =>
      have hquiet := next?_eq_none_iff.mp hnext
      exact ⟨pool, [], ⟨0, fun fuel _ ↦ settle_of_quiet hquiet fuel⟩, hquiet,
        continues_nil setup pool, .inl ⟨hquiet, rfl⟩⟩
    | some next =>
      obtain ⟨action, hinner⟩ := exists_inner_of_next? hnext
      have hless : next.load setup s < load := by
        rw [← hload]
        exact (inner_moves hinner).load_lt hanswers (hpool.serves hanswers).2.1
          (hpool.runsEnd hanswers hends)
      have hact : pool.act setup (.inner action) = some next := hinner
      have hfirst := continues_single hact trivial rfl
      obtain ⟨hcontinued, hsame⟩ := hpool.continues hfirst
      obtain ⟨rest, more, ⟨enough, hsettle⟩, hquiet, hmore, hlesser⟩ :=
        ih _ hless hcontinued (hsame ▸ hends) rfl
      refine ⟨rest, [.inner action] ++ more, ⟨enough + 1, fun fuel hfuel ↦ ?_⟩, hquiet,
        hfirst.trans hmore, .inr ?_⟩
      · obtain ⟨fuel, rfl⟩ := Nat.exists_eq_add_of_le' (Nat.le_of_add_left_le hfuel)
        rw [settle, hnext]
        exact hsettle fuel (Nat.le_of_succ_le_succ hfuel)
      · rcases hlesser with ⟨_, rfl⟩ | hlesser
        · exact hless
        · exact hlesser.trans hless

/-- A pool at rest whose workers have not left has a run in progress, if nobody is left who could
submit. -/
theorem GoesOn.exists_running (hpool : pool.GoesOn) (hquiet : pool.Quiet setup)
    (hdropped : pool.submitters = 0) (hunfinished : pool.isFinished = false) :
    ∃ worker ∈ pool.workers, worker.isRunning = true := by
  obtain ⟨worker, hworker, hstays⟩ : ∃ worker ∈ pool.workers, isGone worker = false := by
    simpa [isFinished] using hunfinished
  rcases hquiet.worker_cases hworker with hrunning | rfl | ⟨rfl, hinbox, _⟩
  · exact ⟨worker, hworker, hrunning⟩
  · contradiction
  · -- No submission waits either, so this worker would hang up.
    have hsenders : pool.senders = [] := (hpool.idle hquiet hworker rfl).2
    obtain ⟨index, hindex⟩ := List.mem_iff_getElem?.mp hworker
    have hhangUp := hquiet.workerMove_eq_none hindex .hangUp
    simp [workerMove, hinbox, isOpen, hdropped, hsenders] at hhangUp

/-- The moments for which a pool at rest makes the clock stop are all to come. -/
theorem Quiet.lt_of_mem_alarms (hquiet : pool.Quiet setup) {alarm : Moment}
    (halarm : alarm ∈ pool.alarms) : pool.now < alarm := by
  obtain ⟨worker, hworker, hmem⟩ := List.mem_flatMap.mp halarm
  obtain ⟨index, hindex⟩ := List.mem_iff_getElem?.mp hworker
  cases worker with
  | busy ticket run =>
    obtain ⟨hawaits, hearly⟩ := hquiet.awaits hindex
    exact hawaits.lt_of_mem_alarms hearly hmem
  | _ => contradiction

/-- A pool is not at rest any more when the clock has reached one of its alarms. -/
theorem not_quiet_pass {alarm moment : Moment} (halarm : alarm ∈ pool.alarms)
    (hreached : alarm ≤ moment) : ¬ Quiet setup { pool with now := moment } :=
  fun hquiet ↦ (hquiet.lt_of_mem_alarms halarm).not_ge hreached

/-- The clock goes on from a pool at rest with a run in progress, and the pool is not at rest any
more then. -/
theorem Quiet.exists_pass (hquiet : pool.Quiet setup) {worker : Worker}
    (hworker : worker ∈ pool.workers) (hrunning : worker.isRunning = true) :
    ∃ moment, nextMoment pool.alarms = some moment ∧ pool.now ≤ moment ∧
      (Action.pass moment).OnTime setup pool ∧
      ¬ Quiet setup { pool with now := moment } := by
  cases hnext : nextMoment pool.alarms with
  | none =>
    have hnone := nextMoment_eq_none_iff.mp hnext
    obtain ⟨index, hindex⟩ := List.mem_iff_getElem?.mp hworker
    cases worker with
    | busy ticket run =>
      have hmem := mem_alarms hindex (hquiet.awaits hindex).1.deadline_mem_alarms
      exact absurd hnone (List.ne_nil_of_mem hmem)
    | _ => contradiction
  | some moment =>
    obtain ⟨⟨alarm, halarm, rfl⟩, hleast⟩ := nextMoment_spec hnext
    have hreached := Span.le_ceilMillis alarm
    refine ⟨_, rfl, ((hquiet.lt_of_mem_alarms halarm).trans_le hreached).le,
      ⟨hquiet, Span.isWhole_ceilMillis alarm, hleast⟩, not_quiet_pass halarm hreached⟩

end Undisturbed

end Pool

end Courier
