import Courier.Proofs.Pool.Moves
import Courier.Proofs.Run.Path

/-!
# Histories of a pool

A history is a list of what was done by a pool, to it and by the clock.  Each action has to be
possible in its turn, and that is all: every interleaving is a history, and the clock may go forward
at any point.
-/

namespace Courier.Pool

variable {σ : Type} {setup : Setup σ} {pool next last : Pool σ}

inductive Action where
  | inner (action : Inner)
  | outer (action : Outer)
  | pass (later : Moment)

/-- What an action leads to, where it is possible. -/
def act (setup : Setup σ) (pool : Pool σ) : Action → Option (Pool σ)
  | .inner action => pool.inner setup action
  | .outer action => pool.outer action
  | .pass later => if pool.now ≤ later then some { pool with now := later } else none

/-- The pool after a history. -/
def perform (setup : Setup σ) : List Action → Pool σ → Option (Pool σ)
  | [], pool => some pool
  | action :: rest, pool => (pool.act setup action).bind (perform setup rest)

def Action.submission? : Action → Option Ticket
  | .outer (.submit ticket) => some ticket
  | _ => none

/-- The identifiers that were generated for submissions. -/
def submitted (actions : List Action) : List RunId :=
  actions.filterMap fun action ↦ action.submission?.map Ticket.runId

theorem submitted_cons (action : Action) (rest : List Action) :
    submitted (action :: rest) = submitted [action] ++ submitted rest := by
  unfold submitted
  rw [← List.filterMap_append]
  rfl

theorem submitted_append (actions more : List Action) :
    submitted (actions ++ more) = submitted actions ++ submitted more :=
  List.filterMap_append

inductive Acts (setup : Setup σ) (pool : Pool σ) : Action → Pool σ → Prop
  | move {action : Inner} {next : Pool σ} (hmove : Moves setup pool action next) :
      Acts setup pool (.inner action) next
  | order {action : Outer} {next : Pool σ} (horder : Orders pool action next) :
      Acts setup pool (.outer action) next
  | pass {later : Moment} (hlater : pool.now ≤ later) :
      Acts setup pool (.pass later) { pool with now := later }

theorem act_acts {action : Action} (h : pool.act setup action = some next) :
    Acts setup pool action next := by
  cases action with
  | inner action => exact .move (inner_moves h)
  | outer action => exact .order (outer_orders h)
  | pass later =>
    simp only [act] at h
    split at h
    · next hlater => cases h; exact .pass hlater
    · contradiction

theorem perform_cons {action : Action} {rest : List Action}
    (h : perform setup (action :: rest) pool = some last) :
    ∃ next, Acts setup pool action next ∧ perform setup rest next = some last := by
  obtain ⟨next, hact, hrest⟩ := Option.bind_eq_some_iff.mp h
  exact ⟨next, act_acts hact, hrest⟩

/-- What every action keeps holds after every history. -/
theorem perform_induction {motive : Pool σ → Prop} {actions : List Action}
    (hact : ∀ pool action next, Acts setup pool action next → motive pool → motive next)
    (h : perform setup actions pool = some last) (hpool : motive pool) : motive last := by
  induction actions generalizing pool with
  | nil => cases h; exact hpool
  | cons action rest ih =>
    obtain ⟨next, hnext, hrest⟩ := perform_cons h
    exact ih hrest (hact pool action next hnext hpool)

theorem perform_append (setup : Setup σ) (actions more : List Action) (pool : Pool σ) :
    perform setup (actions ++ more) pool =
      (perform setup actions pool).bind (perform setup more) := by
  induction actions generalizing pool with
  | nil => rfl
  | cons action rest ih =>
    rw [List.cons_append, perform, perform, Option.bind_assoc]
    exact congrArg _ (funext ih)

theorem perform_through {first : Pool σ} {before after : List Action} {action : Action}
    (hbefore : perform setup before first = some pool) (hact : pool.act setup action = some next)
    (hafter : perform setup after next = some last) :
    perform setup (before ++ action :: after) first = some last := by
  rw [perform_append, hbefore, Option.bind_some]
  exact Option.bind_eq_some_iff.mpr ⟨next, hact, hafter⟩

/-! ## What only grows -/

theorem Moves.now_eq {action : Inner} (hmove : Moves setup pool action next) :
    next.now = pool.now := by
  cases hmove <;> rfl

theorem Acts.now_le {action : Action} (hact : Acts setup pool action next) :
    pool.now ≤ next.now := by
  cases hact with
  | move hmove => exact Nat.le_of_eq hmove.now_eq.symm
  | order horder => cases horder <;> exact Nat.le_refl _
  | pass hlater => exact hlater

theorem Acts.reports_subset {action : Action} (hact : Acts setup pool action next) :
    pool.reports ⊆ next.reports := by
  cases hact with
  | move hmove =>
    cases hmove with
    | report => exact List.subset_append_left _ _
    | discard => exact List.subset_append_left _ _
    | _ => exact List.Subset.refl _
  | order horder => cases horder <;> exact List.Subset.refl _
  | pass hlater => exact List.Subset.refl _

theorem perform_reports_subset {actions : List Action} (h : perform setup actions pool = some last) :
    pool.reports ⊆ last.reports := by
  refine perform_induction (motive := fun later ↦ pool.reports ⊆ later.reports) ?_ h
    (List.Subset.refl _)
  exact fun _ _ _ hact hsubset ↦ List.Subset.trans hsubset hact.reports_subset

/-! ## What all runs keep -/

/-- All runs of the pool have something, and so had those that it has reported. -/
structure Keeps (setup : Setup σ) (motive : Run → Prop) (pool : Pool σ) : Prop where
  running : ∀ ticket run, .busy ticket run ∈ pool.workers → motive run
  reported : ∀ report ∈ pool.reports, ∃ id run, motive run ∧
    run.report? id setup.clock = some report

section Keeps

variable {motive : Run → Prop}

theorem Keeps.setWorker (hpool : pool.Keeps setup motive) (index : Nat) {worker : Worker}
    (hworker : ∀ ticket run, worker = .busy ticket run → motive run) :
    (pool.setWorker index worker).Keeps setup motive where
  running ticket run hbusy := by
    rcases List.mem_or_eq_of_mem_set hbusy with hbusy | hbusy
    · exact hpool.running ticket run hbusy
    · exact hworker ticket run hbusy.symm
  reported := hpool.reported

theorem Keeps.addReport {ticket : Ticket} {run : Run} (hpool : pool.Keeps setup motive)
    (hrun : motive run) : (pool.addReport setup ticket run).Keeps setup motive where
  running := hpool.running
  reported report hreport := by
    rcases List.mem_append.mp hreport with hreport | hreport
    · exact hpool.reported report hreport
    · exact ⟨ticket.runId, run, hrun, Option.mem_toList.mp hreport⟩

theorem kept_turnedAway (hkept : Run.Kept setup.terms setup.link motive) (pool : Pool σ)
    (ticket : Ticket) : motive (pool.turnedAway setup ticket) := by
  have hstart := hkept.start ticket.payload pool.now
  have hstep := pool.step_turnedAway setup ticket pool.link
  split at hstep
  · next hover =>
    rw [turnedAway, if_pos hover]
    exact hstart
  · exact hkept.move (Run.step_moves hstep) hstart

theorem Moves.keeps {action : Inner} (hmove : Moves setup pool action next)
    (hkept : Run.Kept setup.terms setup.link motive) (hpool : pool.Keeps setup motive) :
    next.Keeps setup motive := by
  cases hmove with
  | look hworker =>
    refine hpool.setWorker _ ?_
    split <;> rintro _ _ ⟨⟩
  | @take index ticket rest hworker hinbox =>
    have hrest : (pool.withoutFirst rest).Keeps setup motive := ⟨hpool.running, hpool.reported⟩
    refine hrest.setWorker index ?_
    rintro _ _ ⟨⟩
    exact hkept.start ticket.payload pool.now
  | @work index ticket run after s hworker hstep =>
    have hrun := hpool.running ticket run (List.mem_of_getElem? hworker)
    have hset : (pool.setWorker index (.busy ticket after)).Keeps setup motive := by
      refine hpool.setWorker index ?_
      rintro _ _ ⟨⟩
      exact hkept.move (Run.step_moves hstep) hrun
    exact ⟨hset.running, hset.reported⟩
  | @report index ticket run hworker hover =>
    have hrun := hpool.running ticket run (List.mem_of_getElem? hworker)
    exact (hpool.addReport hrun).setWorker index (by rintro _ _ ⟨⟩)
  | @discard index ticket rest hworker hinbox =>
    have hrest : (pool.withoutFirst rest).Keeps setup motive := ⟨hpool.running, hpool.reported⟩
    exact hrest.addReport (kept_turnedAway hkept pool ticket)
  | @close index hworker =>
    have hset : (pool.setWorker index .draining).Keeps setup motive :=
      hpool.setWorker index (by rintro _ _ ⟨⟩)
    exact ⟨hset.running, hset.reported⟩
  | stop => exact hpool.setWorker _ (by rintro _ _ ⟨⟩)
  | hangUp => exact hpool.setWorker _ (by rintro _ _ ⟨⟩)
  | exit => exact hpool.setWorker _ (by rintro _ _ ⟨⟩)
  | refuse => exact ⟨hpool.running, hpool.reported⟩
  | enter => exact ⟨hpool.running, hpool.reported⟩

/-- What runs have at their start and keep with every move, all runs of a pool have, those included
that are turned away; it does not matter what is done to the pool. -/
theorem keeps_of_perform {n : Nat} {s : σ} {actions : List Action}
    (hkept : Run.Kept setup.terms setup.link motive)
    (h : perform setup actions (start n s) = some pool) : pool.Keeps setup motive := by
  refine perform_induction (motive := Keeps setup motive) ?_ h
    ⟨fun _ _ hworker ↦ (nomatch List.eq_of_mem_replicate hworker), fun _ hreport ↦ nomatch hreport⟩
  intro pool action next hact hpool
  cases hact with
  | move hmove => exact hmove.keeps hkept hpool
  | order horder => cases horder <;> exact ⟨hpool.running, hpool.reported⟩
  | pass => exact ⟨hpool.running, hpool.reported⟩

end Keeps

end Courier.Pool
