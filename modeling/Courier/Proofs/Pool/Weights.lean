import Courier.Proofs.Pool.Load
import Mathlib.Algebra.Order.BigOperators.Group.List
import Mathlib.Algebra.Order.Ring.Nat

/-!
# The weight of a pool

Whatever a pool does by itself, either the number of its payloads that are still to be taken becomes
less or one of its workers comes nearer to its leaving.  How much work a run still is depends on
what is known of runs, and is left open here.
-/

namespace Courier

/-- How many moves a worker has before it at most, if it takes no payload any more. -/
def Worker.weightBy (effort : Ticket → Run → Nat) : Worker → Nat
  | .gone => 0
  | .draining => 1
  | .leaving => 2
  | .listening => 3
  | .arriving => 4
  | .busy ticket run => 5 + effort ticket run

namespace Pool

variable {σ : Type} {setup : Setup σ} {pool next : Pool σ} {index limit : Nat}
  {effort : Ticket → Run → Nat}

/-- The payloads that are still to be taken.  A submission that waits has to enter the inbox, and
counts twice. -/
def payloads (pool : Pool σ) : Nat := 2 * pool.senders.length + pool.inbox.length

def burden (effort : Ticket → Run → Nat) (pool : Pool σ) : Nat :=
  (pool.workers.map (Worker.weightBy effort)).sum

/-- Either a worker has come nearer to its leaving or there are fewer payloads to be taken.  In the
second case one may have been taken, which adds the work of its run. -/
inductive Eases (setup : Setup σ) (effort : Ticket → Run → Nat) (pool next : Pool σ) : Prop
  | worker (hpayloads : next.payloads = pool.payloads)
      (hburden : next.burden effort < pool.burden effort)
  | taken {ticket : Ticket} (hticket : ticket ∈ pool.inbox)
      (hpayloads : next.payloads < pool.payloads)
      (hburden : next.burden effort ≤ pool.burden effort + 2 +
        effort ticket (Run.start setup.terms ticket.payload pool.now))
  | payload (hpayloads : next.payloads < pool.payloads)
      (hburden : next.burden effort = pool.burden effort)

theorem sum_map_setWorker {worker : Worker} (hworker : pool.workers[index]? = some worker)
    (other : Worker) (weight : Worker → Nat) :
    ((pool.setWorker index other).workers.map weight).sum + weight worker =
      (pool.workers.map weight).sum + weight other := by
  obtain ⟨hindex, rfl⟩ := List.getElem?_eq_some_iff.mp hworker
  have hold := ((List.getElem_cons_eraseIdx_perm hindex).map weight).sum_eq
  have hnew := ((List.set_perm_cons_eraseIdx hindex other).map weight).sum_eq
  rw [List.map_cons, List.sum_cons] at hold hnew
  change ((pool.workers.set index other).map weight).sum + _ = _
  omega

theorem length_grantFirst (senders : List Sender) :
    (grantFirst senders).length = senders.length := by
  rw [← List.length_map Sender.ticket, map_ticket_grantFirst, List.length_map]

theorem eases_of_set {worker other : Worker} (hworker : pool.workers[index]? = some worker)
    (hworkers : next.workers = pool.workers.set index other)
    (hpayloads : next.payloads = pool.payloads)
    (hless : other.weightBy effort < worker.weightBy effort) : Eases setup effort pool next := by
  have hsum := sum_map_setWorker hworker other (Worker.weightBy effort)
  refine .worker hpayloads ?_
  unfold burden
  rw [hworkers]
  change ((pool.workers.set index other).map (Worker.weightBy effort)).sum + _ = _ at hsum
  omega

/-- Whatever a pool does by itself eases it, as long as a step of a run leaves less work. -/
theorem Moves.eases {action : Inner} (hmove : Moves setup pool action next)
    (hwork : ∀ (index : Nat) ticket run after s,
      pool.workers[index]? = some (.busy ticket run) →
      run.step setup.terms setup.link pool.now pool.cancelled pool.link = some (after, s) →
      effort ticket after < effort ticket run) : Eases setup effort pool next := by
  cases hmove with
  | look hworker =>
    refine eases_of_set hworker rfl rfl ?_
    split <;> simp only [Worker.weightBy] <;> omega
  | @take index ticket rest hworker hinbox =>
    have hsum := sum_map_setWorker (show (pool.withoutFirst rest).workers[index]? = _ from hworker)
      (.busy ticket (Run.start setup.terms ticket.payload pool.now)) (Worker.weightBy effort)
    have hticket : ticket ∈ pool.inbox := by simp [hinbox]
    refine .taken hticket ?_ ?_
    · simp [payloads, Pool.setWorker, withoutFirst, length_grantFirst, hinbox]
    · simp only [Worker.weightBy] at hsum
      change _ = (pool.workers.map (Worker.weightBy effort)).sum + _ at hsum
      unfold burden
      omega
  | stop hworker => exact eases_of_set hworker rfl rfl (by simp only [Worker.weightBy]; omega)
  | hangUp hworker => exact eases_of_set hworker rfl rfl (by simp only [Worker.weightBy]; omega)
  | work hworker hstep =>
    refine eases_of_set hworker rfl rfl ?_
    exact Nat.add_lt_add_left (hwork _ _ _ _ _ hworker hstep) 5
  | report hworker => exact eases_of_set hworker rfl rfl (by simp only [Worker.weightBy]; omega)
  | close hworker => exact eases_of_set hworker rfl rfl (by simp only [Worker.weightBy]; omega)
  | exit hworker => exact eases_of_set hworker rfl rfl (by simp only [Worker.weightBy]; omega)
  | discard hworker hinbox =>
    refine .payload ?_ rfl
    simp [payloads, addReport, withoutFirst, length_grantFirst, hinbox]
  | refuse hsender hclosed =>
    obtain ⟨hindex, _⟩ := List.getElem?_eq_some_iff.mp hsender
    refine .payload ?_ rfl
    simp only [payloads, List.length_eraseIdx_of_lt hindex]
    omega
  | enter hsender hopen hgranted =>
    obtain ⟨hindex, _⟩ := List.getElem?_eq_some_iff.mp hsender
    refine .payload ?_ rfl
    simp only [payloads, List.length_eraseIdx_of_lt hindex, List.length_append,
      List.length_singleton]
    omega

/-! ## The clock -/

/-- What is less work for each run is less of a burden. -/
theorem burden_le {later : Ticket → Run → Nat}
    (hless : ∀ ticket run, .busy ticket run ∈ pool.workers → later ticket run ≤ effort ticket run) :
    pool.burden later ≤ pool.burden effort := by
  refine List.sum_le_sum fun worker hworker ↦ ?_
  cases worker with
  | busy ticket run => exact Nat.add_le_add_left (hless ticket run hworker) 5
  | _ => exact le_rfl

theorem burden_lt {later : Ticket → Run → Nat} {ticket : Ticket} {run : Run}
    (hless : ∀ ticket run, .busy ticket run ∈ pool.workers → later ticket run ≤ effort ticket run)
    (hworker : .busy ticket run ∈ pool.workers) (hfewer : later ticket run < effort ticket run) :
    pool.burden later < pool.burden effort := by
  refine List.sum_lt_sum _ _ (fun worker hworker ↦ ?_)
    ⟨.busy ticket run, hworker, Nat.add_lt_add_left hfewer 5⟩
  cases worker with
  | busy ticket run => exact Nat.add_le_add_left (hless ticket run hworker) 5
  | _ => exact le_rfl

/-! ## Bounds -/

/-- A bound for what a pool can do by itself, if no run is more work than the limit. -/
def toil (effort : Ticket → Run → Nat) (limit : Nat) (pool : Pool σ) : Nat :=
  (limit + 3) * pool.payloads + pool.burden effort

theorem Eases.toil_lt (heases : Eases setup effort pool next)
    (hlimit : ∀ ticket ∈ pool.inbox,
      effort ticket (Run.start setup.terms ticket.payload pool.now) ≤ limit) :
    next.toil effort limit < pool.toil effort limit := by
  unfold toil
  cases heases with
  | worker hpayloads hburden =>
    rw [hpayloads]
    exact Nat.add_lt_add_left hburden _
  | taken hticket hpayloads hburden =>
    have hwork := hlimit _ hticket
    have hfewer := Nat.mul_le_mul_left (limit + 3) (Nat.succ_le_of_lt hpayloads)
    rw [Nat.mul_succ] at hfewer
    omega
  | payload hpayloads hburden =>
    have hfewer := Nat.mul_le_mul_left (limit + 3) (Nat.succ_le_of_lt hpayloads)
    rw [Nat.mul_succ] at hfewer
    omega

end Pool

end Courier
