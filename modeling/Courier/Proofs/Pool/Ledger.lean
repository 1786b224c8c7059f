import Courier.Proofs.Pool.History
import Mathlib.Data.List.Perm.Basic
import Mathlib.Data.List.Nodup

/-!
# The ledger of a pool

Where the identifiers of submissions are: in line, refused, or accepted and then in the inbox, with
a worker or in a report.  No action loses one or makes a second one of it.  A pool whose workers have
all left has nothing in its inbox and lets nothing in, so that its reports are those of the accepted
submissions.
-/

namespace Courier

def Worker.runIds : Worker → List RunId
  | .busy ticket _ => [ticket.runId]
  | _ => []

/-- Whether the worker has closed the inbox. -/
def Worker.hasClosed : Worker → Bool
  | .draining | .gone => true
  | _ => false

namespace Pool

variable {σ : Type} {setup : Setup σ} {pool next last : Pool σ}

def inLine (pool : Pool σ) : List RunId := (pool.senders.map Sender.ticket).map Ticket.runId

def queued (pool : Pool σ) : List RunId := pool.inbox.map Ticket.runId

def running (pool : Pool σ) : List RunId := pool.workers.flatMap Worker.runIds

def reported (pool : Pool σ) : List RunId := pool.reports.map Report.runId

/-! ## Places -/

theorem count_inLine_eraseIdx {index : Nat} {sender : Sender}
    (hsender : pool.senders[index]? = some sender) (id : RunId) :
    pool.inLine.count id =
      (((pool.senders.eraseIdx index).map Sender.ticket).map Ticket.runId).count id +
        [sender.ticket.runId].count id := by
  obtain ⟨hindex, rfl⟩ := List.getElem?_eq_some_iff.mp hsender
  have hperm := List.getElem_cons_eraseIdx_perm hindex
  have hcount := ((hperm.map Sender.ticket).map Ticket.runId).count_eq id
  simp only [List.map_cons, List.count_cons, List.count_nil] at hcount ⊢
  unfold inLine
  omega

/-- A worker that changes takes its old payload out and puts its new one in. -/
theorem count_running_setWorker (pool : Pool σ) {index : Nat} {worker : Worker}
    (hworker : pool.workers[index]? = some worker) (other : Worker) (id : RunId) :
    (pool.setWorker index other).running.count id + worker.runIds.count id =
      pool.running.count id + other.runIds.count id := by
  obtain ⟨hindex, rfl⟩ := List.getElem?_eq_some_iff.mp hworker
  have hold := ((List.getElem_cons_eraseIdx_perm hindex).flatMap_right Worker.runIds).count_eq id
  have hnew := ((List.set_perm_cons_eraseIdx hindex other).flatMap_right Worker.runIds).count_eq id
  simp only [List.flatMap_cons, List.count_append] at hold hnew
  simp only [running, setWorker]
  omega

theorem reported_addReport (setup : Setup σ) (pool : Pool σ) (ticket : Ticket) {run : Run}
    (hover : run.isOver = true) :
    (pool.addReport setup ticket run).reported = pool.reported ++ [ticket.runId] := by
  simp only [reported, addReport, List.map_append, Run.map_runId_report? hover]

/-! ## Accepted submissions -/

/-- Every accepted identifier is in the inbox, with a worker or in a report, as often as it was
accepted. -/
def Balanced (pool : Pool σ) : Prop :=
  ∀ id, pool.accepted.count id =
    pool.reported.count id + pool.running.count id + pool.queued.count id

theorem balanced_start (n : Nat) (s : σ) : (start n s).Balanced := by
  intro id
  have hrunning : (start n s).running = [] := by
    simp [running, start, List.flatMap_replicate, Worker.runIds]
  rw [hrunning]
  rfl

/-- A worker may change as long as it keeps its payload. -/
theorem Balanced.setWorker (hpool : pool.Balanced) {index : Nat} {worker other : Worker}
    (hworker : pool.workers[index]? = some worker) (hsame : other.runIds = worker.runIds) :
    (pool.setWorker index other).Balanced := by
  intro id
  have hid := hpool id
  have hrunning := count_running_setWorker pool hworker other id
  rw [hsame] at hrunning
  change pool.accepted.count id =
    pool.reported.count id + (pool.setWorker index other).running.count id + pool.queued.count id
  omega

/-- A payload may leave the inbox for a place where it is counted. -/
theorem count_queued_cons {ticket : Ticket} {rest : List Ticket}
    (hinbox : pool.inbox = ticket :: rest) (id : RunId) :
    pool.queued.count id = [ticket.runId].count id + (rest.map Ticket.runId).count id := by
  rw [← List.count_append, queued, hinbox]
  rfl

/-- A payload that enters the inbox is accepted. -/
theorem Balanced.accept (hpool : pool.Balanced) (ticket : Ticket)
    (haccepted : next.accepted = pool.accepted ++ [ticket.runId])
    (hqueued : next.inbox = pool.inbox ++ [ticket]) (hworkers : next.workers = pool.workers)
    (hreports : next.reports = pool.reports) : next.Balanced := by
  intro id
  have hid := hpool id
  unfold reported running queued at hid ⊢
  rw [haccepted, hqueued, hworkers, hreports, List.map_append, List.count_append,
    List.count_append]
  change _ = _ + _ + (_ + [ticket.runId].count id)
  omega

theorem Moves.balanced {action : Inner} (hmove : Moves setup pool action next)
    (hpool : pool.Balanced) : next.Balanced := by
  cases hmove with
  | look hworker => exact hpool.setWorker hworker (by split <;> rfl)
  | @take index ticket rest hworker hinbox =>
    intro id
    have hid := hpool id
    have hrunning := count_running_setWorker (pool.withoutFirst rest) hworker
      (.busy ticket (Run.start setup.terms ticket.payload pool.now)) id
    have hqueued := count_queued_cons hinbox id
    change pool.accepted.count id = pool.reported.count id + _ + (rest.map Ticket.runId).count id
    change _ + [].count id = pool.running.count id + [ticket.runId].count id at hrunning
    rw [List.count_nil] at hrunning
    omega
  | stop hworker hsignal => exact hpool.setWorker hworker rfl
  | hangUp hworker hinbox hquiet => exact hpool.setWorker hworker rfl
  | work hworker hstep => exact hpool.setWorker hworker rfl
  | @report index ticket run hworker hover =>
    intro id
    have hid := hpool id
    have hrunning := count_running_setWorker (pool.addReport setup ticket run) hworker
      .arriving id
    have hreported := congrArg (List.count id)
      (reported_addReport setup pool ticket hover)
    rw [List.count_append] at hreported
    change pool.accepted.count id =
      (pool.addReport setup ticket run).reported.count id + _ + pool.queued.count id
    change _ + [ticket.runId].count id = pool.running.count id + [].count id at hrunning
    rw [List.count_nil] at hrunning
    omega
  | close hworker => exact hpool.setWorker hworker rfl
  | @discard index ticket rest hworker hinbox =>
    intro id
    have hid := hpool id
    have hqueued := count_queued_cons hinbox id
    have hreported := congrArg (List.count id)
      (reported_addReport setup (pool.withoutFirst rest) ticket
        (isOver_turnedAway setup pool ticket))
    rw [List.count_append] at hreported
    change pool.accepted.count id = _ + pool.running.count id + (rest.map Ticket.runId).count id
    change _ = pool.reported.count id + _ at hreported
    omega
  | exit hworker hinbox => exact hpool.setWorker hworker rfl
  | refuse hsender hclosed => exact hpool
  | @enter index sender hsender hopen hgranted => exact hpool.accept sender.ticket rfl rfl rfl rfl

theorem Acts.balanced {action : Action} (hact : Acts setup pool action next)
    (hpool : pool.Balanced) : next.Balanced := by
  cases hact with
  | move hmove => exact hmove.balanced hpool
  | order horder =>
    cases horder with
    | @accept ticket hopen hroom => exact hpool.accept ticket rfl rfl rfl rfl
    | _ => exact hpool
  | pass hlater => exact hpool

/-! ## All submissions -/

/-- How often an identifier was submitted, by where its submissions are. -/
def entries (pool : Pool σ) (id : RunId) : Nat :=
  pool.accepted.count id + pool.refused.count id + pool.inLine.count id

theorem Moves.entries_eq {action : Inner} (hmove : Moves setup pool action next) (id : RunId) :
    next.entries id = pool.entries id := by
  cases hmove with
  | take hworker hinbox =>
    simp only [entries, inLine, setWorker, withoutFirst, map_ticket_grantFirst]
  | discard hworker hinbox =>
    simp only [entries, inLine, addReport, withoutFirst, map_ticket_grantFirst]
  | refuse hsender hclosed =>
    have hline := count_inLine_eraseIdx hsender id
    simp only [entries, inLine, List.count_append] at hline ⊢
    omega
  | enter hsender hopen hgranted =>
    have hline := count_inLine_eraseIdx hsender id
    simp only [entries, inLine, List.count_append] at hline ⊢
    omega
  | _ => rfl

theorem Orders.entries_eq {action : Outer} (horder : Orders pool action next) (id : RunId) :
    next.entries id = pool.entries id + (submitted [.outer action]).count id := by
  cases horder with
  | turnDown hclosed =>
    simp only [entries, inLine, submitted, List.filterMap_cons, Action.submission?,
      Option.map_some, List.filterMap_nil, List.count_append]
    omega
  | accept hopen hroom =>
    simp only [entries, inLine, submitted, List.filterMap_cons, Action.submission?,
      Option.map_some, List.filterMap_nil, List.count_append]
    omega
  | lineUp hopen hroom =>
    simp only [entries, inLine, submitted, List.filterMap_cons, Action.submission?,
      Option.map_some, List.filterMap_nil, List.map_append, List.map_cons, List.map_nil,
      List.count_append]
    omega
  | _ => rfl

theorem perform_entries {actions : List Action} (h : perform setup actions pool = some last)
    (id : RunId) : last.entries id = pool.entries id + (submitted actions).count id := by
  induction actions generalizing pool with
  | nil => cases h; rfl
  | cons action rest ih =>
    obtain ⟨next, hact, hrest⟩ := perform_cons h
    have hnext : next.entries id = pool.entries id + (submitted [action]).count id := by
      cases hact with
      | move hmove => exact hmove.entries_eq id
      | order horder => exact horder.entries_eq id
      | pass hlater => rfl
    rw [ih hrest, hnext, submitted_cons action rest, List.count_append]
    omega

section Start

variable {n : Nat} {s : σ} {actions : List Action}

/-- Whatever a pool has accepted since its start is in one place. -/
theorem perform_balanced (h : perform setup actions (start n s) = some pool) : pool.Balanced :=
  perform_induction (fun _ _ _ hact hpool ↦ hact.balanced hpool) h (balanced_start n s)

/-- Whatever has been submitted to a pool since its start was accepted, was refused or waits. -/
theorem count_submitted (h : perform setup actions (start n s) = some pool) (id : RunId) :
    (submitted actions).count id =
      pool.accepted.count id + pool.refused.count id + pool.inLine.count id := by
  have hstart : (start n s).entries id = 0 := rfl
  have hentries := perform_entries h id
  rw [hstart, Nat.zero_add] at hentries
  exact hentries.symm

end Start

end Pool
end Courier
