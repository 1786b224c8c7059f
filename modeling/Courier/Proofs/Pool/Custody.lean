import Courier.Proofs.Pool.Load

/-!
# What a pool holds

A payload is in a pool's hands from its submission to its report: it waits in line, is queued, or is
run by a worker.  As long as nobody stops the pool, none gets lost on the way and none is handled
twice.  What is counted of the payloads and of the runs they are in is left open here.
-/

namespace Courier

variable {σ α : Type}

/-- What is seen of the payload and the run of a worker. -/
def Worker.holding (view : Ticket → Run → Option α) : Worker → Option α
  | .busy ticket run => view ticket run
  | _ => none

namespace Pool

variable {setup : Setup σ} {pool next : Pool σ} {index : Nat} {ticket : Ticket} {run : Run}
  {view : Ticket → Run → Option α}

/-- The payloads that no worker has taken. -/
def untaken (pool : Pool σ) : List Ticket := pool.inbox ++ pool.senders.map Sender.ticket

/-- What would be seen of a payload that were taken now. -/
def fresh (setup : Setup σ) (view : Ticket → Run → Option α) (now : Moment) (ticket : Ticket) :
    Option α :=
  view ticket (Run.start setup.terms ticket.payload now)

/-- What is seen of all the payloads of a pool. -/
def holdings (setup : Setup σ) (view : Ticket → Run → Option α) (pool : Pool σ) : List α :=
  pool.workers.filterMap (Worker.holding view) ++
    pool.untaken.filterMap (fresh setup view pool.now)

/-- Either all payloads are still held or one of them has been reported. -/
inductive Handles (setup : Setup σ) (view : Ticket → Run → Option α) (pool next : Pool σ) : Prop
  | keeps (hreports : next.reports = pool.reports)
      (hperm : (next.holdings setup view).Perm (pool.holdings setup view))
  | reports {ticket : Ticket} {run : Run} (hworker : .busy ticket run ∈ pool.workers)
      (hover : run.isOver = true)
      (hreports : next.reports = pool.reports ++ (run.report? ticket.runId setup.clock).toList)
      (hperm : ((view ticket run).toList ++ next.holdings setup view).Perm
        (pool.holdings setup view))

/-! ## Changes in one place -/

theorem filterMap_cons_eq {β : Type} (f : α → Option β) (a : α) (l : List α) :
    (a :: l).filterMap f = (f a).toList ++ l.filterMap f := by
  cases hfirst : f a with
  | none => exact List.filterMap_cons_none hfirst
  | some b => exact List.filterMap_cons_some hfirst

/-- A worker that changes takes out what it held and puts in what it holds. -/
theorem filterMap_setWorker {worker : Worker} (hworker : pool.workers[index]? = some worker)
    (other : Worker) (view : Ticket → Run → Option α) :
    ((worker.holding view).toList ++
        (pool.setWorker index other).workers.filterMap (Worker.holding view)).Perm
      ((other.holding view).toList ++ pool.workers.filterMap (Worker.holding view)) := by
  obtain ⟨hindex, rfl⟩ := List.getElem?_eq_some_iff.mp hworker
  have hold := (List.getElem_cons_eraseIdx_perm hindex).filterMap (Worker.holding view)
  have hnew := (List.set_perm_cons_eraseIdx hindex other).filterMap (Worker.holding view)
  rw [filterMap_cons_eq] at hold hnew
  refine (hnew.append_left _).trans ?_
  exact List.perm_append_comm_assoc _ _ _ |>.trans (hold.append_left _)

/-- Workers that run nothing hold nothing. -/
theorem filterMap_holding_eq_nil (hidle : ∀ ticket run, .busy ticket run ∉ pool.workers)
    (view : Ticket → Run → Option α) : pool.workers.filterMap (Worker.holding view) = [] := by
  refine List.filterMap_eq_nil_iff.mpr fun worker hworker ↦ ?_
  cases worker with
  | busy ticket run => exact absurd hworker (hidle ticket run)
  | _ => rfl

theorem untaken_withoutFirst {rest : List Ticket} (hinbox : pool.inbox = ticket :: rest) :
    pool.untaken = ticket :: (pool.withoutFirst rest).untaken := by
  rw [untaken, untaken, withoutFirst, map_ticket_grantFirst, hinbox]
  rfl

/-- A submission that gets its place is only moved. -/
theorem untaken_enter_perm {sender : Sender} (hsender : pool.senders[index]? = some sender) :
    (pool.inbox ++ [sender.ticket] ++ (pool.senders.eraseIdx index).map Sender.ticket).Perm
      pool.untaken := by
  obtain ⟨hindex, rfl⟩ := List.getElem?_eq_some_iff.mp hsender
  have hperm := (List.getElem_cons_eraseIdx_perm hindex).map Sender.ticket
  rw [List.append_assoc]
  exact hperm.append_left _

/-- Workers that change without a payload leave all as it is. -/
theorem holdings_of_set {worker other : Worker} (hworker : pool.workers[index]? = some worker)
    (hworkers : next.workers = pool.workers.set index other)
    (huntaken : next.untaken = pool.untaken) (hnow : next.now = pool.now)
    (hsame : other.holding view = worker.holding view) :
    (next.holdings setup view).Perm (pool.holdings setup view) := by
  have hset := filterMap_setWorker hworker other view
  rw [hsame, List.perm_append_left_iff] at hset
  rw [holdings, holdings, hworkers, huntaken, hnow]
  exact hset.append_right _

/-! ## Moves -/

/-- A pool that nobody has stopped keeps its payloads until it reports them, as long as a step of a
run changes nothing of what is seen of it. -/
theorem Moves.handles {action : Inner} (hmove : Moves setup pool action next) (hpool : pool.GoesOn)
    (hwork : ∀ ticket run after s, .busy ticket run ∈ pool.workers →
      run.step setup.terms setup.link pool.now pool.cancelled pool.link = some (after, s) →
      view ticket after = view ticket run) : Handles setup view pool next := by
  cases hmove with
  | look hworker =>
    refine .keeps rfl (holdings_of_set hworker rfl rfl rfl ?_)
    split <;> rfl
  | @take index ticket rest hworker hinbox =>
    have hworkers := filterMap_setWorker
      (show (pool.withoutFirst rest).workers[index]? = _ from hworker)
      (.busy ticket (Run.start setup.terms ticket.payload pool.now)) view
    refine .keeps rfl ((hworkers.append_right _).trans ?_)
    rw [holdings, untaken_withoutFirst hinbox, filterMap_cons_eq, List.append_assoc]
    exact List.perm_append_comm_assoc _ _ _
  | stop hworker => exact .keeps rfl (holdings_of_set hworker rfl rfl rfl rfl)
  | hangUp hworker => exact .keeps rfl (holdings_of_set hworker rfl rfl rfl rfl)
  | work hworker hstep =>
    exact .keeps rfl (holdings_of_set hworker rfl rfl rfl
      (hwork _ _ _ _ (List.mem_of_getElem? hworker) hstep))
  | @report index ticket run hworker hover =>
    have hworkers := filterMap_setWorker hworker .arriving view
    refine .reports (List.mem_of_getElem? hworker) hover rfl ?_
    rw [holdings, ← List.append_assoc]
    exact hworkers.append_right _
  | close hworker => exact .keeps rfl (holdings_of_set hworker rfl rfl rfl rfl)
  | discard hworker hinbox =>
    have hspent := hpool.spent_of_through (List.mem_of_getElem? hworker) rfl
    exact absurd hspent (not_spent_of_inbox hinbox)
  | exit hworker => exact .keeps rfl (holdings_of_set hworker rfl rfl rfl rfl)
  | refuse hsender hclosed =>
    exact absurd (hpool.spent_of_closed hclosed) (not_spent_of_sender hsender)
  | enter hsender hopen hgranted =>
    exact .keeps rfl (((untaken_enter_perm hsender).filterMap _).append_left _)

/-! ## Submissions -/

/-- A pool that somebody can submit to takes a payload into its hands. -/
theorem Orders.untaken_perm (horder : Orders pool (.submit ticket) next) (hpool : pool.GoesOn)
    (hunspent : ¬ pool.Spent) : next.untaken.Perm (ticket :: pool.untaken) := by
  cases horder with
  | turnDown hclosed => exact absurd (hpool.spent_of_closed hclosed) hunspent
  | accept hopen hroom =>
    rw [untaken, List.append_assoc]
    exact List.perm_middle
  | lineUp hopen hroom =>
    rw [untaken, List.map_append, ← List.append_assoc]
    exact List.perm_append_singleton _ _

end Pool

end Courier
