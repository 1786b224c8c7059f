import Courier.Pool.Basic

/-!
# Moves of a pool

`Moves` lists what a pool can do by itself and `Orders` what can be done to it, a case with its
guards for each kind.  The functions behind them are opened only here: what a pool keeps is shown by
cases on the lists.
-/

namespace Courier.Pool

variable {σ : Type} {setup : Setup σ} {pool next : Pool σ}

inductive Moves (setup : Setup σ) (pool : Pool σ) : Inner → Pool σ → Prop
  | look {index : Nat} (hworker : pool.workers[index]? = some .arriving) :
      Moves setup pool (.worker index .look)
        (pool.setWorker index (if pool.stopping then .leaving else .listening))
  | take {index : Nat} {ticket : Ticket} {rest : List Ticket}
      (hworker : pool.workers[index]? = some .listening) (hinbox : pool.inbox = ticket :: rest) :
      Moves setup pool (.worker index .take) ((pool.withoutFirst rest).setWorker index
        (.busy ticket (Run.start setup.terms ticket.payload pool.now)))
  | stop {index : Nat} (hworker : pool.workers[index]? = some .listening)
      (hsignal : pool.signalled = true) :
      Moves setup pool (.worker index .stop) (pool.setWorker index .leaving)
  | hangUp {index : Nat} (hworker : pool.workers[index]? = some .listening)
      (hinbox : pool.inbox = [])
      (hquiet : (!pool.isOpen || (pool.closed && !pool.senders.any Sender.granted)) = true) :
      Moves setup pool (.worker index .hangUp) (pool.setWorker index .leaving)
  | work {index : Nat} {ticket : Ticket} {run after : Run} {s : σ}
      (hworker : pool.workers[index]? = some (.busy ticket run))
      (hstep : run.step setup.terms setup.link pool.now pool.cancelled pool.link =
        some (after, s)) :
      Moves setup pool (.worker index .work)
        { pool.setWorker index (.busy ticket after) with link := s }
  | report {index : Nat} {ticket : Ticket} {run : Run}
      (hworker : pool.workers[index]? = some (.busy ticket run)) (hover : run.isOver = true) :
      Moves setup pool (.worker index .report)
        ((pool.addReport setup ticket run).setWorker index .arriving)
  | close {index : Nat} (hworker : pool.workers[index]? = some .leaving) :
      Moves setup pool (.worker index .close)
        { pool.setWorker index .draining with closed := true }
  | discard {index : Nat} {ticket : Ticket} {rest : List Ticket}
      (hworker : pool.workers[index]? = some .draining) (hinbox : pool.inbox = ticket :: rest) :
      Moves setup pool (.worker index .discard)
        ((pool.withoutFirst rest).addReport setup ticket (pool.turnedAway setup ticket))
  | exit {index : Nat} (hworker : pool.workers[index]? = some .draining)
      (hinbox : pool.inbox = []) :
      Moves setup pool (.worker index .exit) (pool.setWorker index .gone)
  | refuse {index : Nat} {sender : Sender} (hsender : pool.senders[index]? = some sender)
      (hclosed : pool.closed = true) :
      Moves setup pool (.sender index)
        { pool with
          senders := pool.senders.eraseIdx index
          refused := pool.refused ++ [sender.ticket.runId] }
  | enter {index : Nat} {sender : Sender} (hsender : pool.senders[index]? = some sender)
      (hopen : pool.closed = false) (hgranted : sender.granted = true) :
      Moves setup pool (.sender index)
        { pool with
          senders := pool.senders.eraseIdx index
          inbox := pool.inbox ++ [sender.ticket]
          accepted := pool.accepted ++ [sender.ticket.runId] }

theorem workerMove_moves {index : Nat} {worker : Worker} {move : Move}
    (hworker : pool.workers[index]? = some worker)
    (h : pool.workerMove setup index worker move = some next) :
    Moves setup pool (.worker index move) next := by
  cases move with
  | look =>
    simp only [workerMove] at h
    split at h
    · cases h; exact .look hworker
    · contradiction
  | take =>
    simp only [workerMove] at h
    split at h
    · next hinbox => cases h; exact .take hworker hinbox
    · contradiction
  | stop =>
    simp only [workerMove] at h
    split at h
    · split at h
      · next hsignal => cases h; exact .stop hworker hsignal
      · contradiction
    · contradiction
  | hangUp =>
    simp only [workerMove] at h
    split at h
    · next hinbox =>
      split at h
      · next hquiet => cases h; exact .hangUp hworker hinbox hquiet
      · contradiction
    · contradiction
  | work =>
    simp only [workerMove] at h
    split at h
    · obtain ⟨⟨after, s⟩, hstep, rfl⟩ := Option.map_eq_some_iff.mp h
      exact .work hworker hstep
    · contradiction
  | report =>
    simp only [workerMove] at h
    split at h
    · split at h
      · next hover => cases h; exact .report hworker hover
      · contradiction
    · contradiction
  | close =>
    simp only [workerMove] at h
    split at h
    · cases h; exact .close hworker
    · contradiction
  | discard =>
    simp only [workerMove] at h
    split at h
    · next hinbox => cases h; exact .discard hworker hinbox
    · contradiction
  | exit =>
    simp only [workerMove] at h
    split at h
    · next hinbox => cases h; exact .exit hworker hinbox
    · contradiction

theorem senderMove_moves {index : Nat} (h : pool.senderMove index = some next) :
    Moves setup pool (.sender index) next := by
  obtain ⟨sender, hsender, h⟩ := Option.bind_eq_some_iff.mp h
  simp only at h
  split at h
  · next hclosed => cases h; exact .refuse hsender hclosed
  · next hopen =>
    split at h
    · next hgranted => cases h; exact .enter hsender (by simpa using hopen) hgranted
    · contradiction

theorem inner_moves {action : Inner} (h : pool.inner setup action = some next) :
    Moves setup pool action next := by
  cases action with
  | worker index move =>
    obtain ⟨worker, hworker, h⟩ := Option.bind_eq_some_iff.mp h
    exact workerMove_moves hworker h
  | sender index => exact senderMove_moves h

inductive Orders (pool : Pool σ) : Outer → Pool σ → Prop
  | turnDown {ticket : Ticket} (hclosed : pool.closed = true) :
      Orders pool (.submit ticket) { pool with refused := pool.refused ++ [ticket.runId] }
  | accept {ticket : Ticket} (hopen : pool.closed = false) (hroom : 0 < pool.room) :
      Orders pool (.submit ticket)
        { pool with
          inbox := pool.inbox ++ [ticket]
          accepted := pool.accepted ++ [ticket.runId] }
  | lineUp {ticket : Ticket} (hopen : pool.closed = false) (hroom : pool.room = 0) :
      Orders pool (.submit ticket) { pool with senders := pool.senders ++ [⟨ticket, false⟩] }
  | addSubmitter (hsubmitters : 0 < pool.submitters) :
      Orders pool .addSubmitter { pool with submitters := pool.submitters + 1 }
  | dropSubmitter (hsubmitters : 0 < pool.submitters) :
      Orders pool .dropSubmitter { pool with submitters := pool.submitters - 1 }
  | requestShutdown (hheld : pool.held = true) :
      Orders pool .requestShutdown { pool with stopping := true }
  | dropHandle (hheld : pool.held = true) : Orders pool .dropHandle { pool with held := false }
  | cancel (hheld : pool.held = true) : Orders pool .cancel { pool with cancelled := true }

theorem submit_orders (pool : Pool σ) (ticket : Ticket) :
    Orders pool (.submit ticket) (pool.submit ticket) := by
  unfold submit
  split
  · next hclosed => exact .turnDown hclosed
  · next hopen =>
    have hopen : pool.closed = false := by simpa using hopen
    split
    · next hroom => exact .accept hopen hroom
    · next hroom => exact .lineUp hopen (by omega)

theorem outer_orders {action : Outer} (h : pool.outer action = some next) :
    Orders pool action next := by
  cases action <;> simp only [outer] at h <;> split at h <;> cases h
  case submit.isTrue ticket _ => exact submit_orders pool ticket
  case addSubmitter.isTrue hsubmitters => exact .addSubmitter hsubmitters
  case dropSubmitter.isTrue hsubmitters => exact .dropSubmitter hsubmitters
  case requestShutdown.isTrue hheld => exact .requestShutdown hheld
  case dropHandle.isTrue hheld => exact .dropHandle hheld
  case cancel.isTrue hheld => exact .cancel hheld

end Courier.Pool
