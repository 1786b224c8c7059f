import Courier.Run.Basic
import Courier.Settings

/-!
# Worker pools

Workers take payloads from a bounded inbox in order of arrival, run each and report it.  A submission
waits while the inbox is full; a place that becomes free is granted to the longest waiting one.  A
worker that is told to stop, or finds that nothing can come any more, closes the inbox, and what is
still in it is reported as cancelled.

The pool is a machine with labelled actions, each of which is either possible in a state or not.  In
which order possible actions happen is left open, in particular which idle worker takes a payload and
whether a worker that can both take a payload and stop does the one or the other.
-/

namespace Courier

/-- A payload that waits for its run. -/
structure Ticket where
  runId : RunId
  payload : Bytes
  deriving DecidableEq

inductive Worker where
  /-- Is about to look whether it has to stop. -/
  | arriving
  /-- Waits for a payload or for the signal to stop. -/
  | listening
  | busy (ticket : Ticket) (run : Run)
  /-- Is about to close the inbox. -/
  | leaving
  /-- Reports what is left in the inbox. -/
  | draining
  | gone

/-- A submission that waits for a place in the inbox, or has been granted one. -/
structure Sender where
  ticket : Ticket
  granted : Bool

/-- What a pool is made with. -/
structure Pool.Setup (σ : Type) where
  terms : Terms
  link : Link σ
  clock : Moment → Timestamp

structure Pool (σ : Type) where
  now : Moment
  workers : List Worker
  inbox : List Ticket
  senders : List Sender
  closed : Bool
  /-- Shutdown has been requested. -/
  stopping : Bool
  /-- Somebody still holds the handle of the pool. -/
  held : Bool
  /-- Holders of the right to submit, waiting submissions apart. -/
  submitters : Nat
  cancelled : Bool
  link : σ
  reports : List Report
  accepted : List RunId
  refused : List RunId

namespace Pool

variable {σ : Type}

/-- The number of workers that is made when `n` are asked for. -/
def workerCount (n : Nat) : Nat := max 1 (min n Settings.mostWorkers)

/-- A new pool with one submitter. -/
def start (n : Nat) (s : σ) : Pool σ where
  now := 0
  workers := List.replicate (workerCount n) .arriving
  inbox := []
  senders := []
  closed := false
  stopping := false
  held := true
  submitters := 1
  cancelled := false
  link := s
  reports := []
  accepted := []
  refused := []

def capacity (pool : Pool σ) : Nat := 4 * pool.workers.length

/-- Places of the inbox that are neither filled nor granted. -/
def room (pool : Pool σ) : Nat :=
  pool.capacity - pool.inbox.length - (pool.senders.countP Sender.granted)

/-- Whether anything can still be submitted. -/
def isOpen (pool : Pool σ) : Bool := 0 < pool.submitters || !pool.senders.isEmpty

/-- Whether idle workers are told to stop. -/
def signalled (pool : Pool σ) : Bool := pool.stopping || !pool.held

/-- The answer to a submission that is refused. -/
def shutDown : Problem := .internal "worker group is shut down"

/-- Grants a free place to the longest waiting submission. -/
def grantFirst : List Sender → List Sender
  | [] => []
  | sender :: rest =>
    if sender.granted then sender :: grantFirst rest else { sender with granted := true } :: rest

@[simp]
theorem map_ticket_grantFirst (senders : List Sender) :
    (grantFirst senders).map Sender.ticket = senders.map Sender.ticket := by
  induction senders with
  | nil => rfl
  | cons sender rest ih =>
    unfold grantFirst
    split
    · rw [List.map_cons, List.map_cons, ih]
    · rfl

def setWorker (pool : Pool σ) (index : Nat) (worker : Worker) : Pool σ :=
  { pool with workers := pool.workers.set index worker }

/-- The inbox without its first ticket, whose place is granted anew. -/
def withoutFirst (pool : Pool σ) (rest : List Ticket) : Pool σ :=
  { pool with inbox := rest, senders := grantFirst pool.senders }

def addReport (setup : Setup σ) (pool : Pool σ) (ticket : Ticket) (run : Run) : Pool σ :=
  { pool with reports := pool.reports ++ (run.report? ticket.runId setup.clock).toList }

/-- The run of a ticket that is cancelled beforehand; it never calls. -/
def turnedAway (setup : Setup σ) (pool : Pool σ) (ticket : Ticket) : Run :=
  let run := Run.start setup.terms ticket.payload pool.now
  if run.isOver then run else run.finish pool.now .cancelled

theorem isOver_turnedAway (setup : Setup σ) (pool : Pool σ) (ticket : Ticket) :
    (pool.turnedAway setup ticket).isOver = true := by
  unfold turnedAway
  dsimp only
  split
  · next hover => exact hover
  · rfl

/-- The run of a ticket that is turned away makes the one move of a run with a token that has fired,
if it has any left. -/
theorem step_turnedAway (setup : Setup σ) (pool : Pool σ) (ticket : Ticket) (s : σ) :
    (Run.start setup.terms ticket.payload pool.now).step setup.terms setup.link pool.now true s =
      if (Run.start setup.terms ticket.payload pool.now).isOver then none
      else some (pool.turnedAway setup ticket, s) := by
  unfold turnedAway Run.start
  split <;> rfl

/-- What a worker can do. -/
inductive Move where
  | look
  | take
  | stop
  | hangUp
  | work
  | report
  | close
  | discard
  | exit
  deriving DecidableEq

/-- A move of the worker at an index, where it is possible. -/
def workerMove (setup : Setup σ) (pool : Pool σ) (index : Nat) (worker : Worker) :
    Move → Option (Pool σ)
  | .look =>
    match worker with
    | .arriving => some (pool.setWorker index (if pool.stopping then .leaving else .listening))
    | _ => none
  | .take =>
    match worker, pool.inbox with
    | .listening, ticket :: rest =>
      let run := Run.start setup.terms ticket.payload pool.now
      some ((pool.withoutFirst rest).setWorker index (.busy ticket run))
    | _, _ => none
  | .stop =>
    match worker with
    | .listening => if pool.signalled then some (pool.setWorker index .leaving) else none
    | _ => none
  | .hangUp =>
    match worker, pool.inbox with
    | .listening, [] =>
      if !pool.isOpen || (pool.closed && !pool.senders.any Sender.granted) then
        some (pool.setWorker index .leaving)
      else none
    | _, _ => none
  | .work =>
    match worker with
    | .busy ticket run =>
      (run.step setup.terms setup.link pool.now pool.cancelled pool.link).map fun (run, s) ↦
        { pool.setWorker index (.busy ticket run) with link := s }
    | _ => none
  | .report =>
    match worker with
    | .busy ticket run =>
      if run.isOver then some ((pool.addReport setup ticket run).setWorker index .arriving)
      else none
    | _ => none
  | .close =>
    match worker with
    | .leaving => some { pool.setWorker index .draining with closed := true }
    | _ => none
  | .discard =>
    match worker, pool.inbox with
    | .draining, ticket :: rest =>
      some ((pool.withoutFirst rest).addReport setup ticket (pool.turnedAway setup ticket))
    | _, _ => none
  | .exit =>
    match worker, pool.inbox with
    | .draining, [] => some (pool.setWorker index .gone)
    | _, _ => none

/-- A waiting submission goes on: it is refused when the inbox has been closed, and put into the
inbox when it has been granted a place. -/
def senderMove (pool : Pool σ) (index : Nat) : Option (Pool σ) := do
  let sender ← pool.senders[index]?
  let others := pool.senders.eraseIdx index
  if pool.closed then
    some { pool with senders := others, refused := pool.refused ++ [sender.ticket.runId] }
  else if sender.granted then
    some { pool with
      senders := others
      inbox := pool.inbox ++ [sender.ticket]
      accepted := pool.accepted ++ [sender.ticket.runId] }
  else none

/-- A new submission. -/
def submit (pool : Pool σ) (ticket : Ticket) : Pool σ :=
  if pool.closed then { pool with refused := pool.refused ++ [ticket.runId] }
  else if 0 < pool.room then
    { pool with inbox := pool.inbox ++ [ticket], accepted := pool.accepted ++ [ticket.runId] }
  else { pool with senders := pool.senders ++ [⟨ticket, false⟩] }

/-- What the pool does by itself. -/
inductive Inner where
  | worker (index : Nat) (move : Move)
  | sender (index : Nat)

/-- What is done to the pool from outside. -/
inductive Outer where
  | submit (ticket : Ticket)
  | addSubmitter
  | dropSubmitter
  | requestShutdown
  | dropHandle
  | cancel

def inner (setup : Setup σ) (pool : Pool σ) : Inner → Option (Pool σ)
  | .worker index move => do
    let worker ← pool.workers[index]?
    pool.workerMove setup index worker move
  | .sender index => pool.senderMove index

/-- Only a submitter can submit or make another one, and only a holder of the handle can stop or
cancel. -/
def outer (pool : Pool σ) : Outer → Option (Pool σ)
  | .submit ticket => if 0 < pool.submitters then some (pool.submit ticket) else none
  | .addSubmitter =>
    if 0 < pool.submitters then some { pool with submitters := pool.submitters + 1 } else none
  | .dropSubmitter =>
    if 0 < pool.submitters then some { pool with submitters := pool.submitters - 1 } else none
  | .requestShutdown => if pool.held then some { pool with stopping := true } else none
  | .dropHandle => if pool.held then some { pool with held := false } else none
  | .cancel => if pool.held then some { pool with cancelled := true } else none

/-- Nothing can happen before the clock moves. -/
def Quiet (setup : Setup σ) (pool : Pool σ) : Prop := ∀ action, pool.inner setup action = none

def isGone : Worker → Bool
  | .gone => true
  | _ => false

/-- All workers have left. -/
def isFinished (pool : Pool σ) : Bool := pool.workers.all isGone

/-- The moments at which the pool's runs may move again. -/
def alarms (pool : Pool σ) : List Moment :=
  pool.workers.flatMap fun
    | .busy _ run => run.alarms
    | _ => []

end Pool

end Courier
