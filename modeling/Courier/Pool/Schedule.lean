import Courier.Pool.Basic

/-!
# Driving a pool

One fixed order of a pool's actions: waiting submissions first, then the workers by their number, and
the clock only when nothing else can happen.
-/

namespace Courier

namespace Pool

variable {σ : Type}

/-- The moves of a worker in the order in which they are tried. -/
def moves : List Move :=
  [.look, .stop, .take, .hangUp, .work, .report, .close, .discard, .exit]

/-- The first move of a worker that is possible. -/
def workerNext (setup : Setup σ) (pool : Pool σ) (index : Nat) (worker : Worker) :
    Option (Pool σ) :=
  moves.findSome? (pool.workerMove setup index worker)

/-- The first possible action of the pool by itself. -/
def next? (setup : Setup σ) (pool : Pool σ) : Option (Pool σ) :=
  match (List.range pool.senders.length).findSome? pool.senderMove with
  | some pool => some pool
  | none => pool.workers.zipIdx.findSome? fun (worker, index) ↦ pool.workerNext setup index worker

/-- Acts until nothing can happen before the clock moves, for at most `fuel` actions. -/
def settle (setup : Setup σ) : Nat → Pool σ → Pool σ
  | 0, pool => pool
  | fuel + 1, pool =>
    match pool.next? setup with
    | some pool => settle setup fuel pool
    | none => pool

/-- The clock moves to the next alarm when nothing else can happen. -/
def tick? (setup : Setup σ) (pool : Pool σ) : Option (Pool σ) :=
  match pool.next? setup with
  | some _ => none
  | none => (nextMoment pool.alarms).map fun moment ↦ { pool with now := max pool.now moment }

/-- Settles and moves the clock from alarm to alarm until `done` holds, a limit would be passed, or
nothing is left to wait for.  Both fuels count down. -/
def runUntil (setup : Setup σ) (actions : Nat) (done : Pool σ → Bool) (limit : Option Moment) :
    Nat → Pool σ → Pool σ
  | 0, pool => pool
  | fuel + 1, pool =>
    let pool := pool.settle setup actions
    if done pool then pool
    else
      match nextMoment pool.alarms with
      | none => pool
      | some moment =>
        if limit.any fun last ↦ decide (last < moment) then pool
        else runUntil setup actions done limit fuel { pool with now := max pool.now moment }

/-- Lets a span pass, from a settled state to a settled state. -/
def wait (setup : Setup σ) (fuel : Nat) (pool : Pool σ) (span : Span) : Pool σ :=
  let last := Span.ceilMillis (Span.waitEnd pool.now span)
  let pool := pool.runUntil setup fuel (fun _ ↦ false) (some last) fuel
  { pool with now := max pool.now last }.settle setup fuel

/-- Whether a submission still waits. -/
def isPending (pool : Pool σ) (id : RunId) : Bool :=
  pool.senders.any fun sender ↦ decide (sender.ticket.runId = id)

/-- Submits and waits until the submission is accepted or refused. -/
def submitAndWait (setup : Setup σ) (fuel : Nat) (pool : Pool σ) (ticket : Ticket) : Pool σ :=
  (pool.submit ticket).runUntil setup fuel (fun pool ↦ !pool.isPending ticket.runId) none fuel

/-- Waits until all workers have left. -/
def join (setup : Setup σ) (fuel : Nat) (pool : Pool σ) : Pool σ :=
  pool.runUntil setup fuel isFinished none fuel

end Pool

end Courier
