import Courier.Time.Span

/-!
# Watches

A watch holds the start and the deadline of a run.  Waiting under a watch may be interrupted: a
cancellation that has come about wins over the deadline, and the deadline over what is waited for.
The deadline is compared exactly, although the clock only stands at whole milliseconds.
-/

namespace Courier

inductive Interrupt where
  | deadlineReached
  | cancelled
  deriving DecidableEq

structure Watch where
  startedAt : Moment
  deadline : Moment
  deriving DecidableEq

namespace Watch

/-- A watch with a budget; thirty years stand in for a budget that the clock cannot hold. -/
def start (range : ClockRange) (now : Moment) (budget : Span) : Watch :=
  ⟨now, range.after now budget⟩

def elapsed (watch : Watch) (now : Moment) : Span := now - watch.startedAt

/-- The time left, zero from the deadline on. -/
def remaining (watch : Watch) (now : Moment) : Span := watch.deadline - now

def isExpired (watch : Watch) (now : Moment) : Bool := decide (watch.deadline ≤ now)

/-- How a wait for a moment stands: interrupted, over, or still going on. -/
def poll (watch : Watch) (now : Moment) (cancelled : Bool) (due : Moment) :
    Option (Except Interrupt Unit) :=
  if cancelled then some (.error .cancelled)
  else if watch.deadline ≤ now then some (.error .deadlineReached)
  else if due ≤ now then some (.ok ())
  else none

section Poll

variable {watch : Watch} {now due : Moment} {cancelled : Bool}

theorem poll_eq_none_iff : watch.poll now cancelled due = none ↔
    cancelled = false ∧ now < watch.deadline ∧ now < due := by
  grind [poll]

theorem poll_eq_cancelled_iff :
    watch.poll now cancelled due = some (.error .cancelled) ↔ cancelled = true := by
  grind [poll]

theorem poll_eq_deadlineReached_iff : watch.poll now cancelled due =
    some (.error .deadlineReached) ↔ cancelled = false ∧ watch.deadline ≤ now := by
  grind [poll]

theorem poll_eq_ok_iff : watch.poll now cancelled due = some (.ok ()) ↔
    cancelled = false ∧ now < watch.deadline ∧ due ≤ now := by
  grind [poll]

end Poll

end Watch

/-- A cancellation that comes about once, at a moment or by hand. -/
structure Token where
  firesAt : Option Moment
  fired : Bool
  deriving DecidableEq

namespace Token

/-- A token that is to fire after a wait, if at all; without any wait it has fired beforehand. -/
def after (start : Moment) (delay : Option Span) : Token :=
  ⟨delay.map (Span.waitEnd start), delay = some 0⟩

def fire (token : Token) : Token := { token with fired := true }

/-- Whether the token has to fire now.  It does so only when everything else at this moment has
happened. -/
def isDue (token : Token) (now : Moment) : Bool :=
  !token.fired && token.firesAt.any fun moment ↦ decide (moment ≤ now)

/-- The moments at which the token makes the clock stop. -/
def alarms (token : Token) : List Moment := if token.fired then [] else token.firesAt.toList

end Token

/-- The first whole millisecond that reaches one of the alarms. -/
def nextMoment : List Moment → Option Moment
  | [] => none
  | alarm :: rest =>
    match nextMoment rest with
    | none => some (Span.ceilMillis alarm)
    | some other => some (min (Span.ceilMillis alarm) other)

end Courier
