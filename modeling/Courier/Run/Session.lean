import Courier.Run.Watch

/-!
# Waiting under a watch

A session is one watch, its token and the clock.  It waits for moments in turn, either guarded by the
watch or plainly.  A wait is a loop: when it cannot end at the present moment the token fires if it
is due, and otherwise the clock moves to the next alarm.
-/

namespace Courier

structure Session where
  now : Moment
  watch : Watch
  token : Token

namespace Session

def start (range : ClockRange) (budget : Span) (cancelAfter : Option Span) : Session :=
  ⟨0, Watch.start range 0 budget, Token.after 0 cancelAfter⟩

/-- One turn of a wait that cannot end now. -/
def turn (session : Session) (alarms : List Moment) : Session :=
  if session.token.isDue session.now then { session with token := session.token.fire }
  else
    match nextMoment (alarms ++ session.token.alarms) with
    | some moment => { session with now := max session.now moment }
    | none => session

/-- Turns until the wait is over; four turns always do, since the clock stops at most twice. -/
def guardLoop (due : Moment) : Nat → Session → Except Interrupt Unit × Session
  | 0, session => (.ok (), session)
  | fuel + 1, session =>
    match session.watch.poll session.now session.token.fired due with
    | some outcome => (outcome, session)
    | none => guardLoop due fuel (session.turn [due, session.watch.deadline])

/-- Waits for something that takes a span, under the watch. -/
def guard (session : Session) (span : Span) : Except Interrupt Unit × Session :=
  guardLoop (Span.waitEnd session.now span) 5 session

/-- Turns until a moment is reached, whatever the watch says. -/
def waitLoop (due : Moment) : Nat → Session → Session
  | 0, session => session
  | fuel + 1, session =>
    if due ≤ session.now then session else waitLoop due fuel (session.turn [due])

/-- Waits for a span, not minding the watch. -/
def wait (session : Session) (span : Span) : Session :=
  waitLoop (Span.waitEnd session.now span) 4 session

def cancel (session : Session) : Session := { session with token := session.token.fire }

end Session

end Courier
