import Courier.Run.Basic

/-!
# A run by itself

A run with its link, its token and the clock.  The run moves while it can; then the token fires if it
is due; then the clock moves to the next alarm.
-/

namespace Courier

structure Solo (σ : Type) where
  now : Moment
  token : Token
  run : Run
  link : σ

namespace Solo

/-- A run of a payload from the start of the clock, with a token of its own. -/
def startWith {σ : Type} (terms : Terms) (payload : Bytes) (token : Token) (s : σ) : Solo σ :=
  ⟨0, token, Run.start terms payload 0, s⟩

/-- A run that is cancelled after a wait, if at all. -/
def start {σ : Type} (terms : Terms) (payload : Bytes) (cancelAfter : Option Span) (s : σ) :
    Solo σ :=
  startWith terms payload (Token.after 0 cancelAfter) s

def step {σ : Type} (terms : Terms) (link : Link σ) (solo : Solo σ) : Solo σ :=
  match solo.run.step terms link solo.now solo.token.fired solo.link with
  | some (run, s) => { solo with run := run, link := s }
  | none =>
    if solo.run.isOver then solo
    else if solo.token.isDue solo.now then { solo with token := solo.token.fire }
    else
      match nextMoment (solo.run.alarms ++ solo.token.alarms) with
      | some moment => { solo with now := max solo.now moment }
      | none => solo

/-- The run when it is over, if `fuel` steps are enough. -/
def finish? {σ : Type} (terms : Terms) (link : Link σ) : Nat → Solo σ → Option (Solo σ)
  | 0, solo => if solo.run.isOver then some solo else none
  | fuel + 1, solo =>
    if solo.run.isOver then some solo else finish? terms link fuel (solo.step terms link)

/-- Steps that are enough for a number of attempts: for each, the call, its end, the wait and the
moves of the clock between them. -/
def fuelFor (attempts : Nat) : Nat := 8 * attempts + 16

end Solo

end Courier
