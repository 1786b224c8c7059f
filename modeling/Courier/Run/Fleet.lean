import Courier.Run.Basic

/-!
# Fleets

A fleet is several runs that share their terms, a link and a clock.  Its moves are labelled: a run
starts or moves on, a token fires once its run is waiting, and when nothing else can happen the clock
moves to the next alarm.  Which of the possible moves comes next is left open; `Fleet.finish?` takes
them in one fixed order.
-/

namespace Courier

/-- A payload with the time to start it and, from there, the time after which to cancel it. -/
structure Errand where
  payload : Bytes
  startAfter : Span
  cancelAfter : Option Span

/-- The moment to start. -/
def Errand.startAt (errand : Errand) : Moment := Span.waitEnd 0 errand.startAfter

inductive Seat where
  | waiting
  | taken (run : Run) (token : Token)

namespace Seat

/-- The start of a run or its next move. -/
def move? {σ : Type} (terms : Terms) (link : Link σ) (now : Moment) (errand : Errand)
    (seat : Seat) (s : σ) : Option (Seat × σ) :=
  match seat with
  | .waiting =>
    if errand.startAt ≤ now then
      some (.taken (Run.start terms errand.payload now) (Token.after now errand.cancelAfter), s)
    else none
  | .taken run token =>
    (run.step terms link now token.fired s).map fun (run, s) ↦ (.taken run token, s)

/-- The cancellation of a run that is waiting. -/
def fire? (now : Moment) : Seat → Option Seat
  | .waiting => none
  | .taken run token =>
    if !run.isOver && token.isDue now then some (.taken run token.fire) else none

def alarms (errand : Errand) : Seat → List Moment
  | .waiting => [errand.startAt]
  | .taken run token => if run.isOver then [] else run.alarms ++ token.alarms

def run? : Seat → Option Run
  | .waiting => none
  | .taken run _ => some run

end Seat

structure Fleet (σ : Type) where
  now : Moment
  seats : List (Errand × Seat)
  link : σ

namespace Fleet

inductive Action where
  | move (index : Nat)
  | fire (index : Nat)
  | tick

def start {σ : Type} (errands : List Errand) (s : σ) : Fleet σ :=
  ⟨0, errands.map fun errand ↦ (errand, .waiting), s⟩

def moveAt {σ : Type} (terms : Terms) (link : Link σ) (fleet : Fleet σ) (index : Nat) :
    Option (Fleet σ) := do
  let (errand, seat) ← fleet.seats[index]?
  let (seat, s) ← seat.move? terms link fleet.now errand fleet.link
  some { fleet with seats := fleet.seats.set index (errand, seat), link := s }

/-- Whether a run can start or move at the present moment. -/
def canMove {σ : Type} (terms : Terms) (link : Link σ) (fleet : Fleet σ) (index : Nat) : Bool :=
  (fleet.moveAt terms link index).isSome

def fireAt {σ : Type} (terms : Terms) (link : Link σ) (fleet : Fleet σ) (index : Nat) :
    Option (Fleet σ) := do
  let (errand, seat) ← fleet.seats[index]?
  if fleet.canMove terms link index then none
  else
    let seat ← seat.fire? fleet.now
    some { fleet with seats := fleet.seats.set index (errand, seat) }

/-- The first index at which something can be done. -/
def firstAt {σ : Type} (fleet : Fleet σ) (attempt : Nat → Option (Fleet σ)) : Option (Fleet σ) :=
  (List.range fleet.seats.length).findSome? attempt

def tick {σ : Type} (terms : Terms) (link : Link σ) (fleet : Fleet σ) : Option (Fleet σ) :=
  if (fleet.firstAt (fleet.moveAt terms link)).isSome then none
  else if (fleet.firstAt (fleet.fireAt terms link)).isSome then none
  else
    (nextMoment (fleet.seats.flatMap fun (errand, seat) ↦ seat.alarms errand)).map fun moment ↦
      { fleet with now := max fleet.now moment }

/-- What an action leads to, where it is possible. -/
def act {σ : Type} (terms : Terms) (link : Link σ) (fleet : Fleet σ) :
    Action → Option (Fleet σ)
  | .move index => fleet.moveAt terms link index
  | .fire index => fleet.fireAt terms link index
  | .tick => fleet.tick terms link

/-- One action: the first run that can move, else the first token that is due, else the clock. -/
def next? {σ : Type} (terms : Terms) (link : Link σ) (fleet : Fleet σ) : Option (Fleet σ) :=
  match fleet.firstAt (fleet.moveAt terms link) with
  | some fleet => some fleet
  | none =>
    match fleet.firstAt (fleet.fireAt terms link) with
    | some fleet => some fleet
    | none => fleet.tick terms link

/-- The fleet when nothing can happen any more, if `fuel` actions are enough. -/
def finish? {σ : Type} (terms : Terms) (link : Link σ) : Nat → Fleet σ → Option (Fleet σ)
  | 0, _ => none
  | fuel + 1, fleet =>
    match fleet.next? terms link with
    | some fleet => finish? terms link fuel fleet
    | none => some fleet

def runs {σ : Type} (fleet : Fleet σ) : List Run := fleet.seats.filterMap fun (_, seat) ↦ seat.run?

end Fleet

end Courier
