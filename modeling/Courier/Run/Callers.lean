import Courier.Run.Link

/-!
# Calls that overlap

Callers share one link and a clock.  A call is started at once, and its answer is there when its
latency has passed; until it is taken the caller may give the call up.  What happens next is left
open: any caller may start, take or give up a call at any moment.
-/

namespace Courier

/-- What has become of a call. -/
inductive Fate where
  | waiting
  | answered (answer : Answer)
  | abandoned

structure Call where
  request : Request
  step : Step
  due : Moment
  fate : Fate

/-- A link and all calls of it that were started, in their order. -/
structure Callers (σ : Type) where
  now : Moment
  link : σ
  calls : List Call

namespace Callers

inductive Action where
  | start (request : Request)
  | take (index : Nat)
  | abandon (index : Nat)
  | pass (span : Span)

def start {σ : Type} (s : σ) : Callers σ := ⟨0, s, []⟩

def startCall {σ : Type} (link : Link σ) (callers : Callers σ) (request : Request) : Callers σ :=
  let (step, s) := link request callers.link
  let call : Call := ⟨request, step, callers.now + step.latency, .waiting⟩
  { callers with link := s, calls := callers.calls ++ [call] }

/-- Ends a call that is waiting. -/
def settle {σ : Type} (callers : Callers σ) (index : Nat) (fate : Call → Option Fate) :
    Option (Callers σ) := do
  let call ← callers.calls[index]?
  match call.fate with
  | .waiting =>
    let fate ← fate call
    some { callers with calls := callers.calls.set index { call with fate } }
  | _ => none

/-- What an action leads to, where it is possible. -/
def act {σ : Type} (link : Link σ) (callers : Callers σ) : Action → Option (Callers σ)
  | .start request => some (callers.startCall link request)
  | .take index => callers.settle index fun call ↦
    if call.due ≤ callers.now then some (.answered call.step.answer) else none
  | .abandon index => callers.settle index fun _ ↦ some .abandoned
  | .pass span => some { callers with now := callers.now + span }

def perform {σ : Type} (link : Link σ) : List Action → Callers σ → Option (Callers σ)
  | [], callers => some callers
  | action :: rest, callers => (callers.act link action).bind (perform link rest)

/-- The requests of the calls that are started, in their order. -/
def started : List Action → List Request
  | [] => []
  | .start request :: rest => request :: started rest
  | _ :: rest => started rest

end Callers

end Courier
