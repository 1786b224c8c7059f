import Courier.Run.Link

/-!
# Scripted links

A scripted link answers by rote.  A request whose body has a route gets the step of its first route;
the others get the queued steps in turn, and the fallback when none is left.  Calls are counted, and
all requests are kept in the order of their calls.
-/

namespace Courier

structure Script where
  routes : List (Bytes × Step)
  queue : List Step
  fallback : Step
  requests : List Request
  /-- The number of calls started, counted in 32 bits. -/
  calls : UInt32 := 0

namespace Script

def route? (script : Script) (body : Bytes) : Option Step :=
  (script.routes.find? fun route ↦ route.1 = body).map Prod.snd

/-- Counts the call, takes down the request and picks its step. -/
def pick (script : Script) (request : Request) : Step × Script :=
  let kept :=
    { script with calls := script.calls + 1, requests := script.requests ++ [request] }
  match script.route? request.body with
  | some step => (step, kept)
  | none =>
    match script.queue with
    | step :: rest => (step, { kept with queue := rest })
    | [] => (script.fallback, kept)

/-- Answers by the picked step; its latency is slept through, and no sleep is longer than thirty
years. -/
def call : Link Script := fun request script ↦
  let (step, script) := script.pick request
  ({ step with latency := min step.latency Span.thirtyYears }, script)

end Script

end Courier
