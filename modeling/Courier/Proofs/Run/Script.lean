import Courier.Run.Callers
import Courier.Run.Script
import Mathlib.Data.List.Basic

/-!
# Handing out a script

Only the start of a call touches a scripted link, so that calls which overlap or are given up are
served as if they had been made one after another.  What is kept at every moment: the steps of the
calls without a route are the script from its beginning, then the fallback, and the queue is the
rest of the script.
-/

namespace Courier

variable {σ : Type} {link : Link σ} {callers next last : Callers σ}

/-- The step with a latency that can be slept through. -/
def Step.timed (step : Step) : Step :=
  { step with latency := min step.latency Span.thirtyYears }

namespace Callers

/-! ## Actions -/

/-- The calls with their steps, whatever has become of them. -/
def served (callers : Callers σ) : List (Request × Step) :=
  callers.calls.map fun call ↦ (call.request, call.step)

/-- What a call gave its caller is the answer of its step. -/
def Honest (callers : Callers σ) : Prop :=
  ∀ call ∈ callers.calls, ∀ answer, call.fate = .answered answer → answer = call.step.answer

/-- An action starts a call or leaves the link and what was served alone. -/
inductive Acts (link : Link σ) (callers : Callers σ) : Action → Callers σ → Prop
  | start (request : Request) :
    Acts link callers (.start request) (callers.startCall link request)
  | other {action : Action} {next : Callers σ} (hstarted : started [action] = [])
    (hlink : next.link = callers.link) (hserved : next.served = callers.served)
    (hhonest : callers.Honest → next.Honest) : Acts link callers action next

theorem settle_acts {action : Action} {index : Nat} {fate : Call → Option Fate}
    (hstarted : started [action] = [])
    (hfate : ∀ call answer, fate call = some (.answered answer) → answer = call.step.answer)
    (hsettle : callers.settle index fate = some next) : Acts link callers action next := by
  obtain ⟨call, hcall, hsettle⟩ := Option.bind_eq_some_iff.mp hsettle
  split at hsettle
  · obtain ⟨end', hend, hnext⟩ := Option.bind_eq_some_iff.mp hsettle
    cases hnext
    refine .other hstarted rfl ?_ fun hhonest ↦ ?_
    · have hsame : callers.served[index]? = some (call.request, call.step) := by
        rw [served, List.getElem?_map, hcall]
        rfl
      obtain ⟨hindex, hsame⟩ := List.getElem?_eq_some_iff.mp hsame
      rw [served, List.map_set]
      exact (congrArg (callers.served.set index) hsame.symm).trans (List.set_getElem_self hindex)
    · intro other hother answer hanswer
      rcases List.mem_or_eq_of_mem_set hother with hother | rfl
      · exact hhonest other hother answer hanswer
      · exact hfate call answer (hend.trans (congrArg some hanswer))
  · contradiction

theorem act_acts {action : Action} (hact : callers.act link action = some next) :
    Acts link callers action next := by
  cases action with
  | start request =>
    cases hact
    exact .start request
  | take index =>
    refine settle_acts rfl (fun call answer hfate ↦ ?_) hact
    split at hfate
    · cases hfate
      rfl
    · contradiction
  | abandon index => exact settle_acts rfl (fun _ _ hfate ↦ by cases hfate) hact
  | pass span =>
    cases hact
    exact .other rfl rfl rfl id

theorem started_cons (action : Action) (rest : List Action) :
    started (action :: rest) = started [action] ++ started rest := by
  cases action <;> rfl

/-- What every action keeps, given the calls started so far, holds after every history. -/
theorem perform_induction {motive : List Request → Callers σ → Prop} {actions : List Action}
    {asked : List Request}
    (hact : ∀ asked callers action next, Acts link callers action next → motive asked callers →
      motive (asked ++ started [action]) next)
    (hperform : perform link actions callers = some last) (hcallers : motive asked callers) :
    motive (asked ++ started actions) last := by
  induction actions generalizing callers asked with
  | nil =>
    cases hperform
    rwa [started, List.append_nil]
  | cons action rest ih =>
    obtain ⟨next, hnext, hrest⟩ := Option.bind_eq_some_iff.mp hperform
    rw [started_cons, ← List.append_assoc]
    exact ih hrest (hact asked callers action next (act_acts hnext) hcallers)

theorem served_startCall (link : Link σ) (callers : Callers σ) (request : Request) :
    (callers.startCall link request).served =
      callers.served ++ [(request, (link request callers.link).1)] :=
  List.map_append

theorem honest_startCall (hhonest : callers.Honest) (request : Request) :
    (callers.startCall link request).Honest := by
  intro call hcall answer hanswer
  rcases List.mem_append.mp hcall with hcall | hcall
  · exact hhonest call hcall answer hanswer
  · rw [List.mem_singleton.mp hcall] at hanswer
    contradiction

end Callers
namespace Script

variable {script : Script} {request : Request} {asked : List Request} {step : Step}
  {callers next last : Callers Script}

/-! ## Single calls -/

theorem call_of_route (hroute : script.route? request.body = some step) :
    call request script = (step.timed,
      { script with calls := script.calls + 1, requests := script.requests ++ [request] }) := by
  rw [call, pick, hroute]
  rfl

theorem call_of_no_route (hroute : script.route? request.body = none) :
    call request script = ((script.queue.head?.getD script.fallback).timed,
      { script with
        queue := script.queue.tail
        calls := script.calls + 1
        requests := script.requests ++ [request] }) := by
  rw [call, pick, hroute]
  cases hqueue : script.queue with
  | nil => simp only [Step.timed, List.head?_nil, Option.getD_none, List.tail_nil]
  | cons step rest => rfl

/-- The first route of a body is the one that counts. -/
theorem route?_of_first {before after : List (Bytes × Step)} {body : Bytes}
    (hroutes : script.routes = before ++ (body, step) :: after)
    (hbefore : ∀ route ∈ before, route.1 ≠ body) : script.route? body = some step := by
  have hnone : (before.find? fun route ↦ route.1 = body) = none := by
    rw [List.find?_eq_none]
    intro route hroute
    simpa using hbefore route hroute
  rw [route?, hroutes, List.find?_append, hnone, Option.none_or,
    List.find?_cons_of_pos (by simp)]
  rfl

theorem route?_eq_none_iff {body : Bytes} :
    script.route? body = none ↔ ∀ route ∈ script.routes, route.1 ≠ body := by
  rw [route?, Option.map_eq_none_iff, List.find?_eq_none]
  simp

/-! ## All calls -/

/-- The calls without a route. -/
def unrouted (script : Script) (served : List (Request × Step)) : List (Request × Step) :=
  served.filter fun cue ↦ (script.route? cue.1.body).isNone

/-- What is kept of a script while the requests `asked` are made. -/
structure HandedOut (script : Script) (asked : List Request) (callers : Callers Script) :
    Prop where
  routes : callers.link.routes = script.routes
  fallback : callers.link.fallback = script.fallback
  queue : callers.link.queue = script.queue.drop (script.unrouted callers.served).length
  requests : callers.link.requests = asked
  counted : callers.link.calls = UInt32.ofNat asked.length
  asked : callers.served.map Prod.fst = asked
  byRoute : ∀ cue ∈ callers.served, ∀ step, script.route? cue.1.body = some step →
    cue.2 = step.timed
  inTurn : ∀ (k : Nat) (cue : Request × Step), (script.unrouted callers.served)[k]? = some cue →
    cue.2 = ((script.queue[k]?).getD script.fallback).timed
  honest : callers.Honest

theorem HandedOut.route?_eq (hout : HandedOut script asked callers) (body : Bytes) :
    callers.link.route? body = script.route? body := by
  rw [route?, route?, hout.routes]

theorem handedOut_start (hrequests : script.requests = []) (hcalls : script.calls = 0) :
    HandedOut script [] (Callers.start script) where
  routes := rfl
  fallback := rfl
  queue := rfl
  requests := hrequests
  counted := hcalls
  asked := rfl
  byRoute := by simp [Callers.start, Callers.served]
  inTurn := by simp [Callers.start, Callers.served, Script.unrouted]
  honest := by simp [Callers.start, Callers.Honest]

/-- Whatever step it gets, a call is counted and its request is taken down. -/
theorem call_frame (request : Request) (script : Script) :
    (call request script).2.routes = script.routes ∧
      (call request script).2.fallback = script.fallback ∧
      (call request script).2.requests = script.requests ++ [request] ∧
      (call request script).2.calls = script.calls + 1 := by
  cases hroute : script.route? request.body with
  | some step =>
    rw [call_of_route hroute]
    exact ⟨rfl, rfl, rfl, rfl⟩
  | none =>
    rw [call_of_no_route hroute]
    exact ⟨rfl, rfl, rfl, rfl⟩

theorem unrouted_append_of_route (served : List (Request × Step)) (given : Step)
    (hroute : script.route? request.body = some step) :
    script.unrouted (served ++ [(request, given)]) = script.unrouted served := by
  rw [Script.unrouted, List.filter_append, List.filter_cons_of_neg (by simp [hroute]),
    List.filter_nil, List.append_nil]
  rfl

theorem unrouted_append_of_no_route (served : List (Request × Step)) (given : Step)
    (hroute : script.route? request.body = none) :
    script.unrouted (served ++ [(request, given)]) =
      script.unrouted served ++ [(request, given)] := by
  rw [Script.unrouted, List.filter_append, List.filter_cons_of_pos (by simp [hroute]),
    List.filter_nil]
  rfl

/-- A call with a route leaves the queue alone; any other takes its first step. -/
theorem HandedOut.startCall (hout : HandedOut script asked callers) (request : Request) :
    HandedOut script (asked ++ [request]) (callers.startCall call request) := by
  obtain ⟨hroutes, hfallback, hrequests, hcalls⟩ := call_frame request callers.link
  have hserved := Callers.served_startCall call callers request
  suffices hsteps :
      (call request callers.link).2.queue =
        script.queue.drop (script.unrouted (callers.startCall call request).served).length ∧
      (∀ step, script.route? request.body = some step →
        (call request callers.link).1 = step.timed) ∧
      ∀ (k : Nat) (cue : Request × Step),
        (script.unrouted (callers.startCall call request).served)[k]? = some cue →
          cue.2 = ((script.queue[k]?).getD script.fallback).timed by
    refine ⟨hroutes.trans hout.routes, hfallback.trans hout.fallback, hsteps.1, ?_, ?_, ?_, ?_,
      hsteps.2.2, Callers.honest_startCall hout.honest request⟩
    · exact hrequests.trans (congrArg (· ++ [request]) hout.requests)
    · rw [List.length_append, UInt32.ofNat_add, ← hout.counted]
      exact hcalls
    · rw [hserved, List.map_append, hout.asked]
      rfl
    · rw [hserved]
      intro cue hcue step hroute
      rcases List.mem_append.mp hcue with hcue | hcue
      · exact hout.byRoute cue hcue step hroute
      · rw [List.mem_singleton.mp hcue] at hroute ⊢
        exact hsteps.2.1 step hroute
  cases hroute : script.route? request.body with
  | some step =>
    rw [hserved, unrouted_append_of_route _ _ hroute,
      call_of_route ((hout.route?_eq request.body).trans hroute)]
    refine ⟨hout.queue, fun found hfound ↦ ?_, hout.inTurn⟩
    cases hfound
    rfl
  | none =>
    rw [hserved, unrouted_append_of_no_route _ _ hroute,
      call_of_no_route ((hout.route?_eq request.body).trans hroute)]
    refine ⟨?_, fun found hfound ↦ (by cases hfound), fun k cue hcue ↦ ?_⟩
    · rw [List.length_append, List.length_singleton, ← List.tail_drop, ← hout.queue]
    · rcases Nat.lt_or_ge k (script.unrouted callers.served).length with hk | hk
      · rw [List.getElem?_append_left hk] at hcue
        exact hout.inTurn k cue hcue
      · rw [List.getElem?_append_right hk, List.getElem?_singleton] at hcue
        split at hcue
        · next hlast =>
          cases hcue
          rw [hout.queue, hout.fallback, List.head?_drop, Nat.le_antisymm (by omega) hk]
        · contradiction

theorem HandedOut.act {action : Callers.Action} (hacts : Callers.Acts call callers action next)
    (hout : HandedOut script asked callers) :
    HandedOut script (asked ++ Callers.started [action]) next := by
  cases hacts with
  | start request => exact hout.startCall request
  | other hstarted hlink hserved hhonest =>
    rw [hstarted, List.append_nil]
    refine ⟨?_, ?_, ?_, ?_, ?_, ?_, ?_, ?_, hhonest hout.honest⟩
    · rw [hlink, hout.routes]
    · rw [hlink, hout.fallback]
    · rw [hlink, hserved, hout.queue]
    · rw [hlink, hout.requests]
    · rw [hlink, hout.counted]
    · rw [hserved, hout.asked]
    · rw [hserved]
      exact hout.byRoute
    · rw [hserved]
      exact hout.inTurn

theorem perform_handedOut {actions : List Callers.Action} (hrequests : script.requests = [])
    (hcalls : script.calls = 0)
    (hperform : Callers.perform call actions (Callers.start script) = some last) :
    HandedOut script (Callers.started actions) last := by
  have hout := Callers.perform_induction (motive := HandedOut script)
    (fun _ _ _ _ hacts hcallers ↦ HandedOut.act hacts hcallers) hperform
    (handedOut_start hrequests hcalls)
  rwa [List.nil_append] at hout

/-! ## Whole histories -/

/-- A script before its first call. -/
def fresh (routes : List (Bytes × Step)) (queue : List Step) (fallback : Step) : Script where
  routes := routes
  queue := queue
  fallback := fallback
  requests := []

/-- Whether no route is for the body of the call. -/
def isUnrouted (routes : List (Bytes × Step)) (call : Call) : Bool :=
  decide (∀ route ∈ routes, route.1 ≠ call.request.body)

theorem unrouted_served (script : Script) (callers : Callers Script) :
    script.unrouted callers.served =
      (callers.calls.filter (isUnrouted script.routes)).map
        fun call ↦ (call.request, call.step) := by
  rw [Script.unrouted, Callers.served, List.filter_map]
  refine congrArg _ (List.filter_congr fun call _ ↦ ?_)
  rw [Bool.eq_iff_iff, isUnrouted, decide_eq_true_iff, ← route?_eq_none_iff, Function.comp_apply,
    Option.isNone_iff_eq_none]

/-- However calls overlap and whichever are given up: a call whose body has routes gets the step of
the first one and leaves the queue alone, and the others get the steps of the script one by one in
the order of their starts and then the fallback.  Calls are counted and their requests are kept in
this order too. -/
theorem script_is_handed_out (routes : List (Bytes × Step)) (queue : List Step) (fallback : Step)
    (actions : List Callers.Action) (callers : Callers Script)
    (hperform : Callers.perform call actions (Callers.start (fresh routes queue fallback)) =
      some callers) :
    (∀ call ∈ callers.calls, ∀ before step after,
      routes = before ++ (call.request.body, step) :: after →
        (∀ route ∈ before, route.1 ≠ call.request.body) → call.step = step.timed) ∧
    (∀ (k : Nat) (call : Call), (callers.calls.filter (isUnrouted routes))[k]? = some call →
      call.step = ((queue[k]?).getD fallback).timed) ∧
    callers.link.queue = queue.drop (callers.calls.filter (isUnrouted routes)).length ∧
    callers.link.routes = routes ∧ callers.link.fallback = fallback ∧
    callers.link.requests = Callers.started actions ∧
    callers.calls.map Call.request = Callers.started actions ∧
    callers.link.calls = UInt32.ofNat callers.link.requests.length ∧
    (∀ call ∈ callers.calls, ∀ answer, call.fate = .answered answer →
      answer = call.step.answer) ∧
    (∀ request, (∃ route ∈ routes, route.1 = request.body) →
      (callers.startCall call request).link.queue = callers.link.queue) ∧
    ∀ action next, callers.act call action = some next → Callers.started [action] = [] →
      next.link = callers.link := by
  have hout : HandedOut (fresh routes queue fallback) (Callers.started actions) callers :=
    perform_handedOut rfl rfl hperform
  have hunrouted := unrouted_served (fresh routes queue fallback) callers
  refine ⟨fun call hcall before step after hroutes hbefore ↦ ?_, fun k call hcall ↦ ?_, ?_,
    hout.routes, hout.fallback, hout.requests, ?_, ?_, hout.honest, fun request hrouted ↦ ?_,
    fun action next hact hstarted ↦ ?_⟩
  · exact hout.byRoute _ (List.mem_map_of_mem hcall) step (route?_of_first hroutes hbefore)
  · apply hout.inTurn k (call.request, call.step)
    rw [hunrouted, List.getElem?_map]
    exact congrArg _ hcall
  · rw [hout.queue, hunrouted, List.length_map]
    rfl
  · rw [← hout.asked, Callers.served, List.map_map]
    rfl
  · rw [hout.counted, hout.requests]
  · cases hroute : callers.link.route? request.body with
    | some step =>
      rw [Callers.startCall, call_of_route hroute]
    | none =>
      obtain ⟨route, hmem, hbody⟩ := hrouted
      have hroutes : callers.link.routes = routes := hout.routes
      rw [← hroutes] at hmem
      exact absurd hbody (route?_eq_none_iff.mp hroute route hmem)
  · cases Callers.act_acts hact with
    | start request => contradiction
    | other _ hlink _ _ => exact hlink

/-- Two calls overlap with a routed one; the first of them is given up, the second is answered
before the routed one, and a third finds the script used up. -/
def overlapping : List Callers.Action :=
  [.start (.json "http://a" [1]), .start (.json "http://a" [7]), .start (.json "http://a" [2]),
    .abandon 0, .take 2, .pass (Span.ofMillis 5), .take 1, .start (.json "http://a" [1])]

/-- One route, a script of two steps and the fallback. -/
def small : Script :=
  fresh [([7], ⟨.ok (.ofStatus 500 []), Span.ofMillis 5⟩)]
    [⟨.ok (.transportFailure "refused"), Span.ofMillis 9⟩, ⟨.error "broken", 0⟩]
    ⟨.ok (.ofStatus 200 []), 0⟩

theorem script_is_handed_out_overlapping : ∃ callers,
    Callers.perform call overlapping (Callers.start small) = some callers ∧
      callers.link.requests.map Request.body = [[1], [7], [2], [1]] ∧ callers.link.calls = 4 ∧
      (callers.calls.filter (isUnrouted small.routes)).length = 3 ∧
      callers.link.queue.length = 0 ∧
      ∀ call, (callers.calls.filter (isUnrouted small.routes))[2]? = some call →
        call.step = small.fallback.timed := by
  have hcount : ((Callers.perform call overlapping (Callers.start small)).map fun callers ↦
      (callers.calls.filter (isUnrouted small.routes)).length) = some 3 := by
    decide +kernel
  obtain ⟨callers, hperform, hcount⟩ := Option.map_eq_some_iff.mp hcount
  obtain ⟨_, hinTurn, hqueue, _, _, hrequests, _, hcalls, _⟩ :=
    script_is_handed_out small.routes small.queue small.fallback overlapping callers hperform
  refine ⟨callers, hperform, ?_, ?_, hcount, ?_, fun call hcall ↦ ?_⟩
  · rw [hrequests]
    rfl
  · rw [hcalls, hrequests]
    rfl
  · rw [hqueue, hcount]
    rfl
  · exact hinTurn 2 call hcall

end Script

end Courier
