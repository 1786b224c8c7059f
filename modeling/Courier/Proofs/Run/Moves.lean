import Courier.Run.Basic
import Mathlib.Order.Lattice

/-!
# Moves of a run

`Moves` lists what a run can do at a moment, a case with its guards for each kind of move, and
`step_eq_none_iff` says when it can do nothing.  What comes of a reply is put into four cases by the
strategy and the time that is left; the functions behind all this are opened only here.
-/

namespace Courier.Run

variable {σ : Type} {terms : Terms} {link : Link σ} {now : Moment} {cancelled : Bool}
  {run next : Run} {s after : σ}

/-! ## Replies -/

section Receive

variable {request : Request} {since : Moment} {reply : Reply}

/-- The progress on which the strategy decides after a failed attempt. -/
def progressAt (run : Run) (now : Moment) (reply : Reply) : Progress :=
  run.state.record reply (run.watch.elapsed now)

theorem decide_frame (terms : Terms) (run : Run) (request : Request) (now : Moment) :
    ∃ phase log, decide terms run request now = { run with phase := phase, log := log } := by
  unfold decide
  split
  · exact ⟨_, _, rfl⟩
  · dsimp only
    split <;> exact ⟨_, _, rfl⟩

/-- A reply adds its record, whatever else comes of it. -/
theorem receive_frame (terms : Terms) (run : Run) (request : Request) (since now : Moment)
    (reply : Reply) :
    ∃ phase state log, receive terms run request since now reply =
      { run with
        phase := phase
        state := state
        records := run.records ++ [Record.ofReply (terms.attemptId run.state.number)
          run.state.number reply (now - since)]
        log := log } := by
  cases reply with
  | success status body => exact ⟨_, _, _, rfl⟩
  | _ =>
    obtain ⟨phase, log, hdecide⟩ := decide_frame terms _ request now
    exact ⟨phase, _, log, hdecide⟩

section Frame

variable (terms : Terms) (run : Run) (request : Request) (since now : Moment) (reply : Reply)

@[simp]
theorem receive_watch : (receive terms run request since now reply).watch = run.watch := by
  obtain ⟨phase, state, log, hreceive⟩ := receive_frame terms run request since now reply
  rw [hreceive]

@[simp]
theorem receive_eventType :
    (receive terms run request since now reply).eventType = run.eventType := by
  obtain ⟨phase, state, log, hreceive⟩ := receive_frame terms run request since now reply
  rw [hreceive]

@[simp]
theorem receive_calls : (receive terms run request since now reply).calls = run.calls := by
  obtain ⟨phase, state, log, hreceive⟩ := receive_frame terms run request since now reply
  rw [hreceive]

@[simp]
theorem receive_records : (receive terms run request since now reply).records =
    run.records ++ [Record.ofReply (terms.attemptId run.state.number) run.state.number reply
      (now - since)] := by
  obtain ⟨phase, state, log, hreceive⟩ := receive_frame terms run request since now reply
  rw [hreceive]

/-- A reply is taken down in the attempt that it belongs to. -/
@[simp]
theorem receive_number :
    (receive terms run request since now reply).state.number = run.state.number := by
  cases reply with
  | success => rfl
  | _ =>
    obtain ⟨phase, log, hdecide⟩ := decide_frame terms _ request now
    exact congrArg (fun run ↦ run.state.number) hdecide

end Frame

theorem receive_state (hfailure : reply.isFailure = true) :
    (receive terms run request since now reply).state = run.progressAt now reply := by
  cases reply with
  | success => contradiction
  | _ =>
    obtain ⟨phase, log, hdecide⟩ := decide_frame terms _ request now
    exact congrArg state hdecide

theorem receive_phase_of_stop {reason : String} (hfailure : reply.isFailure = true)
    (hdecide : terms.decide (run.progressAt now reply) = .stop reason) :
    (receive terms run request since now reply).phase = .over (.exhausted reply.summary) now := by
  cases reply with
  | success => contradiction
  | _ =>
    simp only [progressAt] at hdecide
    simp only [receive, decide, note, hdecide]
    rfl

theorem receive_phase_of_late {delay : Span} {reason : String}
    (hfailure : reply.isFailure = true)
    (hdecide : terms.decide (run.progressAt now reply) = .retry delay reason)
    (hlate : run.watch.remaining now ≤ delay) :
    (receive terms run request since now reply).phase =
      .over (.timedOut terms.timeout run.state.number (some reply.summary)) now := by
  cases reply with
  | success => contradiction
  | _ =>
    simp only [progressAt] at hdecide
    simp only [receive, decide, note, hdecide, hlate, if_true]
    rfl

theorem receive_phase_of_retry {delay : Span} {reason : String}
    (hfailure : reply.isFailure = true)
    (hdecide : terms.decide (run.progressAt now reply) = .retry delay reason)
    (hearly : delay < run.watch.remaining now) :
    (receive terms run request since now reply).phase =
      .working request (.resting (Span.waitEnd now delay)) := by
  cases reply with
  | success => contradiction
  | _ =>
    simp only [progressAt] at hdecide
    simp only [receive, decide, note, hdecide, not_le.mpr hearly, if_false]

end Receive

/-! ## Moves -/

inductive Moves (terms : Terms) (link : Link σ) (now : Moment) (cancelled : Bool) (run : Run)
    (s : σ) : Run → σ → Prop
  | cancel {request : Request} {stage : Stage} (hphase : run.phase = .working request stage)
      (hcancelled : cancelled = true) :
      Moves terms link now cancelled run s (run.finish now .cancelled) s
  | expire {request : Request} (hphase : run.phase = .working request .ready)
      (hcancelled : cancelled = false) (hlate : run.watch.deadline ≤ now) :
      Moves terms link now cancelled run s (timeOut terms run now (run.state.number - 1)) s
  | call {request : Request} (hphase : run.phase = .working request .ready)
      (hcancelled : cancelled = false) (hearly : now < run.watch.deadline) :
      Moves terms link now cancelled run s (run.call link request now s).1
        (run.call link request now s).2
  | abandon {request : Request} {since due : Moment} {answer : Answer}
      (hphase : run.phase = .working request (.calling since due answer))
      (hcancelled : cancelled = false) (hlate : run.watch.deadline ≤ now) :
      Moves terms link now cancelled run s
        (timeOut terms (run.note (.callAbandoned run.state.number)) now run.state.number) s
  | fail {request : Request} {since due : Moment} {error : String}
      (hphase : run.phase = .working request (.calling since due (.error error)))
      (hcancelled : cancelled = false) (hearly : now < run.watch.deadline) (hdue : due ≤ now) :
      Moves terms link now cancelled run s
        ((run.note (.callFailed run.state.number error)).finish now (.fatal error)) s
  | receive {request : Request} {since due : Moment} {reply : Reply}
      (hphase : run.phase = .working request (.calling since due (.ok reply)))
      (hcancelled : cancelled = false) (hearly : now < run.watch.deadline) (hdue : due ≤ now) :
      Moves terms link now cancelled run s (receive terms run request since now reply) s
  | overrun {request : Request} {wake : Moment}
      (hphase : run.phase = .working request (.resting wake))
      (hcancelled : cancelled = false) (hlate : run.watch.deadline ≤ now) :
      Moves terms link now cancelled run s (timeOut terms run now run.state.number) s
  | wake {request : Request} {wake : Moment}
      (hphase : run.phase = .working request (.resting wake))
      (hcancelled : cancelled = false) (hearly : now < run.watch.deadline) (hwake : wake ≤ now) :
      Moves terms link now cancelled run s
        { run with state := run.state.advance, phase := .working request .ready } s

theorem step_moves (h : run.step terms link now cancelled s = some (next, after)) :
    Moves terms link now cancelled run s next after := by
  unfold step at h
  split at h
  · contradiction
  · next request hphase =>
    split at h
    · next hcancelled => cases h; exact .cancel hphase hcancelled
    · next hcancelled =>
      have hcancelled : cancelled = false := by simpa using hcancelled
      split at h
      · next hlate => cases h; exact .expire hphase hcancelled (of_decide_eq_true hlate)
      · next hearly =>
        have hearly : ¬ run.watch.deadline ≤ now := by simpa [Watch.isExpired] using hearly
        cases h
        exact .call hphase hcancelled (not_le.mp hearly)
  · next request since due answer hphase =>
    split at h
    · contradiction
    · next hpoll => cases h; exact .cancel hphase (Watch.poll_eq_cancelled_iff.mp hpoll)
    · next hpoll =>
      obtain ⟨hcancelled, hlate⟩ := Watch.poll_eq_deadlineReached_iff.mp hpoll
      cases h
      exact .abandon hphase hcancelled hlate
    · next hpoll =>
      obtain ⟨hcancelled, hearly, hdue⟩ := Watch.poll_eq_ok_iff.mp hpoll
      split at h
      · cases h; exact .fail hphase hcancelled hearly hdue
      · cases h; exact .receive hphase hcancelled hearly hdue
  · next request wake hphase =>
    split at h
    · contradiction
    · next reason hpoll =>
      cases h
      cases reason with
      | cancelled => exact .cancel hphase (Watch.poll_eq_cancelled_iff.mp hpoll)
      | deadlineReached =>
        obtain ⟨hcancelled, hlate⟩ := Watch.poll_eq_deadlineReached_iff.mp hpoll
        exact .overrun hphase hcancelled hlate
    · next hpoll =>
      obtain ⟨hcancelled, hearly, hwake⟩ := Watch.poll_eq_ok_iff.mp hpoll
      cases h
      exact .wake hphase hcancelled hearly hwake

theorem Moves.watch_eq (h : Moves terms link now cancelled run s next after) :
    next.watch = run.watch := by
  cases h with
  | receive => simp
  | _ => rfl

theorem Moves.eventType_eq (h : Moves terms link now cancelled run s next after) :
    next.eventType = run.eventType := by
  cases h with
  | receive => simp
  | _ => rfl

theorem Moves.isOver_eq_false (h : Moves terms link now cancelled run s next after) :
    run.isOver = false := by
  cases h with
  | _ => simp only [isOver, *]

/-- A run that is cancelled can only end as such. -/
theorem Moves.eq_of_cancelled (h : Moves terms link now true run s next after) :
    next = run.finish now .cancelled ∧ after = s := by
  cases h with
  | cancel => exact ⟨rfl, rfl⟩
  | _ => contradiction

/-- Only a call, which is made before the deadline, adds to the calls and changes the link. -/
theorem Moves.calls_cases (h : Moves terms link now cancelled run s next after) :
    (next.calls = run.calls ∧ after = s) ∨
      ∃ request, run.phase = .working request .ready ∧ now < run.watch.deadline ∧
        next.calls = run.calls ++ [(now, request)] ∧ after = (link request s).2 := by
  cases h with
  | @call request hphase _ hearly => exact .inr ⟨request, hphase, hearly, rfl, rfl⟩
  | receive => exact .inl ⟨by simp, rfl⟩
  | _ => exact .inl ⟨rfl, rfl⟩

/-- A reply either ends the run or leads to a wait that is shorter than the time left. -/
theorem receive_cases (terms : Terms) (run : Run) (request : Request) (since now : Moment)
    (reply : Reply) :
    (∃ ending, (receive terms run request since now reply).phase = .over ending now) ∨
      ∃ delay reason, (receive terms run request since now reply).state = run.progressAt now reply ∧
        terms.decide (run.progressAt now reply) = .retry delay reason ∧
        delay < run.watch.remaining now ∧
        (receive terms run request since now reply).phase =
          .working request (.resting (Span.waitEnd now delay)) := by
  cases hfailure : reply.isFailure with
  | false =>
    cases reply with
    | success => exact .inl ⟨_, rfl⟩
    | _ => contradiction
  | true =>
    cases hdecide : terms.decide (run.progressAt now reply) with
    | stop reason => exact .inl ⟨_, receive_phase_of_stop hfailure hdecide⟩
    | retry delay reason =>
      rcases le_or_gt (run.watch.remaining now) delay with hlate | hearly
      · exact .inl ⟨_, receive_phase_of_late hfailure hdecide hlate⟩
      · exact .inr ⟨delay, reason, receive_state hfailure, rfl, hearly,
          receive_phase_of_retry hfailure hdecide hearly⟩

/-- A run that ends does so at the moment of its move. -/
theorem Moves.finishedAt_eq (h : Moves terms link now cancelled run s next after)
    {ending : Ending} {finishedAt : Moment} (hover : next.phase = .over ending finishedAt) :
    finishedAt = now := by
  cases h with
  | @receive request since due reply =>
    rcases receive_cases terms run request since now reply with
      ⟨other, hphase⟩ | ⟨delay, reason, _, _, _, hphase⟩
    · cases hphase.symm.trans hover
      rfl
    · cases hphase.symm.trans hover
  | call => cases hover
  | wake => cases hover
  | _ => cases hover; rfl

/-- Waits for a moment that has not come yet. -/
inductive Awaits (run : Run) (now : Moment) : Prop
  | call {request : Request} {since due : Moment} {answer : Answer}
      (hphase : run.phase = .working request (.calling since due answer)) (hdue : now < due)
  | rest {request : Request} {wake : Moment}
      (hphase : run.phase = .working request (.resting wake)) (hwake : now < wake)

theorem Awaits.deadline_mem_alarms (h : run.Awaits now) : run.watch.deadline ∈ run.alarms := by
  cases h with
  | _ => simp [alarms, *]

/-- The moments that a waiting run waits for are all to come. -/
theorem Awaits.lt_of_mem_alarms (h : run.Awaits now) (hearly : now < run.watch.deadline)
    {alarm : Moment} (halarm : alarm ∈ run.alarms) : now < alarm := by
  cases h with
  | call hphase hdue =>
    simp only [alarms, hphase, List.mem_cons, List.not_mem_nil, or_false] at halarm
    rcases halarm with rfl | rfl
    · exact hdue
    · exact hearly
  | rest hphase hwake =>
    simp only [alarms, hphase, List.mem_cons, List.not_mem_nil, or_false] at halarm
    rcases halarm with rfl | rfl
    · exact hwake
    · exact hearly

theorem Awaits.isOver_eq_false (h : run.Awaits now) : run.isOver = false := by
  cases h with
  | _ => simp only [isOver, *]

/-- A run can do nothing when it is over, and when it awaits a moment uncancelled and in time. -/
theorem step_eq_none_iff : run.step terms link now cancelled s = none ↔
    run.isOver = true ∨ cancelled = false ∧ now < run.watch.deadline ∧ run.Awaits now := by
  unfold step
  split
  · next hphase => simp [isOver, hphase]
  · next request hphase =>
    have hidle : ¬ run.Awaits now := by
      rintro (⟨hcalling, _⟩ | ⟨hresting, _⟩)
      · rw [hphase] at hcalling; cases hcalling
      · rw [hphase] at hresting; cases hresting
    have hworking : run.isOver = false := by simp [isOver, hphase]
    simp only [hidle, hworking]
    split
    · simp
    · split <;> simp
  · next request since due answer hphase =>
    have hawaits : run.Awaits now ↔ now < due := by
      constructor
      · rintro (⟨hcalling, hdue⟩ | ⟨hresting, _⟩)
        · rw [hphase] at hcalling; cases hcalling; exact hdue
        · rw [hphase] at hresting; cases hresting
      · exact fun hdue ↦ .call hphase hdue
    have hworking : run.isOver = false := by simp [isOver, hphase]
    rw [hawaits, hworking, ← Watch.poll_eq_none_iff]
    split
    · next hpoll => simp [hpoll]
    · next hpoll => simp [hpoll]
    · next hpoll => simp [hpoll]
    · next hpoll => split <;> simp [hpoll]
  · next request wake hphase =>
    have hawaits : run.Awaits now ↔ now < wake := by
      constructor
      · rintro (⟨hcalling, _⟩ | ⟨hresting, hwake⟩)
        · rw [hphase] at hcalling; cases hcalling
        · rw [hphase] at hresting; cases hresting; exact hwake
      · exact fun hwake ↦ .rest hphase hwake
    have hworking : run.isOver = false := by simp [isOver, hphase]
    rw [hawaits, hworking, ← Watch.poll_eq_none_iff]
    split
    · next hpoll => simp [hpoll]
    · next hpoll => simp [hpoll]
    · next hpoll => simp [hpoll]

end Courier.Run
