import Courier.Proofs.Run.Alone

/-!
# Runs at another time

Nothing in a run depends on the reading of the clock at its start: a run that starts a whole number
of milliseconds later does the same, so much later.
-/

namespace Courier

/-! ## Shifted states -/

def Watch.shift (offset : Span) (watch : Watch) : Watch :=
  ⟨offset + watch.startedAt, offset + watch.deadline⟩

def Token.shift (offset : Span) (token : Token) : Token :=
  { token with firesAt := token.firesAt.map (offset + ·) }

def Stage.shift (offset : Span) : Stage → Stage
  | .ready => .ready
  | .calling since due answer => .calling (offset + since) (offset + due) answer
  | .resting wake => .resting (offset + wake)

def Phase.shift (offset : Span) : Phase → Phase
  | .working request stage => .working request (stage.shift offset)
  | .over ending finishedAt => .over ending (offset + finishedAt)

/-- The run as it is when everything in it happens later by an offset. -/
def Run.shift (offset : Span) (run : Run) : Run :=
  { run with
    watch := run.watch.shift offset
    phase := run.phase.shift offset
    calls := run.calls.map fun call ↦ (offset + call.1, call.2) }

def Solo.shift {σ : Type} (offset : Span) (solo : Solo σ) : Solo σ :=
  ⟨offset + solo.now, solo.token.shift offset, solo.run.shift offset, solo.link⟩

/-! ## Watches and tokens -/

section Clock

variable {offset now due : Span} {cancelled : Bool} (watch : Watch) (token : Token)

@[simp]
theorem Watch.elapsed_shift : (watch.shift offset).elapsed (offset + now) = watch.elapsed now :=
  Nat.add_sub_add_left offset now watch.startedAt

@[simp]
theorem Watch.remaining_shift :
    (watch.shift offset).remaining (offset + now) = watch.remaining now :=
  Nat.add_sub_add_left offset watch.deadline now

@[simp]
theorem Watch.isExpired_shift :
    (watch.shift offset).isExpired (offset + now) = watch.isExpired now := by
  simp [isExpired, shift]

@[simp]
theorem Watch.poll_shift :
    (watch.shift offset).poll (offset + now) cancelled (offset + due) =
      watch.poll now cancelled due := by
  simp [poll, shift]

@[simp]
theorem Token.isDue_shift : (token.shift offset).isDue (offset + now) = token.isDue now := by
  simp [isDue, shift, Option.any_map]

theorem Token.alarms_shift : (token.shift offset).alarms = token.alarms.map (offset + ·) := by
  unfold alarms shift
  cases token.fired with
  | true => rfl
  | false => cases token.firesAt <;> rfl

theorem Token.after_eq_shift (delay : Option Span) :
    Token.after offset delay = (Token.after 0 delay).shift offset := by
  cases delay with
  | none => rfl
  | some delay => simp [after, shift, Span.waitEnd]

theorem nextMoment_shift (hwhole : Span.IsWhole offset) (alarms : List Moment) :
    nextMoment (alarms.map (offset + ·)) = (nextMoment alarms).map (offset + ·) := by
  induction alarms with
  | nil => rfl
  | cons alarm rest ih =>
    rw [List.map_cons, nextMoment, nextMoment, ih]
    cases nextMoment rest with
    | none => simp [Span.ceilMillis_add hwhole]
    | some other => simp [Span.ceilMillis_add hwhole, Nat.add_min_add_left]

end Clock

/-! ## Moves -/

namespace Run

variable {σ : Type} (terms : Terms) (link : Link σ) (run : Run) (offset now : Span)

@[simp]
theorem isOver_shift : (run.shift offset).isOver = run.isOver := by
  unfold isOver shift Phase.shift
  cases run.phase <;> rfl

theorem alarms_shift : (run.shift offset).alarms = run.alarms.map (offset + ·) := by
  unfold alarms shift Phase.shift Stage.shift
  rcases run.phase with ⟨request, stage⟩ | ⟨ending, finishedAt⟩
  · cases stage <;> rfl
  · rfl

theorem report?_shift (id : RunId) (clock : Moment → Timestamp) :
    (run.shift offset).report? id clock = run.report? id fun moment ↦ clock (offset + moment) := by
  unfold report? shift Phase.shift
  cases run.phase <;> rfl

theorem runId_of_report? {run : Run} {id : RunId} {clock : Moment → Timestamp} {report : Report}
    (h : run.report? id clock = some report) : report.runId = id := by
  unfold report? at h
  split at h
  · cases h; rfl
  · contradiction

theorem decide_shift (request : Request) :
    decide terms (run.shift offset) request (offset + now) =
      (decide terms run request now).shift offset := by
  have hremaining : (run.shift offset).watch.remaining (offset + now) = run.watch.remaining now :=
    run.watch.remaining_shift
  have hstate : (run.shift offset).state = run.state := rfl
  unfold decide
  rw [hstate, hremaining]
  cases terms.decide run.state with
  | stop reason => rfl
  | retry delay reason =>
    dsimp only
    split
    · rfl
    · have hwait : Span.waitEnd (offset + now) delay = offset + Span.waitEnd now delay :=
        Nat.add_assoc _ _ _
      rw [hwait]
      rfl

theorem receive_shift (request : Request) (since : Span) (reply : Reply) :
    receive terms (run.shift offset) request (offset + since) (offset + now) reply =
      (receive terms run request since now reply).shift offset := by
  have hduration : offset + now - (offset + since) = now - since := Nat.add_sub_add_left _ _ _
  have helapsed : (run.shift offset).watch.elapsed (offset + now) = run.watch.elapsed now :=
    run.watch.elapsed_shift
  cases reply with
  | success status body =>
    simp only [receive, hduration]
    rfl
  | _ =>
    simp only [receive, hduration, note, helapsed]
    rw [← decide_shift]
    rfl

theorem step_shift {σ : Type} (link : Link σ) (cancelled : Bool) (s : σ) :
    (run.shift offset).step terms link (offset + now) cancelled s =
      (run.step terms link now cancelled s).map fun (next, after) ↦ (next.shift offset, after) := by
  have hexpired : (run.shift offset).watch.isExpired (offset + now) = run.watch.isExpired now :=
    run.watch.isExpired_shift
  have hpoll (due : Moment) :
      (run.shift offset).watch.poll (offset + now) cancelled (offset + due) =
        run.watch.poll now cancelled due := run.watch.poll_shift
  rcases hphase : run.phase with ⟨request, stage⟩ | ⟨ending, finishedAt⟩
  · cases stage with
    | ready =>
      have hshift : (run.shift offset).phase = .working request .ready := by
        simp [shift, hphase, Phase.shift, Stage.shift]
      simp only [step, hphase, hshift, hexpired]
      split
      · rfl
      · split
        · rfl
        · simp [call, shift, Phase.shift, Stage.shift, Nat.add_assoc]
    | calling since due answer =>
      have hshift : (run.shift offset).phase =
          .working request (.calling (offset + since) (offset + due) answer) := by
        simp [shift, hphase, Phase.shift, Stage.shift]
      simp only [step, hphase, hshift, hpoll]
      split
      · rfl
      · rfl
      · rfl
      · cases answer with
        | error error => rfl
        | ok reply =>
          dsimp only
          rw [receive_shift]
          rfl
    | resting wake =>
      have hshift : (run.shift offset).phase = .working request (.resting (offset + wake)) := by
        simp [shift, hphase, Phase.shift, Stage.shift]
      simp only [step, hphase, hshift, hpoll]
      split
      · rfl
      · next reason _ => cases reason <;> rfl
      · rfl
  · have hshift : (run.shift offset).phase = .over ending (offset + finishedAt) := by
      simp [shift, hphase, Phase.shift]
    simp only [step, hphase, hshift]
    rfl

/-- A run starts as it would with the clock, unless the clock holds one of the two deadlines and not
the other. -/
theorem start_shift (payload : Bytes)
    (hheld : offset + terms.timeout < terms.clockRange.bound ∨
      terms.clockRange.bound ≤ terms.timeout) :
    (start terms payload 0).shift offset = start terms payload offset := by
  have hwatch : (Watch.start terms.clockRange 0 terms.timeout).shift offset =
      Watch.start terms.clockRange offset terms.timeout := by
    unfold Watch.shift Watch.start ClockRange.after
    grind
  cases hevent : Event.decode payload with
  | ok event =>
    rw [Solo.start_eq hevent, Solo.start_eq hevent, ← hwatch]
    rfl
  | error defect =>
    rw [Solo.start_eq_of_error hevent, Solo.start_eq_of_error hevent, ← hwatch]
    rfl

end Run

/-! ## Steps -/

namespace Solo

variable {σ : Type} {terms : Terms} {link : Link σ} {offset : Span}

theorem step_shift (hwhole : Span.IsWhole offset) (solo : Solo σ) :
    (solo.shift offset).step terms link = (solo.step terms link).shift offset := by
  have hmove := solo.run.step_shift terms offset solo.now link solo.token.fired solo.link
  have hover : (solo.run.shift offset).isOver = solo.run.isOver := solo.run.isOver_shift offset
  have hdue : (solo.token.shift offset).isDue (offset + solo.now) = solo.token.isDue solo.now :=
    solo.token.isDue_shift
  have hnext : nextMoment ((solo.run.shift offset).alarms ++ (solo.token.shift offset).alarms) =
      (nextMoment (solo.run.alarms ++ solo.token.alarms)).map (offset + ·) := by
    rw [Run.alarms_shift, Token.alarms_shift, ← List.map_append, nextMoment_shift hwhole]
  have hfired : (solo.token.shift offset).fired = solo.token.fired := rfl
  simp only [step, shift, hfired, hmove, hover, hdue, hnext]
  cases solo.run.step terms link solo.now solo.token.fired solo.link with
  | some moved => rfl
  | none =>
    simp only [Option.map_none]
    split
    · rfl
    · split
      · rfl
      · cases nextMoment (solo.run.alarms ++ solo.token.alarms) with
        | none => rfl
        | some moment => simp [Nat.add_max_add_left]

theorem finish?_shift (hwhole : Span.IsWhole offset) (fuel : Nat) (solo : Solo σ) :
    (solo.shift offset).finish? terms link fuel =
      (solo.finish? terms link fuel).map (shift offset) := by
  have hover (solo : Solo σ) : (solo.shift offset).run.isOver = solo.run.isOver :=
    solo.run.isOver_shift offset
  induction fuel generalizing solo with
  | zero =>
    unfold finish?
    rw [hover]
    split <;> rfl
  | succ fuel ih =>
    unfold finish?
    rw [hover, step_shift hwhole, ih]
    split <;> rfl

end Solo

end Courier
