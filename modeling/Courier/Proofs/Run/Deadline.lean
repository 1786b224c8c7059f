import Courier.Proofs.Run.Alone

/-!
# The deadline

No call begins at the deadline or later, no answer that comes as late as that counts, and no wait is
begun that would last until then; a run is over at the first whole millisecond that reaches the
deadline.  This needs no timeline: it is kept by every turn of any run, cancelled or not.
-/

namespace Courier

/-- An ending that the answer to a call brings about. -/
def Ending.isOfCall : Ending → Bool
  | .completed _ => true
  | .exhausted _ => true
  | .fatal _ => true
  | .timedOut _ _ _ => false
  | .cancelled => false

namespace Run

variable {run : Run}

def ending? (run : Run) : Option Ending :=
  match run.phase with
  | .over ending _ => some ending
  | .working _ _ => none

def isResting (run : Run) : Bool :=
  match run.phase with
  | .working _ (.resting _) => true
  | _ => false

theorem ending?_eq_some_iff {ending : Ending} :
    run.ending? = some ending ↔ ∃ finishedAt, run.phase = .over ending finishedAt := by
  unfold ending?
  split
  · next hphase => simp [hphase]
  · next hphase => simp [hphase]

theorem isResting_eq_true_iff :
    run.isResting = true ↔ ∃ request wake, run.phase = .working request (.resting wake) := by
  unfold isResting
  split
  · next hphase => simp [hphase]
  · next hphase => simpa using hphase

end Run

namespace Solo

variable {σ : Type} {terms : Terms} {link : Link σ} {payload : Bytes} {token : Token} {s : σ}
  {deadline : Moment} {solo next : Solo σ}

/-- The answer to a call has come, and before the deadline. -/
def Answers (deadline : Moment) (answer : Answer) (solo : Solo σ) : Prop :=
  ∃ request since due, solo.run.phase = .working request (.calling since due answer) ∧
    Span.ceilMillis due ≤ solo.now ∧ solo.now < deadline

structure InTime (deadline : Moment) (solo : Solo σ) : Prop where
  whole : Span.IsWhole solo.now
  bound : solo.now ≤ Span.ceilMillis deadline
  watch : solo.run.watch.deadline = deadline
  calls : ∀ call ∈ solo.run.calls, call.1 < deadline
  finished : ∀ ending finishedAt, solo.run.phase = .over ending finishedAt →
    finishedAt = solo.now

theorem InTime.turn (hturn : Turns terms link solo next) (hsolo : InTime deadline solo) :
    InTime deadline next := by
  cases hturn with
  | move hmove =>
    have hwatch := (congrArg Watch.deadline hmove.watch_eq).trans hsolo.watch
    refine ⟨hsolo.whole, hsolo.bound, hwatch, ?_, fun _ _ ↦ hmove.finishedAt_eq⟩
    rcases hmove.calls_cases with ⟨hcalls, _⟩ | ⟨request, _, hearly, hcalls, _⟩
    · rw [hcalls]
      exact hsolo.calls
    · rw [hsolo.watch] at hearly
      rw [hcalls]
      intro call hcall
      rcases List.mem_append.mp hcall with hcall | hcall
      · exact hsolo.calls call hcall
      · rw [List.mem_singleton.mp hcall]
        exact hearly
  | still _ => exact hsolo
  | fire _ _ _ => exact ⟨hsolo.whole, hsolo.bound, hsolo.watch, hsolo.calls, hsolo.finished⟩
  | tick hawaits _ _ _ hnext _ =>
    refine ⟨isWhole_nextMoment hnext, ?_, hsolo.watch, hsolo.calls, fun ending finishedAt hover ↦ ?_⟩
    · have hleast := (nextMoment_spec hnext).2 _
        (List.mem_append_left _ hawaits.deadline_mem_alarms)
      rwa [hsolo.watch] at hleast
    · have hworking := hawaits.isOver_eq_false
      rw [Run.isOver_eq_true_iff.mpr ⟨ending, finishedAt, hover⟩] at hworking
      contradiction

theorem InTime.answers {request : Request} {since due : Moment} {answer : Answer}
    (hsolo : InTime deadline solo)
    (hphase : solo.run.phase = .working request (.calling since due answer))
    (hearly : solo.now < solo.run.watch.deadline) (hdue : due ≤ solo.now) :
    Answers deadline answer solo := by
  rw [hsolo.watch] at hearly
  exact ⟨request, since, due, hphase, (Span.ceilMillis_le_iff hsolo.whole).mpr hdue, hearly⟩

theorem Turns.records_cases (hturn : Turns terms link solo next) (hsolo : InTime deadline solo) :
    next.run.records = solo.run.records ∨
      ∃ id number reply duration, Answers deadline (.ok reply) solo ∧
        next.run.records = solo.run.records ++ [Record.ofReply id number reply duration] := by
  cases hturn with
  | move hmove =>
    cases hmove with
    | @receive request since _ reply hphase _ hearly hdue =>
      right
      exact ⟨_, _, reply, _, hsolo.answers hphase hearly hdue,
        Run.receive_records terms solo.run request since solo.now reply⟩
    | _ => exact .inl rfl
  | _ => exact .inl rfl

theorem Turns.answers_of_isOfCall (hturn : Turns terms link solo next)
    (hsolo : InTime deadline solo) (hworking : solo.run.isOver = false) {ending : Ending}
    {finishedAt : Moment} (hover : next.run.phase = .over ending finishedAt)
    (hcall : ending.isOfCall = true) : ∃ answer, Answers deadline answer solo := by
  cases hturn with
  | move hmove =>
    cases hmove with
    | fail hphase _ hearly hdue => exact ⟨_, hsolo.answers hphase hearly hdue⟩
    | receive hphase _ hearly hdue => exact ⟨_, hsolo.answers hphase hearly hdue⟩
    | call | wake => cases hover
    | _ =>
      cases hover
      contradiction
  | still hbefore =>
    rw [hbefore] at hworking
    contradiction
  | fire hawaits | tick hawaits =>
    have hworking := hawaits.isOver_eq_false
    rw [Run.isOver_eq_true_iff.mpr ⟨ending, finishedAt, hover⟩] at hworking
    contradiction

theorem Turns.retry_of_resting (hturn : Turns terms link solo next) (hsolo : InTime deadline solo)
    {request : Request} {wake : Moment}
    (hresting : next.run.phase = .working request (.resting wake))
    (hbegun : solo.run.phase ≠ next.run.phase) :
    ∃ delay reason, terms.decide next.run.state = .retry delay reason ∧
      wake = Span.waitEnd solo.now delay ∧ delay < deadline - solo.now := by
  cases hturn with
  | move hmove =>
    cases hmove with
    | @receive asked since due reply hphase _ hearly hdue =>
      rcases Run.receive_cases terms solo.run asked since solo.now reply with
        ⟨ending, hover⟩ | ⟨delay, reason, hstate, hdecide, hremaining, hrest⟩
      · cases hover.symm.trans hresting
      · cases hrest.symm.trans hresting
        rw [Watch.remaining, hsolo.watch] at hremaining
        exact ⟨delay, reason, by rw [hstate, hdecide], rfl, hremaining⟩
    | _ => cases hresting
  | _ => exact absurd rfl hbegun

theorem inTime_after (terms : Terms) (link : Link σ) (payload : Bytes) (token : Token) (s : σ)
    (count : Nat) : InTime (terms.clockRange.after 0 terms.timeout)
      ((startWith terms payload token s).after terms link count) := by
  refine after_induction (fun _ _ hturn hsolo ↦ hsolo.turn hturn) ?_ count
  refine ⟨Span.isWhole_zero, Nat.zero_le _, ?_, ?_, ?_⟩
  all_goals
    simp only [startWith]
    cases hdecode : Event.decode payload with
    | ok event => simp [Run.start, hdecode, Run.note, Watch.start]
    | error defect => simp [Run.start, hdecode, Run.note, Run.finish, Watch.start, Eq.comm]

/-- Whatever the payload, the link, the strategy and the cancellation, a run keeps its deadline at
every step: calls begin before it; a record is added, and an answer ends the run, only when that
answer has come before it; a wait is begun only for less than the time left; and the run is over at
the first whole millisecond that reaches it. -/
theorem after_keeps_deadline (terms : Terms) (link : Link σ) (payload : Bytes) (token : Token)
    (s : σ) :
    let deadline :=
      if terms.timeout < terms.clockRange.bound then terms.timeout else Span.thirtyYears
    let path (count : Nat) := (startWith terms payload token s).after terms link count
    (∀ j, ∀ call ∈ (path j).run.calls, call.1 < deadline) ∧
      (∀ j, (path (j + 1)).run.records = (path j).run.records ∨
        ∃ id number reply duration, Answers deadline (.ok reply) (path j) ∧
          (path (j + 1)).run.records =
            (path j).run.records ++ [Record.ofReply id number reply duration]) ∧
      (∀ j ending finishedAt, (path j).run.isOver = false →
        (path (j + 1)).run.phase = .over ending finishedAt → ending.isOfCall = true →
        ∃ answer, Answers deadline answer (path j)) ∧
      (∀ j request wake, (path (j + 1)).run.phase = .working request (.resting wake) →
        (path j).run.phase ≠ (path (j + 1)).run.phase →
        ∃ delay reason, terms.decide (path (j + 1)).run.state = .retry delay reason ∧
          wake = Span.waitEnd (path j).now delay ∧ delay < deadline - (path j).now) ∧
      ∀ j ending finishedAt, (path j).run.phase = .over ending finishedAt →
        finishedAt = (path j).now ∧ finishedAt ≤ Span.ceilMillis deadline := by
  intro deadline path
  have hdeadline : terms.clockRange.after 0 terms.timeout = deadline := by
    simp only [ClockRange.after, Nat.zero_add]
    rfl
  have hpath (j : Nat) : InTime deadline (path j) :=
    hdeadline ▸ inTime_after terms link payload token s j
  have hturn (j : Nat) : Turns terms link (path j) (path (j + 1)) := by
    change Turns terms link (path j) ((startWith terms payload token s).after terms link (j + 1))
    rw [after_succ]
    exact step_turns terms link (path j)
  refine ⟨fun j ↦ (hpath j).calls, fun j ↦ (hturn j).records_cases (hpath j),
    fun j ending finishedAt hworking ↦ (hturn j).answers_of_isOfCall (hpath j) hworking,
    fun j request wake ↦ (hturn j).retry_of_resting (hpath j),
    fun j ending finishedAt hover ↦ ?_⟩
  have hfinished := (hpath j).finished _ _ hover
  exact ⟨hfinished, hfinished.trans_le (hpath j).bound⟩

/-- Where a run of two calls stands at its steps. -/
def quickPath (count : Nat) : Solo Bool :=
  (startWith (insistent (Span.ofSeconds 30) 1500000) "{}".toUTF8.toList ⟨none, false⟩ false).after
    (insistent (Span.ofSeconds 30) 1500000) secondTime count

theorem after_keeps_deadline_quick :
    (∀ call ∈ (quickPath 8).run.calls, call.1 < Span.ofSeconds 30) ∧
      (quickPath 8).run.calls.map Prod.fst = [0, Span.ofMillis 3] ∧
      (∃ delay reason, (insistent (Span.ofSeconds 30) 1500000).decide (quickPath 3).run.state =
        .retry delay reason ∧ delay < Span.ofSeconds 30 - Span.ofMillis 1) ∧
      (∃ answer, Answers (Span.ofSeconds 30) answer (quickPath 7)) ∧
      ∃ ending finishedAt, (quickPath 8).run.phase = .over ending finishedAt ∧
        finishedAt ≤ Span.ofSeconds 30 := by
  obtain ⟨hcalls, _, hendings, hrests, hover⟩ := after_keeps_deadline
    (insistent (Span.ofSeconds 30) 1500000) secondTime "{}".toUTF8.toList ⟨none, false⟩ false
  have hstarts : (quickPath 8).run.calls.map Prod.fst = [0, Span.ofMillis 3] := by decide +kernel
  have hnow : (quickPath 2).now = Span.ofMillis 1 := by decide +kernel
  have hworking : (quickPath 7).run.isOver = false := by decide +kernel
  have hended : (quickPath 8).run.ending?.any Ending.isOfCall = true := by decide +kernel
  have hcalling : (quickPath 2).run.isResting = false := by decide +kernel
  have hresting : (quickPath 3).run.isResting = true := by decide +kernel
  have hbegun : (quickPath 2).run.phase ≠ (quickPath 3).run.phase := by
    intro hphase
    rw [Run.isResting, hphase] at hcalling
    rw [Run.isResting, hcalling] at hresting
    contradiction
  obtain ⟨request, wake, hphase⟩ := Run.isResting_eq_true_iff.mp hresting
  obtain ⟨delay, reason, hdecide, _, hshort⟩ := hrests 2 request wake hphase hbegun
  rw [← hnow]
  obtain ⟨ending, hending, hcall⟩ := (Option.any_eq_true _ _).mp hended
  obtain ⟨finishedAt, hphase⟩ := Run.ending?_eq_some_iff.mp hending
  exact ⟨hcalls 8, hstarts, ⟨delay, reason, hdecide, hshort⟩,
    hendings 7 ending finishedAt hworking hphase hcall, ending, finishedAt, hphase,
    (hover 8 ending finishedAt hphase).2⟩

end Solo

end Courier
