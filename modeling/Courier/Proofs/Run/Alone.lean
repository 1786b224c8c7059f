import Courier.Proofs.Run.Course
import Courier.Proofs.Run.Rank

/-!
# Runs by themselves on their timelines

The link of a run by itself answers one request again and again, so its answers are known beforehand
and with them the timeline of the run.  Whatever its token does, the run follows this timeline until
it ends where the timeline stops or is cut off on the way.  Where that is comes out for runs that are
never cancelled.
-/

namespace Courier

variable {σ : Type} {terms : Terms} {link : Link σ} {request : Request} {s : σ} {type : String}
  {payload : Bytes} {event : Event} {solo next last : Solo σ}

/-- The state of a link after a number of calls with one request. -/
def Link.after (link : Link σ) (request : Request) (s : σ) (count : Nat) : σ :=
  (fun s ↦ (link request s).2)^[count] s

theorem Link.after_succ (link : Link σ) (request : Request) (s : σ) (count : Nat) :
    link.after request s (count + 1) = (link request (link.after request s count)).2 :=
  Function.iterate_succ_apply' _ _ _

/-- The timeline of a run that starts with the clock and has the link to itself. -/
def Timeline.alone (terms : Terms) (link : Link σ) (request : Request) (s : σ) : Timeline :=
  ⟨terms, 0, fun k ↦ (link request (link.after request s k)).1⟩

/-- The run is under way, and either it has not begun or it could not move uncancelled. -/
structure Timeline.Halts (t : Timeline) (request : Request) (now : Moment) (k : Nat) (stage : Stage)
    (run : Run) : Prop where
  stands : t.Stands request now k stage run
  idle : (k = 0 ∧ stage = .ready) ∨ (run.Awaits now ∧ now < t.deadline)

namespace Solo

/-- Where a run with its token stands: under way, caught by the cancellation, ended of itself or cut
off. -/
inductive Course (t : Timeline) (request : Request) (solo : Solo σ) : Prop
  | going {k : Nat} {stage : Stage} (hfired : solo.token.fired = false)
      (hstands : t.Stands request solo.now k stage solo.run)
  | caught {k : Nat} {stage : Stage} (hfired : solo.token.fired = true)
      (hhalts : t.Halts request solo.now k stage solo.run)
  | ended (hended : t.Ended request solo.run)
  | cut {k : Nat} {stage : Stage} {before : Run} (hfired : solo.token.fired = true)
      (hhalts : t.Halts request solo.now k stage before)
      (hrun : solo.run = before.finish solo.now .cancelled)

/-- All that is known of a run by itself. -/
structure Follows (terms : Terms) (link : Link σ) (request : Request) (s : σ) (type : String)
    (solo : Solo σ) : Prop where
  whole : Span.IsWhole solo.now
  started : solo.run.watch.startedAt = 0
  eventType : solo.run.eventType = some type
  answers : solo.link = link.after request s solo.run.calls.length
  finished : ∀ ending finishedAt, solo.run.phase = .over ending finishedAt → finishedAt = solo.now
  course : Course (Timeline.alone terms link request s) request solo

theorem Course.stands {t : Timeline} (hcourse : Course t request solo)
    (hworking : solo.run.isOver = false) :
    ∃ k stage, t.Stands request solo.now k stage solo.run := by
  cases hcourse with
  | going _ hstands => exact ⟨_, _, hstands⟩
  | caught _ hhalts => exact ⟨_, _, hhalts.stands⟩
  | ended hended =>
    rw [hended.isOver_eq_true] at hworking
    contradiction
  | cut _ _ hrun =>
    rw [hrun] at hworking
    contradiction

theorem Follows.move {run : Run} {after : σ} (hfollows : Follows terms link request s type solo)
    (hmove : solo.run.Moves terms link solo.now solo.token.fired solo.link run after) :
    Follows terms link request s type { solo with run := run, link := after } where
  whole := hfollows.whole
  started := (congrArg Watch.startedAt hmove.watch_eq).trans hfollows.started
  eventType := hmove.eventType_eq.trans hfollows.eventType
  answers := by
    rcases hmove.calls_cases with ⟨hcalls, rfl⟩ | ⟨asked, hready, _, hcalls, rfl⟩
    · rw [hcalls]
      exact hfollows.answers
    · obtain ⟨k, stage, hstands⟩ := hfollows.course.stands hmove.isOver_eq_false
      cases hstands.phase.symm.trans hready
      rw [hcalls, List.length_append, List.length_singleton, Link.after_succ, hfollows.answers]
  finished ending finishedAt hover := hmove.finishedAt_eq hover
  course := by
    cases hfollows.course with
    | going hfired hstands =>
      have hstep : (link request solo.link).1 =
          (Timeline.alone terms link request s).steps solo.run.calls.length := by
        rw [hfollows.answers]
        rfl
      rcases hstands.moves Span.isWhole_zero hfollows.whole hstep hmove with
        ⟨k, stage, hnext⟩ | hended | ⟨hcancelled, _⟩
      · exact .going hfired hnext
      · exact .ended hended
      · rw [hfired] at hcancelled
        contradiction
    | caught hfired hhalts =>
      rw [hfired] at hmove
      exact .cut hfired hhalts hmove.eq_of_cancelled.1
    | ended hended =>
      have hworking := hmove.isOver_eq_false
      rw [hended.isOver_eq_true] at hworking
      contradiction
    | cut _ _ hrun =>
      have hworking := hmove.isOver_eq_false
      rw [hrun] at hworking
      contradiction

theorem Follows.fire (hfollows : Follows terms link request s type solo)
    (hawaits : solo.run.Awaits solo.now) (hearly : solo.now < solo.run.watch.deadline) :
    Follows terms link request s type { solo with token := solo.token.fire } where
  whole := hfollows.whole
  started := hfollows.started
  eventType := hfollows.eventType
  answers := hfollows.answers
  finished := hfollows.finished
  course := by
    obtain ⟨k, stage, hstands⟩ := hfollows.course.stands hawaits.isOver_eq_false
    rw [hstands.watch] at hearly
    exact .caught rfl ⟨hstands, .inr ⟨hawaits, hearly⟩⟩

theorem Follows.tick {moment : Moment} (hfollows : Follows terms link request s type solo)
    (hawaits : solo.run.Awaits solo.now) (hfired : solo.token.fired = false)
    (hnext : nextMoment (solo.run.alarms ++ solo.token.alarms) = some moment)
    (hlater : solo.now < moment) :
    Follows terms link request s type { solo with now := moment } where
  whole := isWhole_nextMoment hnext
  started := hfollows.started
  eventType := hfollows.eventType
  answers := hfollows.answers
  finished ending finishedAt hover := by
    have hworking := hawaits.isOver_eq_false
    rw [Run.isOver_eq_true_iff.mpr ⟨ending, finishedAt, hover⟩] at hworking
    contradiction
  course := by
    obtain ⟨k, stage, hstands⟩ := hfollows.course.stands hawaits.isOver_eq_false
    have hleast := (nextMoment_spec hnext).2
    have hnow : ∀ alarm ∈ solo.run.alarms, moment ≤ Span.ceilMillis alarm := by
      intro alarm halarm
      exact hleast alarm (List.mem_append_left _ halarm)
    exact .going hfired (hstands.tick Span.isWhole_zero hawaits hlater.le hnow)

theorem Follows.turn (hturn : Turns terms link solo next)
    (hfollows : Follows terms link request s type solo) :
    Follows terms link request s type next := by
  cases hturn with
  | move hmove => exact hfollows.move hmove
  | still _ => exact hfollows
  | fire hawaits hearly _ => exact hfollows.fire hawaits hearly
  | tick hawaits _ hfired _ hnext hlater => exact hfollows.tick hawaits hfired hnext hlater

theorem start_eq (hevent : Event.decode payload = .ok event) (terms : Terms) (now : Moment) :
    Run.start terms payload now =
      ⟨Watch.start terms.clockRange now terms.timeout, some event.type,
        .working (Request.ofEvent terms.target event) .ready, Progress.initial, [], [],
        [.runStarted event.type (event.id.getD "")]⟩ := by
  simp only [Run.start, hevent]
  rfl

/-- A payload that is no event ends its run at the start. -/
theorem start_eq_of_error {defect : Event.Defect} (hdefect : Event.decode payload = .error defect)
    (terms : Terms) (now : Moment) :
    Run.start terms payload now =
      ⟨Watch.start terms.clockRange now terms.timeout, none,
        .over (.fatal defect.problem.message) now, Progress.initial, [], [],
        [.payloadRejected defect.problem.message,
          .runFailed .fatal defect.problem.message 0]⟩ := by
  simp only [Run.start, hdefect]
  rfl

/-- A run of an event follows its timeline, whatever its token. -/
theorem follows_startWith (hevent : Event.decode payload = .ok event) (terms : Terms)
    (link : Link σ) (token : Token) (s : σ) :
    Follows terms link (Request.ofEvent terms.target event) s event.type
      (startWith terms payload token s) := by
  have hrun := start_eq hevent terms 0
  have hstands : (Timeline.alone terms link (Request.ofEvent terms.target event) s).Stands
      (Request.ofEvent terms.target event) 0 0 .ready (Run.start terms payload 0) := by
    rw [hrun]
    exact ⟨rfl, fun _ hj ↦ absurd hj (Nat.not_lt_zero _), rfl, rfl, rfl, rfl, rfl, rfl⟩
  refine ⟨Span.isWhole_zero, ?_, by rw [startWith, hrun], ?_, ?_, ?_⟩
  · rw [startWith, hrun]
    rfl
  · rw [startWith, hrun]
    rfl
  · intro ending finishedAt hover
    rw [startWith, hrun] at hover
    contradiction
  · cases hfired : token.fired with
    | false => exact .going hfired hstands
    | true => exact .caught hfired ⟨hstands, .inl ⟨rfl, rfl⟩⟩

theorem follows_after (hevent : Event.decode payload = .ok event) (terms : Terms)
    (link : Link σ) (token : Token) (s : σ) (count : Nat) :
    Follows terms link (Request.ofEvent terms.target event) s event.type
      ((startWith terms payload token s).after terms link count) :=
  after_induction (fun _ _ hturn hfollows ↦ hfollows.turn hturn)
    (follows_startWith hevent terms link token s) count

theorem Follows.report?_eq (hfollows : Follows terms link request s type solo) {ending : Ending}
    {finishedAt : Moment} (hphase : solo.run.phase = .over ending finishedAt) (id : RunId)
    (clock : Moment → Timestamp) : solo.run.report? id clock =
      some ⟨id, some type, ending.result, solo.run.records, clock 0, clock solo.now⟩ := by
  rw [Run.report?, hphase, ← hfollows.finished _ _ hphase, ← hfollows.eventType,
    ← hfollows.started]

/-- A run is over in time if its timeline stops, whatever its token. -/
theorem isOver_after_of_stop (hevent : Event.decode payload = .ok event) (token : Token) {k : Nat}
    (hstop : ((Timeline.alone terms link (Request.ofEvent terms.target event) s).stop? k).isSome)
    {count : Nat} (hcount : fuelFor (k + 1) ≤ count) :
    ((startWith terms payload token s).after terms link count).run.isOver = true := by
  have hstart : (startWith terms payload token s).run.state.number = 1 := by
    rw [startWith, start_eq hevent terms 0]
    rfl
  have hbound (count : Nat)
      (hworking : ((startWith terms payload token s).after terms link count).run.isOver = false) :
      ((startWith terms payload token s).after terms link count).run.state.number ≤ k + 1 := by
    obtain ⟨m, stage, hstands⟩ :=
      (follows_after hevent terms link token s count).course.stands hworking
    rw [hstands.number]
    apply Nat.succ_le_succ
    apply not_lt.mp
    intro hlt
    rw [hstands.reaches k hlt] at hstop
    contradiction
  refine isOver_after hstart hbound ?_
  unfold fuelFor at hcount
  omega

/-! ## Runs that are never cancelled -/

theorem token_after_of_never (hnever : solo.token = ⟨none, false⟩) (count : Nat) :
    (solo.after terms link count).token = ⟨none, false⟩ := by
  refine after_induction (motive := fun solo ↦ solo.token = ⟨none, false⟩) ?_ hnever count
  intro solo next hturn hnever
  cases hturn with
  | fire _ _ hdue =>
    rw [hnever] at hdue
    contradiction
  | _ => exact hnever

/-- A run that comes to its end uncancelled has ended of itself. -/
theorem ended_of_finish? (hevent : Event.decode payload = .ok event) {fuel : Nat}
    (hlast : (start terms payload none s).finish? terms link fuel = some last) :
    (Timeline.alone terms link (Request.ofEvent terms.target event) s).Ended
        (Request.ofEvent terms.target event) last.run ∧
      Follows terms link (Request.ofEvent terms.target event) s event.type last := by
  obtain ⟨rfl, hover⟩ := finish?_eq_some_iff.mp hlast
  have hfollows : Follows terms link (Request.ofEvent terms.target event) s event.type
      ((start terms payload none s).after terms link fuel) :=
    follows_after hevent terms link (Token.after 0 none) s fuel
  have htoken : ((start terms payload none s).after terms link fuel).token = ⟨none, false⟩ :=
    token_after_of_never rfl fuel
  refine ⟨?_, hfollows⟩
  cases hfollows.course with
  | going _ hstands =>
    rw [hstands.isOver_eq_false] at hover
    contradiction
  | ended hended => exact hended
  | caught hfired =>
    rw [htoken] at hfired
    contradiction
  | cut hfired =>
    rw [htoken] at hfired
    contradiction

theorem exists_finish?_of_stop (hevent : Event.decode payload = .ok event) (token : Token) {k : Nat}
    (hstop : ((Timeline.alone terms link (Request.ofEvent terms.target event) s).stop? k).isSome) :
    ∃ last, ∀ fuel ≥ fuelFor (k + 1),
      (startWith terms payload token s).finish? terms link fuel = some last := by
  have hover := isOver_after_of_stop hevent token hstop le_rfl
  exact ⟨_, fun fuel hfuel ↦ finish?_mono (finish?_eq_some_iff.mpr ⟨rfl, hover⟩) hfuel⟩

/-- A run that is never cancelled ends with the first call at which its timeline stops, as the
timeline says, and goes on for ever if there is none; without any time it ends before a call. -/
theorem finish?_follows_timeline (terms : Terms) (link : Link σ) (payload : Bytes) (event : Event)
    (s : σ) (hevent : Event.decode payload = .ok event)
    (htimeout : terms.timeout < terms.clockRange.bound) :
    let request := Request.ofEvent terms.target event
    let t := Timeline.alone terms link request s
    let solo := start terms payload none s
    t.deadline = terms.timeout ∧
      (terms.timeout = 0 → ∃ last, (∀ fuel ≥ fuelFor 1, solo.finish? terms link fuel = some last) ∧
        last.now = 0 ∧ last.run.calls = [] ∧
        ∀ id clock, last.run.report? id clock = some ⟨id, some event.type,
          (Ending.timedOut 0 0 none).result, [], clock 0, clock 0⟩) ∧
      (0 < terms.timeout → ∀ k ending finishedAt, t.Reaches k →
        t.stop? k = some (ending, finishedAt) →
        ∃ last, (∀ fuel ≥ fuelFor (k + 1), solo.finish? terms link fuel = some last) ∧
          last.now = finishedAt ∧ last.run.calls = t.calls request (k + 1) ∧
          ∀ id clock, last.run.report? id clock = some ⟨id, some event.type, ending.result,
            t.records (t.answered k), clock 0, clock finishedAt⟩) ∧
      (0 < terms.timeout → (∀ k, t.stop? k = none) → ∀ fuel, solo.finish? terms link fuel = none) := by
  intro request t solo
  have hdeadline : t.deadline = terms.timeout := by
    change terms.clockRange.after 0 terms.timeout = terms.timeout
    rw [ClockRange.after, Nat.zero_add, if_pos htimeout]
  refine ⟨hdeadline, fun hzero ↦ ?_, fun hpositive k ending finishedAt hreach hstop ↦ ?_,
    fun hpositive hnone fuel ↦ ?_⟩
  · have hlate : t.deadline ≤ t.callEnd 0 := by
      rw [hdeadline, hzero]
      exact Nat.zero_le _
    have hstop : (t.stop? 0).isSome := by
      rw [Timeline.stop?_of_late hlate]
      rfl
    obtain ⟨last, hlast⟩ := exists_finish?_of_stop hevent (Token.after 0 none) hstop
    obtain ⟨hended, hfollows⟩ := ended_of_finish? hevent (hlast _ le_rfl)
    refine ⟨last, hlast, ?_⟩
    cases hended with
    | unbegun hnone hphase hcalls hrecords =>
      have hnow : 0 = last.now := hfollows.finished _ _ hphase
      have hlimit : t.terms.timeout = 0 := hzero
      refine ⟨hnow.symm, hcalls, fun id clock ↦ ?_⟩
      rw [hfollows.report?_eq hphase, hrecords, ← hnow, hlimit]
    | stopped hearly =>
      change t.callStart _ < t.deadline at hearly
      rw [hdeadline, hzero] at hearly
      exact absurd hearly (Nat.not_lt_zero _)
  · have hsome : (t.stop? k).isSome := by
      rw [hstop]
      rfl
    obtain ⟨last, hlast⟩ := exists_finish?_of_stop hevent (Token.after 0 none) hsome
    obtain ⟨hended, hfollows⟩ := ended_of_finish? hevent (hlast _ le_rfl)
    refine ⟨last, hlast, ?_⟩
    cases hended with
    | unbegun hnone =>
      rw [← hdeadline] at hpositive
      exact absurd hpositive (not_lt.mpr hnone)
    | stopped _ hreach' hstop' hphase hcalls hrecords =>
      cases hreach'.eq_of_stop hreach (by rw [hstop']; rfl) hsome
      cases hstop'.symm.trans hstop
      have hnow : finishedAt = last.now := hfollows.finished _ _ hphase
      refine ⟨hnow.symm, hcalls, fun id clock ↦ ?_⟩
      rw [hfollows.report?_eq hphase, hrecords, ← hnow]
  · cases hfinish : solo.finish? terms link fuel with
    | none => rfl
    | some last =>
      cases (ended_of_finish? hevent hfinish).1 with
      | unbegun hnone' =>
        rw [← hdeadline] at hpositive
        exact absurd hpositive (not_lt.mpr hnone')
      | @stopped k _ _ _ _ hstop =>
        cases (hnone k).symm.trans hstop

/-- Asks for another attempt after every failure. -/
def insistent (timeout delay : Span) : Terms :=
  ⟨"", timeout, fun _ ↦ .retry delay "", fun number ↦ ⟨Ulid.ofNat number⟩, .usual⟩

/-- Answers from the second call on, each time after less than a millisecond. -/
def secondTime : Link Bool := fun _ called ↦
  (⟨.ok (if called then .success 200 [] else .transportFailure ""), 700000⟩, true)

theorem exists_decode_braces : ∃ event, Event.decode "{}".toUTF8.toList = .ok event := by
  have hok : (Event.decode "{}".toUTF8.toList).isOk = true := by decide +kernel
  cases hdecode : Event.decode "{}".toUTF8.toList with
  | ok event => exact ⟨event, rfl⟩
  | error defect =>
    rw [hdecode] at hok
    contradiction

def quickTimeline : Timeline where
  terms := insistent (Span.ofSeconds 30) 1500000
  origin := 0
  steps k := ⟨.ok (if k = 0 then .transportFailure "" else .success 200 []), 700000⟩

theorem alone_secondTime (request : Request) :
    Timeline.alone (insistent (Span.ofSeconds 30) 1500000) secondTime request false =
      quickTimeline := by
  apply congrArg (Timeline.mk _ 0)
  funext k
  cases k with
  | zero => rfl
  | succ k =>
    rw [Link.after_succ]
    rfl

/-- A wait of two milliseconds for one and a half, between two calls of one millisecond each. -/
theorem finish?_follows_timeline_quick : ∃ event last,
    Event.decode "{}".toUTF8.toList = .ok event ∧
      (insistent (Span.ofSeconds 30) 1500000).timeout < ClockRange.usual.bound ∧
      (start (insistent (Span.ofSeconds 30) 1500000) "{}".toUTF8.toList none false).finish?
        (insistent (Span.ofSeconds 30) 1500000) secondTime (fuelFor 2) = some last ∧
      last.now = Span.ofMillis 4 ∧ last.run.calls.map Prod.fst = [0, Span.ofMillis 3] ∧
      ∀ id clock, last.run.report? id clock = some ⟨id, some event.type, .completed "",
        [⟨⟨Ulid.ofNat 1⟩, 1, .transportFailure, none, "transport: ", 1⟩,
          ⟨⟨Ulid.ofNat 2⟩, 2, .success, some 200, "200", 1⟩], clock 0, clock (Span.ofMillis 4)⟩ := by
  obtain ⟨event, hevent⟩ := exists_decode_braces
  have htimeout : (insistent (Span.ofSeconds 30) 1500000).timeout < ClockRange.usual.bound := by
    decide
  have hreach : quickTimeline.Reaches 1 := by
    intro j hj
    rw [Nat.lt_one_iff.mp hj]
    decide +kernel
  have hstop : quickTimeline.stop? 1 = some (.completed "", Span.ofMillis 4) := by decide +kernel
  have hstarts : (List.range 2).map quickTimeline.callStart = [0, Span.ofMillis 3] := by
    decide +kernel
  have hrecords : quickTimeline.records (quickTimeline.answered 1) =
      [⟨⟨Ulid.ofNat 1⟩, 1, .transportFailure, none, "transport: ", 1⟩,
        ⟨⟨Ulid.ofNat 2⟩, 2, .success, some 200, "200", 1⟩] := by decide +kernel
  have hfollows := finish?_follows_timeline (insistent (Span.ofSeconds 30) 1500000) secondTime _
    event false hevent htimeout
  simp only [alone_secondTime] at hfollows
  obtain ⟨_, _, hstops, _⟩ := hfollows
  obtain ⟨last, hlast, hnow, hcalls, hreport⟩ := hstops (by decide) 1 _ _ hreach hstop
  refine ⟨event, last, hevent, htimeout, hlast _ le_rfl, hnow, ?_, fun id clock ↦ ?_⟩
  · rw [hcalls, Timeline.calls, List.map_map]
    exact hstarts
  · rw [hreport, hrecords]
    rfl

/-- No wait is longer than thirty years: where sixty are asked for and ninety are given, the second
call begins after thirty. -/
theorem finish?_cuts_long_wait :
    let terms := insistent (3 * Span.thirtyYears) (2 * Span.thirtyYears)
    terms.decide ⟨1, Span.ofMillis 1, some (.transportFailure "")⟩ =
        .retry (2 * Span.thirtyYears) "" ∧
      Span.ofMillis 2 + 2 * Span.thirtyYears < terms.timeout ∧
        terms.timeout < terms.clockRange.bound ∧
      ((start terms "{}".toUTF8.toList none false).finish? terms secondTime (fuelFor 2)).map
          (fun last ↦ (last.now, last.run.calls.map Prod.fst)) =
        some (Span.ofMillis 2 + Span.thirtyYears, [0, Span.ofMillis 1 + Span.thirtyYears]) ∧
      Span.ofMillis 1 + Span.thirtyYears ≠
        Span.ofMillis 1 + Span.ceilMillis (2 * Span.thirtyYears) := by
  refine ⟨rfl, by decide, by decide, by decide +kernel, by decide⟩

end Solo

end Courier
