import Courier.Proofs.Run.Alone

/-!
# How runs come to their close

`Timeline.Close` lists the ways in which a run of an event can end, each with the moment, the number
of calls that were begun and the number of records that were kept.  What can be said about finished
runs follows from this list and from the timeline, without another look at the run.
-/

namespace Courier

namespace Timeline

variable {t : Timeline} {request : Request} {now : Moment} {k m : Nat} {stage : Stage} {run : Run}
  {reply : Reply}

/-- Call `k` is answered with a failure, and the strategy decides about it. -/
structure Fails (t : Timeline) (k : Nat) (reply : Reply) (decision : Decision) : Prop where
  answer : (t.steps k).answer = .ok reply
  failure : reply.isFailure = true
  decision : t.decision k (t.callEnd k) reply = decision

/-- A run ends so at a moment, after so many calls and with so many records. -/
inductive Close (t : Timeline) : Ending → Moment → Nat → Nat → Prop
  | unbegun : Close t (.timedOut t.terms.timeout 0 none) t.origin 0 0
  | cutUnbegun {now : Moment} : Close t .cancelled now 0 0
  | abandoned {k : Nat} (hreach : t.Reaches k) (hlate : t.deadline ≤ t.callEnd k) :
      Close t (.timedOut t.terms.timeout (k + 1) ((t.lastReply k).map Reply.summary))
        (Span.ceilMillis t.deadline) (k + 1) k
  | cutCalling {k : Nat} {now : Moment} (hreach : t.Reaches k) (hnow : now ≤ t.callEnd k) :
      Close t .cancelled now (k + 1) k
  | failed {k : Nat} {error : String} (hreach : t.Reaches k)
      (hanswer : (t.steps k).answer = .error error) :
      Close t (.fatal error) (t.callEnd k) (k + 1) k
  | completed {k status : Nat} {body : Bytes} (hreach : t.Reaches k)
      (hanswer : (t.steps k).answer = .ok (.success status body)) :
      Close t (.completed (Utf8.lossy body)) (t.callEnd k) (k + 1) (k + 1)
  | stopped {k : Nat} {reply : Reply} {reason : String} (hreach : t.Reaches k)
      (hfails : t.Fails k reply (.stop reason)) :
      Close t (.exhausted reply.summary) (t.callEnd k) (k + 1) (k + 1)
  | outOfTime {k : Nat} {reply : Reply} {delay : Span} {reason : String} {now : Moment}
      (hreach : t.Reaches k) (hfails : t.Fails k reply (.retry delay reason)) :
      Close t (.timedOut t.terms.timeout (k + 1) (some reply.summary)) now (k + 1) (k + 1)
  | cutResting {k : Nat} {reply : Reply} {delay : Span} {reason : String} {now : Moment}
      (hreach : t.Reaches k) (hfails : t.Fails k reply (.retry delay reason)) :
      Close t .cancelled now (k + 1) (k + 1)

/-! ## Failing calls -/

theorem Waits.fails {delay : Span} (hwaits : t.Waits k reply delay) :
    ∃ reason, t.Fails k reply (.retry delay reason) := by
  obtain ⟨reason, hdecision⟩ := hwaits.decision
  exact ⟨reason, hwaits.answer, hwaits.failure, hdecision⟩

/-- Every call before one that is reached fails and is followed by another attempt. -/
theorem Reaches.fails (hreach : t.Reaches k) {j : Nat} (hj : j < k) :
    ∃ reply delay reason, t.Fails j reply (.retry delay reason) := by
  obtain ⟨reply, delay, hwaits, _⟩ := stop?_eq_none_iff.mp (hreach j hj)
  obtain ⟨reason, hfails⟩ := hwaits.fails
  exact ⟨reply, delay, reason, hfails⟩

/-- Each of the first `m` calls has a reply. -/
def Replied (t : Timeline) (m : Nat) : Prop := ∀ j < m, ∃ reply, (t.steps j).answer = .ok reply

/-- The reply to each of the first `m` calls is a failure. -/
def Failing (t : Timeline) (m : Nat) : Prop :=
  ∀ j < m, ∃ reply, (t.steps j).answer = .ok reply ∧ reply.isFailure = true

theorem Reaches.failing (hreach : t.Reaches k) : t.Failing k := by
  intro j hj
  obtain ⟨reply, _, _, hfails⟩ := hreach.fails hj
  exact ⟨reply, hfails.answer, hfails.failure⟩

theorem Failing.succ (hfailing : t.Failing k) {decision : Decision}
    (hfails : t.Fails k reply decision) : t.Failing (k + 1) := by
  intro j hj
  rcases Nat.lt_succ_iff_lt_or_eq.mp hj with hj | rfl
  · exact hfailing j hj
  · exact ⟨reply, hfails.answer, hfails.failure⟩

theorem Failing.replied (hfailing : t.Failing m) : t.Replied m := by
  intro j hj
  obtain ⟨reply, hanswer, _⟩ := hfailing j hj
  exact ⟨reply, hanswer⟩

theorem Replied.succ (hreplied : t.Replied k) (hanswer : (t.steps k).answer = .ok reply) :
    t.Replied (k + 1) := by
  intro j hj
  rcases Nat.lt_succ_iff_lt_or_eq.mp hj with hj | rfl
  · exact hreplied j hj
  · exact ⟨reply, hanswer⟩

theorem Replied.length_records (hreplied : t.Replied m) : (t.records m).length = m := by
  induction m with
  | zero => rfl
  | succ m ih =>
    obtain ⟨reply, hanswer⟩ := hreplied m (Nat.lt_succ_self m)
    have hbefore : t.Replied m := fun j hj ↦ hreplied j (Nat.lt_succ_of_lt hj)
    rw [records_succ_of_ok hanswer, List.length_append, ih hbefore]
    rfl

theorem Replied.getElem?_records (hreplied : t.Replied m) {j : Nat} {record : Record}
    (hrecord : (t.records m)[j]? = some record) :
    ∃ reply, (t.steps j).answer = .ok reply ∧
      record = Record.ofReply (t.terms.attemptId (j + 1)) (j + 1) reply
        (t.callEnd j - t.callStart j) := by
  induction m with
  | zero => contradiction
  | succ m ih =>
    obtain ⟨reply, hanswer⟩ := hreplied m (Nat.lt_succ_self m)
    have hbefore : t.Replied m := fun j hj ↦ hreplied j (Nat.lt_succ_of_lt hj)
    have hj : j < m + 1 := by
      rw [← hreplied.length_records]
      exact (List.getElem?_eq_some_iff.mp hrecord).1
    rw [records_succ_of_ok hanswer] at hrecord
    rcases Nat.lt_succ_iff_lt_or_eq.mp hj with hj | rfl
    · rw [List.getElem?_append_left (by rwa [hbefore.length_records])] at hrecord
      exact ih hbefore hrecord
    · rw [List.getElem?_append_right hbefore.length_records.le, hbefore.length_records,
        Nat.sub_self] at hrecord
      cases hrecord
      exact ⟨reply, hanswer, rfl⟩

/-! ## Finished runs -/

/-- All replies are failures, except for the last one of a run that is completed with it. -/
theorem Close.failing_or_completed {ending : Ending} {finishedAt : Moment} {begun answered : Nat}
    (hclose : t.Close ending finishedAt begun answered) :
    t.Failing answered ∧ (∀ value, ending ≠ .completed value) ∨
      ∃ k status body, ending = .completed (Utf8.lossy body) ∧ answered = k + 1 ∧ t.Failing k ∧
        (t.steps k).answer = .ok (.success status body) := by
  cases hclose with
  | unbegun | cutUnbegun => exact .inl ⟨fun j hj ↦ absurd hj (Nat.not_lt_zero j), fun _ ↦ nofun⟩
  | abandoned hreach | cutCalling hreach | failed hreach =>
    exact .inl ⟨hreach.failing, fun _ ↦ nofun⟩
  | completed hreach hanswer => exact .inr ⟨_, _, _, rfl, rfl, hreach.failing, hanswer⟩
  | stopped hreach hfails | outOfTime hreach hfails | cutResting hreach hfails =>
    exact .inl ⟨hreach.failing.succ hfails, fun _ ↦ nofun⟩

theorem Close.replied {ending : Ending} {finishedAt : Moment} {begun answered : Nat}
    (hclose : t.Close ending finishedAt begun answered) : t.Replied answered := by
  rcases hclose.failing_or_completed with ⟨hfailing, _⟩ | ⟨k, _, _, _, rfl, hfailing, hanswer⟩
  · exact hfailing.replied
  · exact hfailing.replied.succ hanswer

/-- What a run has done by the time it ends. -/
structure Closed (t : Timeline) (request : Request) (run : Run) (ending : Ending)
    (finishedAt : Moment) (begun answered : Nat) : Prop where
  close : t.Close ending finishedAt begun answered
  phase : run.phase = .over ending finishedAt
  calls : run.calls = t.calls request begun
  records : run.records = t.records answered

theorem Ended.closed (hended : t.Ended request run) :
    ∃ ending finishedAt begun answered, t.Closed request run ending finishedAt begun answered := by
  cases hended with
  | unbegun hnone hphase hcalls hrecords => exact ⟨_, _, 0, 0, .unbegun, hphase, hcalls, hrecords⟩
  | @stopped k ending finishedAt hearly hreach hstop hphase hcalls hrecords =>
    have houtcome := t.outcome k
    rw [hstop] at houtcome
    cases houtcome with
    | late hlate =>
      rw [answered_of_late hlate] at hrecords
      exact ⟨_, _, k + 1, k, .abandoned hreach hlate, hphase, hcalls, hrecords⟩
    | error hbefore hanswer =>
      rw [answered_of_early hbefore, records_succ_of_error hanswer] at hrecords
      exact ⟨_, _, k + 1, k, .failed hreach hanswer, hphase, hcalls, hrecords⟩
    | success hbefore hanswer =>
      rw [answered_of_early hbefore] at hrecords
      exact ⟨_, _, k + 1, k + 1, .completed hreach hanswer, hphase, hcalls, hrecords⟩
    | stop hbefore hanswer hfailure hdecision =>
      rw [answered_of_early hbefore] at hrecords
      exact ⟨_, _, k + 1, k + 1, .stopped hreach ⟨hanswer, hfailure, hdecision⟩, hphase, hcalls,
        hrecords⟩
    | long hbefore hanswer hfailure hdecision hlong =>
      rw [answered_of_early hbefore] at hrecords
      exact ⟨_, _, k + 1, k + 1, .outOfTime hreach ⟨hanswer, hfailure, hdecision⟩, hphase, hcalls,
        hrecords⟩
    | overslept hwaits hlate =>
      obtain ⟨reason, hfails⟩ := hwaits.fails
      rw [answered_of_early hwaits.early] at hrecords
      exact ⟨_, _, k + 1, k + 1, .outOfTime hreach hfails, hphase, hcalls, hrecords⟩

theorem Halts.closed (hhalts : t.Halts request now k stage run) :
    ∃ begun answered,
      t.Closed request (run.finish now .cancelled) .cancelled now begun answered := by
  have hstands := hhalts.stands
  have hcalls : (run.finish now .cancelled).calls = t.calls request (begun k stage) := hstands.calls
  have hrecords : (run.finish now .cancelled).records = t.records (kept k stage) := hstands.records
  rcases hhalts.idle with ⟨rfl, rfl⟩ | ⟨hawaits, _⟩
  · exact ⟨0, 0, .cutUnbegun, rfl, hcalls, hrecords⟩
  · have hallows := hstands.allows
    cases hawaits with
    | call hcalling hdue =>
      cases hstands.phase.symm.trans hcalling
      obtain ⟨_, _, _, _, _, hend, _⟩ := hallows
      exact ⟨k + 1, k, .cutCalling hstands.reaches hend, rfl, hcalls, hrecords⟩
    | rest hresting hwake =>
      cases hstands.phase.symm.trans hresting
      obtain ⟨⟨reply, delay, hwaits, _⟩, _⟩ := hallows
      obtain ⟨reason, hfails⟩ := hwaits.fails
      exact ⟨k + 1, k + 1, .cutResting hstands.reaches hfails, rfl, hcalls, hrecords⟩

end Timeline

namespace Solo

variable {σ : Type} {terms : Terms} {link : Link σ} {request : Request} {s : σ} {type : String}
  {payload : Bytes} {event : Event} {solo last : Solo σ}

theorem Follows.closed (hfollows : Follows terms link request s type solo)
    (hover : solo.run.isOver = true) : ∃ ending begun answered,
      (Timeline.alone terms link request s).Closed request solo.run ending solo.now begun
        answered := by
  cases hfollows.course with
  | going _ hstands =>
    rw [hstands.isOver_eq_false] at hover
    contradiction
  | caught _ hhalts =>
    rw [hhalts.stands.isOver_eq_false] at hover
    contradiction
  | ended hended =>
    obtain ⟨ending, finishedAt, begun, answered, hclosed⟩ := hended.closed
    cases hfollows.finished _ _ hclosed.phase
    exact ⟨ending, begun, answered, hclosed⟩
  | cut _ hhalts hrun =>
    obtain ⟨begun, answered, hclosed⟩ := hhalts.closed
    rw [← hrun] at hclosed
    exact ⟨.cancelled, begun, answered, hclosed⟩

/-- A run that has finished is over, whatever its token. -/
theorem closed_of_finish? (hevent : Event.decode payload = .ok event) {token : Token} {fuel : Nat}
    (hlast : (startWith terms payload token s).finish? terms link fuel = some last) :
    Follows terms link (Request.ofEvent terms.target event) s event.type last ∧
      ∃ ending begun answered,
        (Timeline.alone terms link (Request.ofEvent terms.target event) s).Closed
          (Request.ofEvent terms.target event) last.run ending last.now begun answered := by
  obtain ⟨rfl, hover⟩ := finish?_eq_some_iff.mp hlast
  have hfollows := follows_after hevent terms link token s fuel
  exact ⟨hfollows, hfollows.closed hover⟩

end Solo

end Courier
