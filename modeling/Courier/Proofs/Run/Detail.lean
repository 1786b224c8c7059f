import Courier.Proofs.Run.Account

/-!
# Details of timeouts

The detail of a run that has run out of time gives its time limit, the number of calls it has
started and the summary of its last record.  An abandoned call is counted and has no record.
-/

namespace Courier

theorem Ending.result_eq_timeout_iff {ending : Ending} {detail : String} :
    ending.result = .failed .timeout detail ↔ ∃ limit calls lastFailure,
      ending = .timedOut limit calls lastFailure ∧
        detail = timeoutDetail limit calls lastFailure := by
  cases ending with
  | timedOut limit calls lastFailure =>
    constructor
    · rintro ⟨⟩
      exact ⟨limit, calls, lastFailure, rfl, rfl⟩
    · rintro ⟨_, _, _, ⟨⟩, rfl⟩
      rfl
  | _ => exact iff_of_false (by simp [result]) (by rintro ⟨_, _, _, ⟨⟩, _⟩)

/-- The detail up to the number of calls. -/
def Ending.counted (limit : Span) (calls : Nat) : String :=
  "start-to-close timeout of " ++ limit.text ++ " exceeded after " ++ toString calls ++
    " attempt(s)"

theorem Ending.timeoutDetail_none (limit : Span) (calls : Nat) :
    timeoutDetail limit calls none = counted limit calls :=
  String.append_empty

theorem Ending.timeoutDetail_some (limit : Span) (calls : Nat) (summary : String) :
    timeoutDetail limit calls (some summary) =
      counted limit calls ++ "; last failure: " ++ summary :=
  (String.append_assoc ..).symm

/-- The detail goes on after the number of calls just when there is a failure to tell of. -/
theorem Ending.timeoutDetail_goes_on_iff {limit : Span} {calls : Nat}
    {lastFailure : Option String} :
    (∃ summary, timeoutDetail limit calls lastFailure =
      counted limit calls ++ "; last failure: " ++ summary) ↔ lastFailure ≠ none := by
  cases lastFailure with
  | none =>
    refine iff_of_false ?_ (by simp)
    rintro ⟨summary, hdetail⟩
    have hlength := congrArg String.length hdetail
    rw [timeoutDetail_none, String.length_append, String.length_append] at hlength
    have htail : "; last failure: ".length = 16 := by decide
    omega
  | some summary => exact iff_of_true ⟨summary, timeoutDetail_some limit calls summary⟩ (by simp)

namespace Timeline

variable {t : Timeline} {request : Request} {run : Run} {limit : Span} {lastFailure : Option String}
  {finishedAt : Moment} {calls begun answered k : Nat}

/-- The last record is about the last reply. -/
theorem Replied.summary_getLast?_records (hreplied : t.Replied k) :
    (t.records k).getLast?.map Record.summary = (t.lastReply k).map Reply.summary := by
  cases k with
  | zero => rfl
  | succ k =>
    obtain ⟨reply, hanswer⟩ := hreplied k (Nat.lt_succ_self k)
    rw [records_succ_of_ok hanswer, List.getLast?_concat, lastReply, reply?_of_ok hanswer]
    rfl

/-- What the ending of a run that is out of time says of its calls. -/
theorem Close.timedOut_eq
    (hclose : t.Close (.timedOut limit calls lastFailure) finishedAt begun answered) :
    limit = t.terms.timeout ∧ calls = begun ∧
      lastFailure = (t.records answered).getLast?.map Record.summary := by
  cases hclose with
  | unbegun => exact ⟨rfl, rfl, rfl⟩
  | abandoned hreach hlate =>
    exact ⟨rfl, rfl, hreach.failing.replied.summary_getLast?_records.symm⟩
  | outOfTime hreach hfails =>
    have hreplied := (hreach.failing.succ hfails).replied
    refine ⟨rfl, rfl, ?_⟩
    rw [hreplied.summary_getLast?_records, lastReply, reply?_of_ok hfails.answer]
    rfl

/-- A run that ends of itself has made no call just when it had no time at all. -/
theorem Ended.calls_eq_nil_iff (hended : t.Ended request run) :
    run.calls = [] ↔ t.deadline ≤ t.origin := by
  cases hended with
  | unbegun hnone _ hcalls _ => exact iff_of_true hcalls hnone
  | @stopped k _ _ hearly _ _ _ hcalls _ =>
    have hbegun : run.calls ≠ [] := by
      rw [hcalls, calls_succ]
      exact List.append_ne_nil_of_right_ne_nil _ (List.cons_ne_nil _ _)
    have hstart : t.origin ≤ t.callStart k := t.callStart_mono (Nat.zero_le k)
    exact iff_of_false hbegun (not_le.mpr (hstart.trans_lt hearly))

end Timeline

namespace Solo

variable {σ : Type} {terms : Terms} {link : Link σ} {request : Request} {s : σ} {type : String}
  {solo : Solo σ}

theorem Follows.ended_of_timedOut (hfollows : Follows terms link request s type solo) {limit : Span}
    {calls : Nat} {lastFailure : Option String} {finishedAt : Moment}
    (hphase : solo.run.phase = .over (.timedOut limit calls lastFailure) finishedAt) :
    (Timeline.alone terms link request s).Ended request solo.run := by
  cases hfollows.course with
  | going _ hstands => cases hstands.phase.symm.trans hphase
  | caught _ hhalts => cases hhalts.stands.phase.symm.trans hphase
  | ended hended => exact hended
  | cut _ _ hrun =>
    rw [hrun] at hphase
    cases hphase

theorem deadline_alone_le_iff (terms : Terms) (link : Link σ) (request : Request) (s : σ) :
    (Timeline.alone terms link request s).deadline ≤ (Timeline.alone terms link request s).origin ↔
      terms.timeout = 0 := by
  change terms.clockRange.after 0 terms.timeout ≤ 0 ↔ terms.timeout = 0
  constructor
  · intro hdue
    by_contra hpositive
    have hlater := terms.clockRange.lt_after 0 (Nat.pos_of_ne_zero hpositive)
    exact absurd hdue (not_le.mpr hlater)
  · intro hzero
    rw [hzero, ClockRange.after, if_pos terms.clockRange.bound_pos]

/-- Whatever the link, the strategy and the cancellation: the detail of a run that has run out of
time counts the calls that were started, which are those that the link has seen; it goes on with a
failure just when there is a record, and that failure is the last record's; and there was no call
just when there was no time. -/
theorem timeout_detail_counts_calls (terms : Terms) (link : Link σ) (payload : Bytes)
    (token : Token) (s : σ) (fuel : Nat) (last : Solo σ) (id : RunId) (clock : Moment → Timestamp)
    (report : Report) (detail : String)
    (hlast : (startWith terms payload token s).finish? terms link fuel = some last)
    (hreport : last.run.report? id clock = some report)
    (htimeout : report.result = .failed .timeout detail) :
    let calls := last.run.calls.length
    let counted := "start-to-close timeout of " ++ terms.timeout.text ++ " exceeded after " ++
      toString calls ++ " attempt(s)"
    (∃ event, Event.decode payload = .ok event ∧
        last.link = link.after (Request.ofEvent terms.target event) s calls) ∧
      (report.attempts = [] → detail = counted) ∧
      (∀ record, report.attempts.getLast? = some record →
        detail = counted ++ "; last failure: " ++ record.summary) ∧
      ((∃ summary, detail = counted ++ "; last failure: " ++ summary) ↔ report.attempts ≠ []) ∧
      (calls = 0 ↔ terms.timeout = 0) := by
  intro calls counted
  cases hdecode : Event.decode payload with
  | error defect =>
    obtain ⟨_, _, hfatal⟩ := report_of_defect hdecode hlast
    cases (hfatal id clock).symm.trans hreport
    cases htimeout
  | ok event =>
    obtain ⟨hfollows, ending, begun, answered, hclosed⟩ := closed_of_finish? hdecode hlast
    cases (hfollows.report?_eq hclosed.phase id clock).symm.trans hreport
    obtain ⟨limit, begun', lastFailure, rfl, rfl⟩ := Ending.result_eq_timeout_iff.mp htimeout
    obtain ⟨hlimit, rfl, hfailure⟩ := hclosed.close.timedOut_eq
    have hcalls : begun' = calls := hclosed.length_calls.symm
    rw [← hclosed.records] at hfailure
    have hended := hfollows.ended_of_timedOut hclosed.phase
    subst hcalls hlimit
    refine ⟨⟨event, rfl, ?_⟩, ?_, ?_, ?_, ?_⟩
    · rw [hfollows.answers]
    · intro hnone
      have hnone : last.run.records = [] := hnone
      rw [hfailure, hnone]
      exact Ending.timeoutDetail_none _ _
    · intro record hrecord
      have hrecord : last.run.records.getLast? = some record := hrecord
      rw [hfailure, hrecord]
      exact Ending.timeoutDetail_some _ _ _
    · calc
        _ ↔ lastFailure ≠ none := Ending.timeoutDetail_goes_on_iff
        _ ↔ last.run.records ≠ [] := by
          rw [hfailure, ne_eq, Option.map_eq_none_iff, List.getLast?_eq_none_iff]
    · rw [List.length_eq_zero_iff, hended.calls_eq_nil_iff, deadline_alone_le_iff]

/-- Two calls within two milliseconds, of which the second is abandoned. -/
theorem timeout_detail_counts_calls_brief :
    let terms := insistent (Span.ofMillis 2) 0
    let detail :=
      "start-to-close timeout of 2ms exceeded after 2 attempt(s); last failure: transport: "
    ∃ last report record,
      (startWith terms "{}".toUTF8.toList ⟨none, false⟩ false).finish? terms secondTime 20 =
        some last ∧
      last.run.report? ⟨Ulid.ofNat 7⟩ (fun _ ↦ ⟨0, 0⟩) = some report ∧
      report.result = .failed .timeout detail ∧ last.run.calls.length = 2 ∧
      report.attempts = [record] ∧
      detail = "start-to-close timeout of " ++ terms.timeout.text ++ " exceeded after " ++
        toString last.run.calls.length ++ " attempt(s)" ++ "; last failure: " ++ record.summary := by
  intro terms detail
  have hany : ((startWith terms "{}".toUTF8.toList ⟨none, false⟩ false).finish? terms secondTime
      20).any (fun last ↦ (last.run.report? ⟨Ulid.ofNat 7⟩ (fun _ ↦ ⟨0, 0⟩)).any fun report ↦
        decide (report.result = .failed .timeout detail ∧ last.run.calls.length = 2 ∧
          report.attempts.length = 1)) = true := by
    decide +kernel
  obtain ⟨last, hlast, hany⟩ := (Option.any_eq_true _ _).mp hany
  obtain ⟨report, hreport, hshape⟩ := (Option.any_eq_true _ _).mp hany
  obtain ⟨hresult, hcalls, hlength⟩ := of_decide_eq_true hshape
  obtain ⟨record, hattempts⟩ := List.length_eq_one_iff.mp hlength
  obtain ⟨_, _, hdetail, _⟩ := timeout_detail_counts_calls terms secondTime _ _ false 20 last _ _
    report detail hlast hreport hresult
  refine ⟨last, report, record, hlast, hreport, hresult, hcalls, hattempts, hdetail record ?_⟩
  rw [hattempts]
  rfl

end Solo

end Courier
