import Courier.Proofs.Run.Attempts
import Courier.Proofs.Run.Deadline
import Courier.Proofs.Run.Pace
import Mathlib.Data.List.Basic

/-!
# Wider budgets

A run that may have more attempts or more time does at first what it would do with less: as long as
the narrow budget lets it go on, every comparison with the deadline and every decision on another
attempt comes out the same under the wide one.  So a run that is ended by an answer to one of its
calls ends alike under a wider budget, and only one that was short of time or of attempts can fare
differently.
-/

namespace Courier

/-! ## Policies with more attempts -/

namespace Policy

variable {policy : Policy} {progress : Progress} {delay : Span} {reason : String} {attempts : Nat}

theorem rawBackoff_of_attempts (policy : Policy) (attempts n : Nat) :
    rawBackoff { policy with attempts := attempts } n = policy.rawBackoff n := by
  unfold rawBackoff
  dsimp only

/-- The wait after an attempt has nothing to do with how many are allowed. -/
theorem backoff_of_attempts (policy : Policy) (attempts n : Nat) :
    backoff { policy with attempts := attempts } n = policy.backoff n := by
  rw [backoff, backoff, rawBackoff_of_attempts]

theorem exists_retry_of_allows (hallows : policy.allows progress = true) :
    ∃ reason, policy.decide progress = .retry (policy.backoff progress.number) reason :=
  ⟨_, if_pos hallows⟩

theorem allows_of_retry (hdecide : policy.decide progress = .retry delay reason) :
    policy.allows progress = true := by
  by_contra hallows
  rw [decide, if_neg hallows] at hdecide
  contradiction

theorem eq_backoff_of_retry (hdecide : policy.decide progress = .retry delay reason) :
    delay = policy.backoff progress.number := by
  obtain ⟨other, hother⟩ := exists_retry_of_allows (allows_of_retry hdecide)
  rw [hdecide] at hother
  exact (Decision.retry.inj hother).1

theorem allows_of_le (hle : policy.attempts ≤ attempts) (hallows : policy.allows progress = true) :
    allows { policy with attempts := attempts } progress = true := by
  rw [allows, Bool.and_eq_true, decide_eq_true_iff] at hallows ⊢
  exact ⟨hallows.1, hallows.2.trans_le hle⟩

/-- With more attempts a policy tries again wherever it did, after the same wait. -/
theorem exists_retry_of_le (hle : policy.attempts ≤ attempts)
    (hdecide : policy.decide progress = .retry delay reason) :
    ∃ other, decide { policy with attempts := attempts } progress = .retry delay other := by
  obtain ⟨other, hother⟩ := exists_retry_of_allows (allows_of_le hle (allows_of_retry hdecide))
  rw [backoff_of_attempts, ← eq_backoff_of_retry hdecide] at hother
  exact ⟨other, hother⟩

end Policy

namespace Timeline

/-- A timeline with the same calls and as late a deadline at least, whose strategy tries again
wherever the other does, after the same wait. -/
structure Widens (wide t : Timeline) : Prop where
  origin : wide.origin = t.origin
  steps : wide.steps = t.steps
  attemptId : wide.terms.attemptId = t.terms.attemptId
  deadline : t.deadline ≤ wide.deadline
  retries : ∀ {progress delay reason}, t.terms.decide progress = .retry delay reason →
    ∃ other, wide.terms.decide progress = .retry delay other

variable {wide t : Timeline} {request : Request} {k m : Nat} {reply : Reply} {delay : Span}
  {ending : Ending} {finishedAt : Moment} {run : Run}

/-! ## Up to the stop -/

theorem Widens.callEnd_eq (hwidens : wide.Widens t) (hstart : wide.callStart k = t.callStart k) :
    wide.callEnd k = t.callEnd k := by
  rw [callEnd, callEnd, hstart, hwidens.steps]

theorem Widens.waits (hwidens : wide.Widens t) (hstart : wide.callStart k = t.callStart k)
    (hwaits : t.Waits k reply delay) : wide.Waits k reply delay := by
  have hend := hwidens.callEnd_eq hstart
  obtain ⟨reason, hdecision⟩ := hwaits.decision
  refine ⟨?_, hwaits.failure, ?_, ?_⟩
  · rw [hwidens.steps]
    exact hwaits.answer
  · rw [decision, hend, hwidens.origin]
    exact hwidens.retries hdecision
  · rw [hend]
    exact hwaits.short.trans_le hwidens.deadline

theorem Reaches.of_le (hreach : t.Reaches m) (hk : k ≤ m) : t.Reaches k :=
  fun j hj ↦ hreach j (hj.trans_le hk)

/-- A call that is reached begins at the same time. -/
theorem Widens.callStart_eq (hwidens : wide.Widens t) (hreach : t.Reaches k) :
    wide.callStart k = t.callStart k := by
  induction k with
  | zero => exact hwidens.origin
  | succ k ih =>
    have hstart := ih (hreach.of_le k.le_succ)
    obtain ⟨reply, delay, hwaits, _⟩ := stop?_eq_none_iff.mp (hreach k k.lt_succ_self)
    rw [callStart_succ, callStart_succ, (hwidens.waits hstart hwaits).delay_eq, hwaits.delay_eq,
      hwidens.callEnd_eq hstart]

theorem Widens.reaches (hwidens : wide.Widens t) (hreach : t.Reaches k) : wide.Reaches k := by
  intro j hj
  obtain ⟨reply, delay, hwaits, hearly⟩ := stop?_eq_none_iff.mp (hreach j hj)
  have hwaits := hwidens.waits (hwidens.callStart_eq (hreach.of_le hj.le)) hwaits
  refine stop?_eq_none_iff.mpr ⟨reply, delay, hwaits, ?_⟩
  rw [hwidens.callStart_eq (hreach.of_le hj)]
  exact hearly.trans_le hwidens.deadline

theorem Widens.calls_eq (hwidens : wide.Widens t) (hreach : t.Reaches k) :
    wide.calls request (k + 1) = t.calls request (k + 1) := by
  refine List.map_congr_left fun j hj ↦ ?_
  rw [hwidens.callStart_eq (hreach.of_le (Nat.lt_succ_iff.mp (List.mem_range.mp hj)))]

theorem Widens.records_eq (hwidens : wide.Widens t) (hreach : t.Reaches k) :
    wide.records (k + 1) = t.records (k + 1) := by
  refine List.filterMap_congr fun j hj ↦ ?_
  have hstart := hwidens.callStart_eq (hreach.of_le (Nat.lt_succ_iff.mp (List.mem_range.mp hj)))
  rw [record?, record?, reply?, reply?, hwidens.steps, hwidens.attemptId, hwidens.callEnd_eq hstart,
    hstart]

/-! ## The stop -/

/-- Only a call that ends before the deadline ends the run with its answer. -/
theorem callEnd_lt_of_isOfCall (hstop : t.stop? k = some (ending, finishedAt))
    (hcall : ending.isOfCall = true) : t.callEnd k < t.deadline := by
  have houtcome := t.outcome k
  rw [hstop] at houtcome
  cases houtcome with
  | late | long | overslept => contradiction
  | error hearly | success hearly | stop hearly => exact hearly

/-- The timeline stops for an answer, for lack of attempts or for lack of time. -/
theorem isOfCall_of_stop (hstop : t.stop? k = some (ending, finishedAt))
    (hreason : ending.result.reason? ≠ some .timeout) : ending.isOfCall = true := by
  have houtcome := t.outcome k
  rw [hstop] at houtcome
  cases houtcome with
  | late | long | overslept => exact absurd rfl hreason
  | error | success | stop => rfl

/-- A stop for an answer stays where it is, unless more attempts make up for it. -/
theorem Widens.stop?_eq (hwidens : wide.Widens t) (hreach : t.Reaches k)
    (hstop : t.stop? k = some (ending, finishedAt)) (hcall : ending.isOfCall = true)
    (hsame : wide.terms.decide = t.terms.decide ∨ ∀ detail, ending ≠ .exhausted detail) :
    wide.stop? k = some (ending, finishedAt) := by
  have hend := hwidens.callEnd_eq (hwidens.callStart_eq hreach)
  have hearly : wide.callEnd k < wide.deadline := by
    rw [hend]
    exact (callEnd_lt_of_isOfCall hstop hcall).trans_le hwidens.deadline
  have houtcome := t.outcome k
  rw [hstop] at houtcome
  cases houtcome with
  | late | long | overslept => contradiction
  | error _ hanswer =>
    rw [← hwidens.steps] at hanswer
    rw [stop?_of_error hearly hanswer, hend]
  | success _ hanswer =>
    rw [← hwidens.steps] at hanswer
    rw [stop?_of_success hearly hanswer, hend]
  | stop _ hanswer hfailure hdecision =>
    have hdecide : wide.terms.decide = t.terms.decide :=
      hsame.resolve_right fun hnot ↦ hnot _ rfl
    rw [decision, ← hdecide, ← hwidens.origin, ← hend] at hdecision
    rw [← hwidens.steps] at hanswer
    rw [stop?_of_stop hanswer hfailure hearly hdecision, hend]

/-- A run that an answer has ended has ended on the wider timeline too. -/
theorem Widens.ended (hwidens : wide.Widens t) (hended : t.Ended request run)
    (hphase : run.phase = .over ending finishedAt) (hcall : ending.isOfCall = true)
    (hsame : wide.terms.decide = t.terms.decide ∨ ∀ detail, ending ≠ .exhausted detail) :
    wide.Ended request run := by
  cases hended with
  | unbegun _ hover =>
    cases hover.symm.trans hphase
    contradiction
  | @stopped k _ _ hbegun hreach hstop hover hcalls hrecords =>
    cases hover.symm.trans hphase
    have hearly := callEnd_lt_of_isOfCall hstop hcall
    have hend := hwidens.callEnd_eq (hwidens.callStart_eq hreach)
    refine .stopped (k := k) ?_ (hwidens.reaches hreach) (hwidens.stop?_eq hreach hstop hcall hsame)
      hphase ?_ ?_
    · rw [hwidens.callStart_eq hreach]
      exact hbegun.trans_le hwidens.deadline
    · rw [hwidens.calls_eq hreach, hcalls]
    · rw [answered_of_early (by rw [hend]; exact hearly.trans_le hwidens.deadline),
        hwidens.records_eq hreach, hrecords, answered_of_early hearly]

end Timeline

/-! ## Runs -/

/-- Terms that go on at least as long as others, with the same requests. -/
structure Terms.Outlasts (wide terms : Terms) : Prop where
  target : wide.target = terms.target
  attemptId : wide.attemptId = terms.attemptId
  clockRange : wide.clockRange = terms.clockRange
  timeout : terms.timeout ≤ wide.timeout
  held : wide.timeout < terms.clockRange.bound
  retries : ∀ {progress delay reason}, terms.decide progress = .retry delay reason →
    ∃ other, wide.decide progress = .retry delay other

theorem Terms.Outlasts.widens {σ : Type} {wide terms : Terms} (houtlasts : wide.Outlasts terms)
    (link : Link σ) (request : Request) (s : σ) :
    (Timeline.alone wide link request s).Widens (Timeline.alone terms link request s) where
  origin := rfl
  steps := rfl
  attemptId := houtlasts.attemptId
  deadline := by
    have hheld : 0 + wide.timeout < terms.clockRange.bound := by
      rw [Nat.zero_add]
      exact houtlasts.held
    have htimeout : 0 + terms.timeout < terms.clockRange.bound :=
      (Nat.add_le_add_left houtlasts.timeout 0).trans_lt hheld
    change terms.clockRange.after 0 terms.timeout ≤ wide.clockRange.after 0 wide.timeout
    rw [houtlasts.clockRange, ClockRange.after, ClockRange.after, if_pos hheld, if_pos htimeout]
    exact Nat.add_le_add_left houtlasts.timeout 0
  retries := houtlasts.retries

namespace Solo

variable {σ : Type} {terms wide : Terms} {link : Link σ} {payload : Bytes} {event : Event} {s : σ}
  {last other : Solo σ} {ending : Ending} {finishedAt : Moment} {policy : Policy}

/-- The one run has made the calls of the other at the same times and is reported alike. -/
structure Repeats (other last : Solo σ) : Prop where
  now : other.now = last.now
  calls : other.run.calls = last.run.calls
  report : ∀ id clock, other.run.report? id clock = last.run.report? id clock

theorem Repeats.shift (hrepeats : Repeats other last) (offset : Span) :
    Repeats (other.shift offset) (last.shift offset) where
  now := congrArg (offset + ·) hrepeats.now
  calls := congrArg (List.map fun call : Moment × Request ↦ (offset + call.1, call.2))
    hrepeats.calls
  report id clock := by
    change (other.run.shift offset).report? id clock = (last.run.shift offset).report? id clock
    rw [Run.report?_shift, Run.report?_shift, hrepeats.report]

theorem repeats_of_event (houtlasts : wide.Outlasts terms)
    (hevent : Event.decode payload = .ok event) {fuel more : Nat}
    (hlast : (start terms payload none s).finish? terms link fuel = some last)
    (hother : (start wide payload none s).finish? wide link more = some other)
    (hphase : last.run.phase = .over ending finishedAt) (hcall : ending.isOfCall = true)
    (hsame : wide.decide = terms.decide ∨ ∀ detail, ending ≠ .exhausted detail) :
    Repeats other last := by
  obtain ⟨hended, hfollows⟩ := ended_of_finish? hevent hlast
  obtain ⟨hended', hfollows'⟩ := ended_of_finish? hevent hother
  rw [houtlasts.target] at hended' hfollows'
  have hwide := (houtlasts.widens link _ s).ended hended hphase hcall hsame
  obtain ⟨hover, hcalls, hrecords⟩ := hended'.agree hwide
  rw [hphase] at hover
  have hnow : other.now = last.now :=
    (hfollows'.finished _ _ hover).symm.trans (hfollows.finished _ _ hphase)
  refine ⟨hnow, hcalls, fun id clock ↦ ?_⟩
  rw [hfollows.report?_eq hphase, hfollows'.report?_eq hover, hrecords, hnow]

theorem repeats_of_defect {defect : Event.Defect} (hdefect : Event.decode payload = .error defect)
    {fuel more : Nat} (hlast : (start terms payload none s).finish? terms link fuel = some last)
    (hother : (start wide payload none s).finish? wide link more = some other) :
    Repeats other last := by
  obtain ⟨hnow, hcalls, hreport⟩ := report_of_defect hdefect hlast
  obtain ⟨hnow', hcalls', hreport'⟩ := report_of_defect hdefect hother
  refine ⟨hnow'.trans hnow.symm, hcalls'.trans hcalls.symm, fun id clock ↦ ?_⟩
  rw [hreport, hreport']

/-- A run that is not short of time does the same with more of it; with more attempts too, unless it
was short of them. -/
theorem repeats_of_result (houtlasts : wide.Outlasts terms) {fuel more : Nat}
    (hlast : (start terms payload none s).finish? terms link fuel = some last)
    (hother : (start wide payload none s).finish? wide link more = some other)
    (hphase : last.run.phase = .over ending finishedAt)
    (hreason : ending.result.reason? ≠ some .timeout)
    (hsame : wide.decide = terms.decide ∨ ∀ detail, ending ≠ .exhausted detail) :
    Repeats other last := by
  cases hdecode : Event.decode payload with
  | error defect => exact repeats_of_defect hdecode hlast hother
  | ok event =>
    refine repeats_of_event houtlasts hdecode hlast hother hphase ?_ hsame
    cases (ended_of_finish? hdecode hlast).1 with
    | unbegun _ hover =>
      cases hover.symm.trans hphase
      exact absurd rfl hreason
    | stopped _ _ hstop hover =>
      cases hover.symm.trans hphase
      exact Timeline.isOfCall_of_stop hstop hreason

/-- A run with more attempts and more time makes the same calls at the same times and is reported
alike, if the run with less is completed; with more time alone, if that run is not out of time. -/
theorem wider_budget_repeats_run (policy : Policy) (attempts : Nat) (address : String)
    (timeout later : Span) (attemptId : Nat → AttemptId) (clockRange : ClockRange)
    (terms wide : Terms) (link : Link σ) (payload : Bytes) (origin : Moment) (s : σ)
    (hterms : Terms.ofPolicy address timeout policy attemptId clockRange = .ok terms)
    (hwide : Terms.ofPolicy address later { policy with attempts := attempts } attemptId
      clockRange = .ok wide)
    (hattempts : policy.attempts ≤ attempts) (hlater : timeout ≤ later)
    (hwhole : Span.IsWhole origin) (hheld : origin + later < clockRange.bound) :
    ∃ last other,
      (∀ fuel ≥ fuelFor policy.attempts,
        (startAt terms payload none origin s).finish? terms link fuel = some last) ∧
      (∀ fuel ≥ fuelFor attempts,
        (startAt wide payload none origin s).finish? wide link fuel = some other) ∧
      ∀ id clock, ∃ report, last.run.report? id clock = some report ∧
        ((∃ value, report.result = .completed value) ∨
            attempts = policy.attempts ∧ report.result.reason? ≠ some .timeout →
          other.run.report? id clock = some report ∧ other.run.calls = last.run.calls ∧
            other.now = last.now) := by
  obtain ⟨rfl, hpositive⟩ := Terms.eq_of_ofPolicy hterms
  obtain ⟨rfl, hmore⟩ := Terms.eq_of_ofPolicy hwide
  let narrow : Terms := ⟨Request.targetOf address, timeout, policy.decide, attemptId, clockRange⟩
  let wide : Terms := ⟨Request.targetOf address, later,
    Policy.decide { policy with attempts := attempts }, attemptId, clockRange⟩
  have hheld' : origin + timeout < clockRange.bound :=
    (Nat.add_le_add_left hlater origin).trans_lt hheld
  have houtlasts : wide.Outlasts narrow :=
    ⟨rfl, rfl, rfl, hlater, (Nat.le_add_left later origin).trans_lt hheld,
      Policy.exists_retry_of_le hattempts⟩
  obtain ⟨last, hlast⟩ : ∃ last, ∀ fuel ≥ fuelFor policy.attempts,
      (start narrow payload none s).finish? narrow link fuel = some last :=
    exists_finish?_of_stopsBy (Terms.stopsBy_of_policy policy rfl) hpositive
  obtain ⟨other, hother⟩ : ∃ other, ∀ fuel ≥ fuelFor attempts,
      (start wide payload none s).finish? wide link fuel = some other :=
    exists_finish?_of_stopsBy
      (Terms.stopsBy_of_policy { policy with attempts := attempts } rfl) hmore
  refine ⟨last.shift origin, other.shift origin, fun fuel hfuel ↦ ?_, fun fuel hfuel ↦ ?_,
    fun id clock ↦ ?_⟩
  · rw [startAt_eq_shift payload none (.inl hheld'), finish?_shift hwhole, hlast fuel hfuel]
    rfl
  · rw [startAt_eq_shift payload none (.inl hheld), finish?_shift hwhole, hother fuel hfuel]
    rfl
  · have hover := (finish?_eq_some_iff.mp (hlast _ le_rfl)).2
    obtain ⟨ending, finishedAt, hphase⟩ := Run.isOver_eq_true_iff.mp hover
    have hreport : (last.shift origin).run.report? id clock =
        some ⟨id, last.run.eventType, ending.result, last.run.records,
          clock (origin + last.run.watch.startedAt), clock (origin + finishedAt)⟩ := by
      change (last.run.shift origin).report? id clock = _
      rw [Run.report?_shift, Run.report?, hphase]
    refine ⟨_, hreport, fun hresult ↦ ?_⟩
    have hrepeats : Repeats other last := by
      rcases hresult with ⟨value, hvalue⟩ | ⟨rfl, hreason⟩
      · have hending := Ending.result_eq_completed_iff.mp hvalue
        refine repeats_of_result houtlasts (hlast _ le_rfl) (hother _ le_rfl) hphase ?_ (.inr ?_)
        · rw [hending]
          intro htimeout
          contradiction
        · rw [hending]
          intro detail hexhausted
          contradiction
      · exact repeats_of_result houtlasts (hlast _ le_rfl) (hother _ le_rfl) hphase hreason
          (.inl rfl)
    have hshifted := hrepeats.shift origin
    exact ⟨(hshifted.report id clock).trans hreport, hshifted.calls, hshifted.now⟩

/-- Two attempts of half a minute are enough, so that five of a minute are no better. -/
theorem wider_budget_repeats_run_second :
    let policy : Policy := { Policy.standard with attempts := 2 }
    let payload := "{}".toUTF8.toList
    ∃ terms wide last other report value,
      Terms.ofPolicy "http://a" (Span.ofSeconds 30) policy (fun k ↦ ⟨Ulid.ofNat k⟩) .usual =
        .ok terms ∧
      Terms.ofPolicy "http://a" (Span.ofSeconds 60) { policy with attempts := 5 }
        (fun k ↦ ⟨Ulid.ofNat k⟩) .usual = .ok wide ∧
      Span.IsWhole (Span.ofMillis 7) ∧
        Span.ofMillis 7 + Span.ofSeconds 60 < ClockRange.usual.bound ∧
      (startAt terms payload none (Span.ofMillis 7) false).finish? terms secondTime (fuelFor 2) =
        some last ∧
      (startAt wide payload none (Span.ofMillis 7) false).finish? wide secondTime (fuelFor 5) =
        some other ∧
      last.run.report? ⟨Ulid.ofNat 7⟩ (fun _ ↦ ⟨0, 0⟩) = some report ∧
      report.result = .completed value ∧
      other.run.report? ⟨Ulid.ofNat 7⟩ (fun _ ↦ ⟨0, 0⟩) = some report ∧
      other.run.calls = last.run.calls ∧ other.now = last.now := by
  intro policy payload
  have hcheck : policy.check = .ok policy := by decide +kernel
  have hcheck' : Policy.check { policy with attempts := 5 } =
      .ok { policy with attempts := 5 } := by decide +kernel
  have hterms : Terms.ofPolicy "http://a" (Span.ofSeconds 30) policy
      (fun k ↦ ⟨Ulid.ofNat k⟩) .usual = .ok ⟨Request.targetOf "http://a", Span.ofSeconds 30,
        policy.decide, fun k ↦ ⟨Ulid.ofNat k⟩, .usual⟩ := by
    rw [Terms.ofPolicy, hcheck]
  have hwide : Terms.ofPolicy "http://a" (Span.ofSeconds 60) { policy with attempts := 5 }
      (fun k ↦ ⟨Ulid.ofNat k⟩) .usual = .ok ⟨Request.targetOf "http://a", Span.ofSeconds 60,
        Policy.decide { policy with attempts := 5 }, fun k ↦ ⟨Ulid.ofNat k⟩, .usual⟩ := by
    rw [Terms.ofPolicy, hcheck']
  have hwhole : Span.IsWhole (Span.ofMillis 7) := rfl
  have hheld : Span.ofMillis 7 + Span.ofSeconds 60 < ClockRange.usual.bound := by decide +kernel
  obtain ⟨last, other, hlast, hother, hreports⟩ := wider_budget_repeats_run policy 5 "http://a"
    (Span.ofSeconds 30) (Span.ofSeconds 60) _ .usual _ _ secondTime payload (Span.ofMillis 7) false
    hterms hwide (by decide) (by decide) hwhole hheld
  obtain ⟨report, hreport, hrepeats⟩ := hreports ⟨Ulid.ofNat 7⟩ (fun _ ↦ ⟨0, 0⟩)
  have hcompleted : ((startAt ⟨Request.targetOf "http://a", Span.ofSeconds 30, policy.decide,
      fun k ↦ ⟨Ulid.ofNat k⟩, .usual⟩ payload none (Span.ofMillis 7) false).finish?
        ⟨Request.targetOf "http://a", Span.ofSeconds 30, policy.decide,
          fun k ↦ ⟨Ulid.ofNat k⟩, .usual⟩ secondTime (fuelFor 2)).any (fun last ↦
          (last.run.report? ⟨Ulid.ofNat 7⟩ (fun _ ↦ ⟨0, 0⟩)).any fun report ↦
            decide (report.result = .completed "")) = true := by decide +kernel
  rw [hlast _ le_rfl, Option.any_some, hreport, Option.any_some, decide_eq_true_iff] at hcompleted
  obtain ⟨hreport', hcalls, hnow⟩ := hrepeats (.inl ⟨_, hcompleted⟩)
  exact ⟨_, _, last, other, report, _, hterms, hwide, hwhole, hheld, hlast _ le_rfl,
    hother _ le_rfl, hreport, hcompleted, hreport', hcalls, hnow⟩

end Solo

end Courier
