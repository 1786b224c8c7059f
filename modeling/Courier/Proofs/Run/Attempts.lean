import Courier.Proofs.Run.Account

/-!
# Attempts under a policy

A policy that can be used bounds the attempts of every run, whatever the link, the time limit and
the cancellation.  A call that is reached has a number within the bound, since each call before it
was followed by another attempt; so the timeline stops there at the latest.  The retries of a run
are exhausted just when all the attempts that the policy allows have failed.
-/

namespace Courier

/-! ## Policies -/

namespace Policy

variable {policy : Policy} {progress : Progress} {reason : String}

theorem check_eq_ok {checked : Policy} (hcheck : policy.check = .ok checked) :
    checked = policy ∧ 0 < policy.attempts := by
  unfold check at hcheck
  split at hcheck
  · contradiction
  · next hattempts =>
    refine ⟨?_, Nat.pos_of_ne_zero hattempts⟩
    split at hcheck
    · contradiction
    · split at hcheck
      · contradiction
      · cases hcheck
        rfl

theorem check_of_valid (hattempts : 0 < policy.attempts)
    (hfinite : policy.coefficient.isFinite = true) (hone : policy.coefficient.less Binary64.one = false)
    (hle : policy.initial ≤ policy.maximum) : policy.check = .ok policy := by
  rw [check, if_neg hattempts.ne', if_neg (by simp [hfinite, hone]), if_neg (not_lt.mpr hle)]

theorem lt_of_retry {delay : Span} (hdecide : policy.decide progress = .retry delay reason) :
    progress.number < policy.attempts := by
  unfold decide at hdecide
  split at hdecide
  · next hallows =>
    rw [allows, Bool.and_eq_true] at hallows
    exact of_decide_eq_true hallows.2
  · contradiction

theorem le_of_stop (progress : Progress) (hfailure : progress.last.any Reply.isFailure = true)
    (hdecide : policy.decide progress = .stop reason) : policy.attempts ≤ progress.number := by
  unfold decide at hdecide
  split at hdecide
  · contradiction
  · next hallows =>
    rw [allows, hfailure, Bool.true_and, decide_eq_true_eq] at hallows
    exact not_lt.mp hallows

end Policy

theorem Terms.eq_of_ofPolicy {address : String} {timeout : Span} {policy : Policy}
    {attemptId : Nat → AttemptId} {clockRange : ClockRange} {terms : Terms}
    (hterms : Terms.ofPolicy address timeout policy attemptId clockRange = .ok terms) :
    terms = ⟨Request.targetOf address, timeout, policy.decide, attemptId, clockRange⟩ ∧
      0 < policy.attempts := by
  unfold ofPolicy at hterms
  split at hterms
  · next checked hcheck =>
    obtain ⟨rfl, hpositive⟩ := Policy.check_eq_ok hcheck
    cases hterms
    exact ⟨rfl, hpositive⟩
  · contradiction

theorem Terms.ofPolicy_eq_ok {address : String} {timeout : Span} {policy : Policy}
    {attemptId : Nat → AttemptId} {clockRange : ClockRange} {terms : Terms}
    (hterms : Terms.ofPolicy address timeout policy attemptId clockRange = .ok terms) :
    terms.target = Request.targetOf address ∧ terms.timeout = timeout ∧
      terms.decide = policy.decide ∧ 0 < policy.attempts := by
  obtain ⟨rfl, hpositive⟩ := eq_of_ofPolicy hterms
  exact ⟨rfl, rfl, rfl, hpositive⟩

/-- A policy stops after the attempts it allows. -/
theorem Terms.stopsBy_of_policy {terms : Terms} (policy : Policy)
    (hdecide : terms.decide = policy.decide) : terms.StopsBy policy.attempts :=
  fun _ _ _ hretry ↦ Policy.lt_of_retry ((congrFun hdecide _).symm.trans hretry)

theorem Terms.counts_of_policy {terms : Terms} (policy : Policy)
    (hdecide : terms.decide = policy.decide) (hattempts : policy.attempts ≤ Numeral.greatest 32) :
    terms.Counts := by
  intro progress delay reason hretry
  exact (stopsBy_of_policy policy hdecide progress delay reason hretry).trans_le hattempts

theorem Ending.result_eq_exhausted_iff {ending : Ending} {detail : String} :
    ending.result = .failed .retriesExhausted detail ↔ ending = .exhausted detail := by
  cases ending <;> simp [Ending.result]

/-! ## Timelines -/

namespace Timeline

variable {t : Timeline} {request : Request} {k : Nat} {reply : Reply} {reason : String}
  {policy : Policy}

/-- The strategy of the timeline is that of a policy which allows an attempt. -/
structure Under (t : Timeline) (policy : Policy) : Prop where
  decide : t.terms.decide = policy.decide
  positive : 0 < policy.attempts

theorem Under.lt_of_retry (hunder : t.Under policy) {delay : Span}
    (hfails : t.Fails k reply (.retry delay reason)) : k + 1 < policy.attempts := by
  have hdecision := hfails.decision
  rw [decision, hunder.decide] at hdecision
  exact Policy.lt_of_retry hdecision

theorem Under.le_of_stop (hunder : t.Under policy) (hfails : t.Fails k reply (.stop reason)) :
    policy.attempts ≤ k + 1 := by
  have hdecision := hfails.decision
  rw [decision, hunder.decide] at hdecision
  exact Policy.le_of_stop ⟨k + 1, _, some reply⟩ hfails.failure hdecision

/-- The number of a call that is reached is within the bound. -/
theorem Under.lt_of_reaches (hunder : t.Under policy) (hreach : t.Reaches k) :
    k < policy.attempts := by
  cases k with
  | zero => exact hunder.positive
  | succ k =>
    obtain ⟨reply, delay, reason, hfails⟩ := hreach.fails (Nat.lt_succ_self k)
    exact hunder.lt_of_retry hfails

/-- Retries are exhausted with the last attempt that the policy allows, and nothing else ends a run
with so many records, unless the last of them is a success. -/
theorem Under.exhausted_iff (hunder : t.Under policy) {ending : Ending} {finishedAt : Moment}
    {begun answered : Nat} (hclose : t.Close ending finishedAt begun answered) :
    (∃ detail, ending = .exhausted detail) ↔
      answered = policy.attempts ∧ ∀ value, ending ≠ .completed value := by
  have hpositive := hunder.positive
  cases hclose with
  | unbegun | cutUnbegun =>
    refine iff_of_false (fun ⟨_, hending⟩ ↦ nomatch hending) ?_
    rintro ⟨hanswered, _⟩
    omega
  | abandoned hreach | cutCalling hreach | failed hreach =>
    refine iff_of_false (fun ⟨_, hending⟩ ↦ nomatch hending) ?_
    rintro ⟨hanswered, _⟩
    have hlt := hunder.lt_of_reaches hreach
    omega
  | completed =>
    refine iff_of_false (fun ⟨_, hending⟩ ↦ nomatch hending) ?_
    rintro ⟨_, hnot⟩
    exact hnot _ rfl
  | stopped hreach hfails =>
    refine iff_of_true ⟨_, rfl⟩ ⟨?_, fun _ ↦ nofun⟩
    have hlt := hunder.lt_of_reaches hreach
    have hle := hunder.le_of_stop hfails
    omega
  | outOfTime hreach hfails | cutResting hreach hfails =>
    refine iff_of_false (fun ⟨_, hending⟩ ↦ nomatch hending) ?_
    rintro ⟨hanswered, _⟩
    have hlt := hunder.lt_of_retry hfails
    omega

theorem Close.reply_of_exhausted {detail : String} {finishedAt : Moment} {begun answered : Nat}
    (hclose : t.Close (.exhausted detail) finishedAt begun answered) :
    ∃ k reply, answered = k + 1 ∧ (t.steps k).answer = .ok reply ∧ reply.isFailure = true ∧
      detail = reply.summary := by
  cases hclose with
  | stopped _ hfails => exact ⟨_, _, rfl, hfails.answer, hfails.failure, rfl⟩

end Timeline

theorem Report.Tells.kind_ne_success {report : Report} {request : Request} {steps : Nat → Step}
    {calls : List (Moment × Request)} {finishedAt : Moment}
    (htells : report.Tells request steps calls finishedAt)
    (hnot : ∀ value, report.result ≠ .completed value) {record : Record}
    (hrecord : record ∈ report.attempts) : record.kind ≠ .success := by
  intro hsuccess
  obtain ⟨k, hk⟩ := List.mem_iff_getElem?.mp hrecord
  have hlt := (List.getElem?_eq_some_iff.mp hk).1
  rcases Nat.lt_or_eq_of_le (Nat.succ_le_of_lt hlt) with hbefore | hlast
  · exact htells.failures k record hk hbefore hsuccess
  · have hend : k = report.attempts.length - 1 := by omega
    rw [hend, ← List.getLast?_eq_getElem?] at hk
    obtain ⟨value, hvalue⟩ := htells.success.mp ⟨record, hk, hsuccess⟩
    exact hnot value hvalue

/-- The last record has the given number and tells of the failure that the result tells of. -/
structure Report.FailsAt (report : Report) (number : Nat) (step : Step) (detail : String) :
    Prop where
  last : ∃ record, report.attempts.getLast? = some record ∧ record.number = number ∧
    record.summary = detail
  words : (∃ status body, step.answer = .ok (.httpFailure status body) ∧
      detail = toString status ++ ": " ++ Utf8.lossy body) ∨
    ∃ cause, step.answer = .ok (.transportFailure cause) ∧ detail = "transport: " ++ cause

namespace Timeline

/-- Retries are exhausted just when all attempts that the policy allows have failed. -/
theorem Closed.exhausts {t : Timeline} {policy : Policy} {request : Request} {run : Run}
    {ending : Ending} {finishedAt : Moment} {begun answered : Nat}
    (hclosed : t.Closed request run ending finishedAt begun answered) (hunder : t.Under policy)
    (report : Report) (horigin : Span.IsWhole t.origin) (hattempts : report.attempts = run.records)
    (hresult : report.result = ending.result) :
    ((∃ detail, report.result = .failed .retriesExhausted detail) ↔
        report.attempts.length = policy.attempts ∧
          ∀ record ∈ report.attempts, record.kind ≠ .success) ∧
      ∀ detail, report.result = .failed .retriesExhausted detail →
        report.FailsAt policy.attempts (t.steps (policy.attempts - 1)) detail := by
  have htells := hclosed.tells horigin hattempts hresult
  have hlength : report.attempts.length = answered := by
    rw [hattempts, hclosed.length_records]
  have hexhausted := hunder.exhausted_iff hclosed.close
  constructor
  · rw [hlength]
    simp only [hresult, Ending.result_eq_exhausted_iff]
    rw [hexhausted]
    refine and_congr_right fun _ ↦ ⟨fun hnot record hrecord ↦ ?_, fun hkinds value hvalue ↦ ?_⟩
    · apply htells.kind_ne_success _ hrecord
      intro value hvalue
      rw [hresult, Ending.result_eq_completed_iff] at hvalue
      exact hnot value hvalue
    · have hcompleted : report.result = .completed value := by rw [hresult, hvalue]; rfl
      obtain ⟨record, hlast, hsuccess⟩ := htells.success.mpr ⟨value, hcompleted⟩
      exact hkinds record (List.mem_of_getLast? hlast) hsuccess
  · intro detail hdetail
    rw [hresult, Ending.result_eq_exhausted_iff] at hdetail
    subst hdetail
    have hanswered := (hexhausted.mp ⟨_, rfl⟩).1
    obtain ⟨k, reply, rfl, hanswer, hfailure, rfl⟩ := hclosed.close.reply_of_exhausted
    rw [← hanswered, Nat.add_sub_cancel]
    refine ⟨?_, ?_⟩
    · rw [hattempts, hclosed.records, records_succ_of_ok hanswer, List.getLast?_concat]
      exact ⟨_, rfl, rfl, rfl⟩
    · cases reply with
      | success => contradiction
      | httpFailure status body => exact .inl ⟨status, body, hanswer, rfl⟩
      | transportFailure cause => exact .inr ⟨cause, hanswer, rfl⟩

end Timeline

/-! ## Runs -/

/-- Stands at the head of its loop. -/
def Run.isReady (run : Run) : Bool :=
  match run.phase with
  | .working _ .ready => true
  | _ => false

theorem Run.isOver_eq_false_of_isReady {run : Run} (hready : run.isReady = true) :
    run.isOver = false := by
  unfold isReady at hready
  split at hready
  · next hphase => rw [isOver, hphase]
  · contradiction

namespace Solo

variable {σ : Type} {terms : Terms} {link : Link σ} {request : Request} {s : σ} {type : String}
  {payload : Bytes} {event : Event} {token : Token} {solo next last : Solo σ}

/-- How often a run comes to the head of its loop within a number of steps. -/
def visits (terms : Terms) (link : Link σ) (solo : Solo σ) (count : Nat) : Nat :=
  (List.range count).countP fun j ↦ (solo.after terms link j).run.isReady

theorem visits_succ (count : Nat) : solo.visits terms link (count + 1) =
    solo.visits terms link count + (solo.after terms link count).run.isReady.toNat := by
  rw [visits, List.range_succ, List.countP_append, List.countP_singleton]
  cases (solo.after terms link count).run.isReady <;> rfl

/-- A run comes back to the head of its loop with a new attempt only. -/
theorem Turns.number_le (hturn : Turns terms link solo next) :
    solo.run.state.number + next.run.isReady.toNat ≤ next.run.state.number := by
  cases hturn with
  | move hmove =>
    cases hmove with
    | @receive request since due reply =>
      have hidle : (Run.receive terms solo.run request since solo.now reply).isReady = false := by
        rcases Run.receive_cases terms solo.run request since solo.now reply with
          ⟨ending, hphase⟩ | ⟨delay, reason, _, _, _, hphase⟩
        · rw [Run.isReady, hphase]
        · rw [Run.isReady, hphase]
      simp [hidle]
    | _ => exact le_rfl
  | still hover =>
    obtain ⟨ending, finishedAt, hphase⟩ := Run.isOver_eq_true_iff.mp hover
    simp [Run.isReady, hphase]
  | fire hawaits | tick hawaits =>
    cases hawaits with
    | _ => simp [Run.isReady, *]

theorem visits_add_le (terms : Terms) (link : Link σ)
    (hstart : solo.run.isReady.toNat ≤ solo.run.state.number) (count : Nat) :
    solo.visits terms link count + (solo.after terms link count).run.isReady.toNat ≤
      (solo.after terms link count).run.state.number := by
  induction count with
  | zero => exact (Nat.zero_add _).trans_le hstart
  | succ count ih =>
    have hturn := step_turns terms link (solo.after terms link count)
    rw [← after_succ] at hturn
    have hnumber := hturn.number_le
    rw [visits_succ]
    omega

/-- The calls of a run are those up to one that its timeline reaches. -/
theorem Follows.exists_reaches (hfollows : Follows terms link request s type solo) :
    ∃ k, (Timeline.alone terms link request s).Reaches k ∧ solo.run.calls.length ≤ k + 1 := by
  have hstands {k : Nat} {stage : Stage} {run : Run}
      (hstands : (Timeline.alone terms link request s).Stands request solo.now k stage run) :
      run.calls.length ≤ k + 1 := by
    rw [hstands.calls, Timeline.length_calls]
    cases stage with
    | ready => exact Nat.le_succ k
    | _ => exact le_rfl
  cases hfollows.course with
  | going _ hgoing => exact ⟨_, hgoing.reaches, hstands hgoing⟩
  | caught _ hhalts => exact ⟨_, hhalts.stands.reaches, hstands hhalts.stands⟩
  | ended hended =>
    cases hended with
    | unbegun _ _ hcalls => exact ⟨0, fun j hj ↦ absurd hj (Nat.not_lt_zero j), by simp [hcalls]⟩
    | @stopped k _ _ _ hreach _ _ hcalls =>
      exact ⟨k, hreach, by rw [hcalls, Timeline.length_calls]⟩
  | cut _ hhalts hrun =>
    have hlength := hstands hhalts.stands
    rw [hrun]
    exact ⟨_, hhalts.stands.reaches, hlength⟩

variable {policy : Policy}

/-- The run of a payload that is no event neither makes a call nor comes to its loop. -/
theorem idle_of_defect {defect : Event.Defect} (hdefect : Event.decode payload = .error defect)
    (terms : Terms) (link : Link σ) (token : Token) (s : σ) (count : Nat) :
    ((startWith terms payload token s).after terms link count).run.calls = [] ∧
      (startWith terms payload token s).visits terms link count = 0 := by
  have hover : (startWith terms payload token s).run.isOver = true := isOver_of_defect hdefect
  have hstart := start_eq_of_error hdefect terms 0
  constructor
  · rw [after_of_isOver hover, startWith, hstart]
  · apply List.countP_eq_zero.mpr
    intro j _
    rw [after_of_isOver hover, startWith, hstart]
    exact Bool.false_ne_true

/-- Calls and comings to the head of the loop are as many as the policy allows attempts. -/
theorem bounded_of_event (hevent : Event.decode payload = .ok event)
    (hdecide : terms.decide = policy.decide) (hpositive : 0 < policy.attempts) (token : Token)
    (count : Nat) :
    ((startWith terms payload token s).after terms link count).run.calls.length ≤
        policy.attempts ∧
      (startWith terms payload token s).visits terms link count ≤ policy.attempts := by
  have hfollows := follows_after hevent terms link token s
  have hunder : (Timeline.alone terms link (Request.ofEvent terms.target event) s).Under policy :=
    ⟨hdecide, hpositive⟩
  constructor
  · obtain ⟨k, hreach, hcalls⟩ := (hfollows count).exists_reaches
    exact hcalls.trans (hunder.lt_of_reaches hreach)
  · induction count with
    | zero => exact Nat.zero_le _
    | succ count ih =>
      have hstart : (startWith terms payload token s).run.isReady.toNat ≤
          (startWith terms payload token s).run.state.number := by
        rw [startWith, start_eq hevent]
        exact le_rfl
      have hvisits := visits_add_le terms link hstart count
      rw [visits_succ]
      cases hready : ((startWith terms payload token s).after terms link count).run.isReady with
      | false => exact ih
      | true =>
        rw [hready] at hvisits
        obtain ⟨k, stage, hstands⟩ :=
          (hfollows count).course.stands (Run.isOver_eq_false_of_isReady hready)
        calc
          _ ≤ ((startWith terms payload token s).after terms link count).run.state.number := hvisits
          _ = k + 1 := hstands.number
          _ ≤ policy.attempts := hunder.lt_of_reaches hstands.reaches

/-- Under a policy, whatever the link, the payload and the cancellation: a run makes no more calls
than the policy allows attempts and comes to the head of its loop no more often; an error is never
followed by another call; and the run ends, with its retries exhausted just when all attempts that
are allowed have failed, the last of them with the detail of the result. -/
theorem policy_bounds_attempts (policy : Policy) (address : String) (timeout : Span)
    (attemptId : Nat → AttemptId) (clockRange : ClockRange) (terms : Terms) (link : Link σ)
    (payload : Bytes) (token : Token) (s : σ)
    (hterms : Terms.ofPolicy address timeout policy attemptId clockRange = .ok terms) :
    let solo := startWith terms payload token s
    let step (event : Event) (k : Nat) :=
      let request := Request.ofEvent terms.target event
      (link request (link.after request s k)).1
    (∀ count, (solo.after terms link count).run.calls.length ≤ policy.attempts ∧
        solo.visits terms link count ≤ policy.attempts) ∧
      (∀ event k error count, Event.decode payload = .ok event →
        (step event k).answer = .error error →
        (solo.after terms link count).run.calls.length ≤ k + 1) ∧
      ∃ last, (∀ fuel ≥ fuelFor policy.attempts, solo.finish? terms link fuel = some last) ∧
        ∀ id clock, ∃ report, last.run.report? id clock = some report ∧
          ((∃ detail, report.result = .failed .retriesExhausted detail) ↔
            report.attempts.length = policy.attempts ∧
              ∀ record ∈ report.attempts, record.kind ≠ .success) ∧
          ∀ detail, report.result = .failed .retriesExhausted detail →
            ∃ event, Event.decode payload = .ok event ∧
              report.FailsAt policy.attempts (step event (policy.attempts - 1)) detail := by
  intro solo step
  obtain ⟨_, _, hdecide, hpositive⟩ := Terms.ofPolicy_eq_ok hterms
  cases hdecode : Event.decode payload with
  | error defect =>
    have hover : solo.run.isOver = true := isOver_of_defect hdecode
    have hidle (count : Nat) := idle_of_defect hdecode terms link token s count
    refine ⟨fun count ↦ ?_, fun event k error count hevent ↦ ?_, solo, fun fuel _ ↦ ?_,
      fun id clock ↦ ?_⟩
    · simp only [solo, hidle, List.length_nil, Nat.zero_le, and_self]
    · contradiction
    · exact finish?_eq_some_iff.mpr ⟨after_of_isOver hover fuel, hover⟩
    · have hfinish : solo.finish? terms link 0 = some solo := finish?_eq_some_iff.mpr ⟨rfl, hover⟩
      obtain ⟨_, _, hreport⟩ := report_of_defect hdecode hfinish
      refine ⟨_, hreport id clock, ?_, ?_⟩
      · apply iff_of_false
        · rintro ⟨detail, hresult⟩
          cases hresult
        · rintro ⟨hlength, _⟩
          exact absurd hpositive (hlength ▸ lt_irrefl 0)
      · intro detail hresult
        cases hresult
  | ok event =>
    have hunder : (Timeline.alone terms link (Request.ofEvent terms.target event) s).Under policy :=
      ⟨hdecide, hpositive⟩
    refine ⟨bounded_of_event hdecode hdecide hpositive token,
      fun other k error count hother herror ↦ ?_, ?_⟩
    · cases hother
      obtain ⟨m, hreach, hcalls⟩ := (follows_after hdecode terms link token s count).exists_reaches
      refine hcalls.trans (Nat.succ_le_succ ?_)
      by_contra hlt
      obtain ⟨reply, hanswer⟩ := hreach.failing.replied k (not_le.mp hlt)
      cases herror.symm.trans hanswer
    · obtain ⟨last, hlast⟩ : ∃ last, ∀ fuel ≥ fuelFor policy.attempts,
          solo.finish? terms link fuel = some last :=
        exists_finish?_of_stopsBy (Terms.stopsBy_of_policy policy hdecide) hpositive
      refine ⟨last, hlast, fun id clock ↦ ?_⟩
      obtain ⟨hfollows, ending, begun, answered, hclosed⟩ :=
        closed_of_finish? hdecode (hlast _ le_rfl)
      have hreport := hfollows.report?_eq hclosed.phase id clock
      obtain ⟨hiff, hdetail⟩ := hclosed.exhausts hunder ⟨id, some event.type, ending.result,
        last.run.records, clock 0, clock last.now⟩ Span.isWhole_zero rfl rfl
      exact ⟨_, hreport, hiff, fun detail hresult ↦ ⟨event, rfl, hdetail detail hresult⟩⟩

/-- Answers every call with a failure, after less than a millisecond. -/
def everBusy : Link Unit := fun _ _ ↦ (⟨.ok (.httpFailure 503 [98, 117, 115, 121]), 700000⟩, ())

/-- Two attempts are allowed, and both fail. -/
theorem policy_bounds_attempts_busy :
    let policy : Policy := { Policy.standard with attempts := 2 }
    ∃ terms last report,
      Terms.ofPolicy "http://a" (Span.ofSeconds 30) policy (fun k ↦ ⟨Ulid.ofNat k⟩) .usual =
        .ok terms ∧
      (∀ count, ((startWith terms "{}".toUTF8.toList ⟨none, false⟩ ()).after terms everBusy
        count).run.calls.length ≤ 2) ∧
      (startWith terms "{}".toUTF8.toList ⟨none, false⟩ ()).finish? terms everBusy (fuelFor 2) =
        some last ∧
      last.run.report? ⟨Ulid.ofNat 7⟩ (fun _ ↦ ⟨0, 0⟩) = some report ∧
      report.result = .failed .retriesExhausted "503: busy" ∧ report.attempts.length = 2 ∧
      ∃ record, report.attempts.getLast? = some record ∧ record.number = 2 ∧
        record.summary = "503: busy" := by
  intro policy
  have hcheck : policy.check = .ok policy := by decide +kernel
  let terms : Terms := ⟨Request.targetOf "http://a", Span.ofSeconds 30, policy.decide,
    fun k ↦ ⟨Ulid.ofNat k⟩, .usual⟩
  have hterms : Terms.ofPolicy "http://a" (Span.ofSeconds 30) policy
      (fun k ↦ ⟨Ulid.ofNat k⟩) .usual = .ok terms := by
    rw [Terms.ofPolicy, hcheck]
  have hresult : (((startWith terms "{}".toUTF8.toList ⟨none, false⟩ ()).finish? terms everBusy
      (fuelFor 2)).bind fun last ↦ last.run.report? ⟨Ulid.ofNat 7⟩ (fun _ ↦ ⟨0, 0⟩)).map
        Report.result = some (.failed .retriesExhausted "503: busy") := by decide +kernel
  obtain ⟨hbounds, _, last, hlast, hreports⟩ := policy_bounds_attempts policy "http://a"
    (Span.ofSeconds 30) _ _ terms everBusy "{}".toUTF8.toList ⟨none, false⟩ () hterms
  obtain ⟨report, hreport, hiff, hdetail⟩ := hreports ⟨Ulid.ofNat 7⟩ (fun _ ↦ ⟨0, 0⟩)
  have hfinish := hlast (fuelFor 2) le_rfl
  rw [hfinish, Option.bind_some, hreport, Option.map_some, Option.some.injEq] at hresult
  obtain ⟨event, _, hfails⟩ := hdetail _ hresult
  exact ⟨terms, last, report, hterms, fun count ↦ (hbounds count).1, hfinish, hreport, hresult,
    (hiff.mp ⟨_, hresult⟩).1, hfails.last⟩

end Solo

end Courier
