import Courier.Proofs.Run.Close

/-!
# Reports and calls

A report keeps the calls of its run to account: there is a record for each call that was answered,
in order, and at most one call more, whose answer was an error or was not waited for.  All calls
make the same request, and only the last record can be one of a success.
-/

namespace Courier

theorem Reply.kind_eq_success_iff {reply : Reply} :
    reply.kind = .success ↔ reply.isFailure = false := by
  cases reply <;> simp [Reply.kind, Reply.isFailure]

theorem Ending.result_eq_completed_iff {ending : Ending} {value : String} :
    ending.result = .completed value ↔ ending = .completed value := by
  cases ending <;> simp [Ending.result]

theorem Ending.result_eq_fatal_iff {ending : Ending} {error : String} :
    ending.result = .failed .fatal error ↔ ending = .fatal error := by
  cases ending <;> simp [Ending.result]

/-- Why the last call of a run has no record: its answer was an error, or the run ended for another
reason while the call was still open. -/
inductive Report.Unrecorded (report : Report) (request : Request) (step : Step)
    (calls : List (Moment × Request)) (finishedAt : Moment) : Prop
  | fatal {error : String} (hanswer : step.answer = .error error)
      (hresult : report.result = .failed .fatal error)
  | abandoned {since : Moment}
      (hreason : report.result.reason? = some .timeout ∨ report.result.reason? = some .cancelled)
      (hlast : calls.getLast? = some (since, request))
      (hopen : finishedAt ≤ since + Span.ceilMillis step.latency)

/-- What a report tells of the calls of its run, where call `k`, counted from zero, comes to
`steps k`. -/
structure Report.Tells (report : Report) (request : Request) (steps : Nat → Step)
    (calls : List (Moment × Request)) (finishedAt : Moment) : Prop where
  records : ∀ k record, report.attempts[k]? = some record → ∃ reply, (steps k).answer = .ok reply ∧
    record.number = k + 1 ∧ record.kind = reply.kind ∧ record.status = reply.status? ∧
    record.summary = reply.summary
  failures : ∀ k record, report.attempts[k]? = some record → k + 1 < report.attempts.length →
    record.kind ≠ .success
  success : (∃ record, report.attempts.getLast? = some record ∧ record.kind = .success) ↔
    ∃ value, report.result = .completed value
  value : ∀ value, report.result = .completed value → ∃ k status body,
    report.attempts.length = k + 1 ∧ (steps k).answer = .ok (.success status body) ∧
    value = Utf8.lossy body
  begun : calls.length = report.attempts.length ∨
    calls.length = report.attempts.length + 1 ∧
      report.Unrecorded request (steps report.attempts.length) calls finishedAt
  fatal : ∀ error, report.result = .failed .fatal error →
    calls.length = report.attempts.length + 1 ∧
      (steps report.attempts.length).answer = .error error
  requests : ∀ call ∈ calls, call.2 = request

namespace Timeline

variable {t : Timeline} {request : Request} {run : Run} {report : Report} {ending : Ending}
  {finishedAt : Moment} {begun answered k : Nat} {record : Record}

/-- Only a call whose answer was an error or was not waited for has no record. -/
theorem Close.begun_cases (hclose : t.Close ending finishedAt begun answered)
    (horigin : Span.IsWhole t.origin) : begun = answered ∧ (∀ error, ending ≠ .fatal error) ∨
      begun = answered + 1 ∧ (∃ error, ending = .fatal error ∧
          (t.steps answered).answer = .error error) ∨
      begun = answered + 1 ∧ (∀ error, ending ≠ .fatal error) ∧
        (ending.result.reason? = some .timeout ∨ ending.result.reason? = some .cancelled) ∧
        finishedAt ≤ t.callEnd answered := by
  cases hclose with
  | abandoned hreach hlate =>
    have hend := (Span.ceilMillis_le_iff (isWhole_callEnd horigin _)).mpr hlate
    exact .inr (.inr ⟨rfl, fun _ ↦ nofun, .inl rfl, hend⟩)
  | cutCalling hreach hnow => exact .inr (.inr ⟨rfl, fun _ ↦ nofun, .inr rfl, hnow⟩)
  | failed hreach hanswer => exact .inr (.inl ⟨rfl, _, rfl, hanswer⟩)
  | _ => exact .inl ⟨rfl, fun _ ↦ nofun⟩

theorem getLast?_calls (t : Timeline) (request : Request) (k : Nat) :
    (t.calls request (k + 1)).getLast? = some (t.callStart k, request) := by
  rw [calls_succ, List.getLast?_concat]

theorem snd_of_mem_calls {m : Nat} {call : Moment × Request} (hcall : call ∈ t.calls request m) :
    call.2 = request := by
  obtain ⟨k, _, rfl⟩ := List.mem_map.mp hcall
  rfl

theorem Closed.length_records
    (hclosed : t.Closed request run ending finishedAt begun answered) :
    run.records.length = answered := by
  rw [hclosed.records, hclosed.close.replied.length_records]

theorem Closed.length_calls (hclosed : t.Closed request run ending finishedAt begun answered) :
    run.calls.length = begun := by
  rw [hclosed.calls, Timeline.length_calls]

/-- Record `k` tells of the reply to call `k`. -/
theorem Closed.exists_reply (hclosed : t.Closed request run ending finishedAt begun answered)
    (hrecord : run.records[k]? = some record) : ∃ reply, (t.steps k).answer = .ok reply ∧
      record.number = k + 1 ∧ record.kind = reply.kind ∧ record.status = reply.status? ∧
      record.summary = reply.summary := by
  rw [hclosed.records] at hrecord
  obtain ⟨reply, hanswer, rfl⟩ := hclosed.close.replied.getElem?_records hrecord
  exact ⟨reply, hanswer, rfl, rfl, rfl, rfl⟩

theorem Closed.kind_ne_success (hclosed : t.Closed request run ending finishedAt begun answered)
    {m : Nat} (hfailing : t.Failing m) (hk : k < m) (hrecord : run.records[k]? = some record) :
    record.kind ≠ .success := by
  obtain ⟨reply, hanswer, _, hkind, _⟩ := hclosed.exists_reply hrecord
  obtain ⟨other, hother, hfailure⟩ := hfailing k hk
  cases hanswer.symm.trans hother
  rw [hkind, ne_eq, Reply.kind_eq_success_iff, hfailure]
  exact Bool.noConfusion

/-- Only a run that is completed has a last record of a success. -/
theorem Closed.success_iff (hclosed : t.Closed request run ending finishedAt begun answered) :
    (∃ record, run.records.getLast? = some record ∧ record.kind = .success) ↔
      ∃ value, ending = .completed value := by
  rcases hclosed.close.failing_or_completed with
    ⟨hfailing, hnot⟩ | ⟨k, status, body, hending, hanswered, _, hanswer⟩
  · constructor
    · rintro ⟨record, hrecord, hsuccess⟩
      rw [List.getLast?_eq_getElem?] at hrecord
      have hlt := (List.getElem?_eq_some_iff.mp hrecord).1
      rw [hclosed.length_records] at hlt
      exact absurd hsuccess
        (hclosed.kind_ne_success hfailing (by rwa [hclosed.length_records]) hrecord)
    · rintro ⟨value, hvalue⟩
      exact absurd hvalue (hnot value)
  · refine iff_of_true ?_ ⟨_, hending⟩
    rw [hclosed.records, hanswered, records_succ_of_ok hanswer, List.getLast?_concat]
    exact ⟨_, rfl, rfl⟩

theorem Closed.tells (hclosed : t.Closed request run ending finishedAt begun answered)
    (horigin : Span.IsWhole t.origin) (hattempts : report.attempts = run.records)
    (hresult : report.result = ending.result) :
    report.Tells request t.steps run.calls finishedAt := by
  have hlength : report.attempts.length = answered := by rw [hattempts, hclosed.length_records]
  have hcompleted (value : String) :
      report.result = .completed value ↔ ending = .completed value := by
    rw [hresult, Ending.result_eq_completed_iff]
  have hbegun := hclosed.close.begun_cases horigin
  exact {
    records := fun k record hk ↦ hclosed.exists_reply (hattempts ▸ hk)
    failures := by
      intro k record hk hlt
      rw [hlength] at hlt
      rw [hattempts] at hk
      rcases hclosed.close.failing_or_completed with ⟨hfailing, _⟩ | ⟨m, _, _, _, rfl, hfailing, _⟩
      · exact hclosed.kind_ne_success hfailing (Nat.lt_of_succ_lt hlt) hk
      · exact hclosed.kind_ne_success hfailing (Nat.lt_of_succ_lt_succ hlt) hk
    success := by
      simp only [hattempts, hcompleted]
      exact hclosed.success_iff
    value := by
      intro value hvalue
      rw [hcompleted] at hvalue
      rcases hclosed.close.failing_or_completed with
        ⟨_, hnot⟩ | ⟨k, status, body, hending, hanswered, _, hanswer⟩
      · exact absurd hvalue (hnot value)
      · cases hvalue.symm.trans hending
        exact ⟨k, status, body, hlength.trans hanswered, hanswer, rfl⟩
    begun := by
      rw [hclosed.length_calls, hlength]
      rcases hbegun with
        ⟨hbegun, _⟩ | ⟨hbegun, error, hending, hanswer⟩ | ⟨hbegun, _, hreason, hopen⟩
      · exact .inl hbegun
      · refine .inr ⟨hbegun, .fatal hanswer ?_⟩
        rw [hresult, hending]
        rfl
      · refine .inr ⟨hbegun, .abandoned ?_ ?_ hopen⟩
        · rwa [hresult]
        · rw [hclosed.calls, hbegun, getLast?_calls]
    fatal := by
      intro error herror
      rw [hresult, Ending.result_eq_fatal_iff] at herror
      rw [hclosed.length_calls, hlength]
      rcases hbegun with ⟨_, hnot⟩ | ⟨hbegun, other, hending, hanswer⟩ | ⟨_, hnot, _⟩
      · exact absurd herror (hnot error)
      · cases herror.symm.trans hending
        exact ⟨hbegun, hanswer⟩
      · exact absurd herror (hnot error)
    requests := by
      intro call hcall
      rw [hclosed.calls] at hcall
      exact snd_of_mem_calls hcall }

end Timeline

namespace Solo

variable {σ : Type} {terms : Terms} {link : Link σ} {payload : Bytes} {token : Token} {s : σ}
  {last : Solo σ}

theorem isOver_of_defect {defect : Event.Defect} (hdefect : Event.decode payload = .error defect) :
    (startWith terms payload token s).run.isOver = true := by
  rw [startWith, start_eq_of_error hdefect terms 0]
  rfl

/-- A payload that is no event ends its run at once, whatever the time and the token. -/
theorem report_of_defect {defect : Event.Defect} (hdefect : Event.decode payload = .error defect)
    {fuel : Nat}
    (hlast : (startWith terms payload token s).finish? terms link fuel = some last) :
    last.now = 0 ∧ last.run.calls = [] ∧ ∀ id clock, last.run.report? id clock =
      some ⟨id, none, .failed .fatal ("malformed payload: " ++ defect.detail), [], clock 0,
        clock 0⟩ := by
  obtain ⟨rfl, _⟩ := finish?_eq_some_iff.mp hlast
  rw [after_of_isOver (isOver_of_defect hdefect), startWith, start_eq_of_error hdefect terms 0]
  exact ⟨rfl, rfl, fun _ _ ↦ rfl⟩

/-- Whatever the link, the strategy, the time limit and the cancellation: a report has the type of
its event just when the payload is one, and then tells the truth about the calls, which all make the
same request; a payload that is no event fails without a call, with the reason as the detail. -/
theorem report_tells_calls (terms : Terms) (address : String) (link : Link σ) (payload : Bytes)
    (token : Token) (s : σ) (fuel : Nat) (last : Solo σ) (id : RunId) (clock : Moment → Timestamp)
    (report : Report) (htarget : terms.target = Request.targetOf address)
    (hlast : (startWith terms payload token s).finish? terms link fuel = some last)
    (hreport : last.run.report? id clock = some report) :
    report.eventType = (Event.decode payload).toOption.map Event.type ∧
      (∀ defect, Event.decode payload = .error defect →
        report.result = .failed .fatal ("malformed payload: " ++ defect.detail) ∧
          report.attempts = [] ∧ last.run.calls = []) ∧
      ∀ event, Event.decode payload = .ok event →
        let request : Request :=
          ⟨Request.targetOf address, event.body, [("Content-Type", "application/json")]⟩
        report.Tells request (fun k ↦ (link request (link.after request s k)).1) last.run.calls
          last.now := by
  cases hdecode : Event.decode payload with
  | error defect =>
    obtain ⟨_, hcalls, hreport'⟩ := report_of_defect hdecode hlast
    cases (hreport' id clock).symm.trans hreport
    refine ⟨rfl, fun other hother ↦ ?_, fun event hevent ↦ ?_⟩
    · cases hother
      exact ⟨rfl, rfl, hcalls⟩
    · contradiction
  | ok event =>
    obtain ⟨hfollows, ending, begun, answered, hclosed⟩ := closed_of_finish? hdecode hlast
    have heq := hfollows.report?_eq hclosed.phase id clock
    cases heq.symm.trans hreport
    refine ⟨rfl, fun defect hdefect ↦ ?_, fun other hother ↦ ?_⟩
    · contradiction
    · cases hother
      have hrequest : Request.ofEvent terms.target event =
          ⟨Request.targetOf address, event.body, [("Content-Type", "application/json")]⟩ := by
        rw [htarget]
        rfl
      rw [hrequest] at hclosed
      exact hclosed.tells Span.isWhole_zero rfl rfl

/-- Answers the first call with a failure and later ones with an error. -/
def thenBroken : Link Bool := fun _ called ↦
  (⟨if called then .error "broken" else .ok (.httpFailure 503 []), 700000⟩, true)

/-- The second call has no record, since its answer is an error. -/
theorem report_tells_calls_broken :
    let terms : Terms :=
      { insistent (Span.ofSeconds 30) 1500000 with target := Request.targetOf "http://a/" }
    ∃ event last report, Event.decode "{}".toUTF8.toList = .ok event ∧
      terms.target = Request.targetOf "http://a/" ∧
      (startWith terms "{}".toUTF8.toList ⟨none, false⟩ false).finish? terms thenBroken 20 =
        some last ∧
      last.run.report? ⟨Ulid.ofNat 7⟩ (fun _ ↦ ⟨0, 0⟩) = some report ∧
      report.eventType = some event.type ∧ report.result = .failed .fatal "broken" ∧
      (∃ record, report.attempts = [record] ∧ record.number = 1 ∧ record.kind = .httpFailure ∧
        record.status = some 503) ∧
      last.run.calls.length = 2 ∧ ∀ call ∈ last.run.calls, call.2 =
        ⟨Request.targetOf "http://a/", event.body, [("Content-Type", "application/json")]⟩ := by
  intro terms
  obtain ⟨event, hevent⟩ := exists_decode_braces
  have hany : ((startWith terms "{}".toUTF8.toList ⟨none, false⟩ false).finish? terms thenBroken
      20).any (fun last ↦ (last.run.report? ⟨Ulid.ofNat 7⟩ (fun _ ↦ ⟨0, 0⟩)).any fun report ↦
        decide (report.result = .failed .fatal "broken" ∧ report.attempts.length = 1)) = true := by
    decide +kernel
  obtain ⟨last, hlast, hany⟩ := (Option.any_eq_true _ _).mp hany
  obtain ⟨report, hreport, hshape⟩ := (Option.any_eq_true _ _).mp hany
  obtain ⟨hresult, hlength⟩ := of_decide_eq_true hshape
  obtain ⟨record, hattempts⟩ := List.length_eq_one_iff.mp hlength
  obtain ⟨htype, _, htells⟩ := report_tells_calls terms "http://a/" thenBroken _ _ false 20 last _ _
    report rfl hlast hreport
  rw [hevent] at htype
  have htells := htells event hevent
  have hfirst : report.attempts[0]? = some record := by rw [hattempts]; rfl
  obtain ⟨reply, hanswer, hnumber, hkind, hstatus, _⟩ := htells.records 0 record hfirst
  cases hanswer
  refine ⟨event, last, report, hevent, rfl, hlast, hreport, htype, hresult,
    ⟨record, hattempts, hnumber, hkind, hstatus⟩, ?_, htells.requests⟩
  rw [(htells.fatal "broken" hresult).1, hlength]

end Solo

end Courier
