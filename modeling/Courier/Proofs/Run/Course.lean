import Courier.Proofs.Run.Moves
import Courier.Proofs.Run.Timeline

/-!
# Runs keep to their timelines

While a run is under way it stands at some call of its timeline, at a stage that the timeline allows
at that moment; each of its moves keeps it there or ends it where the timeline stops, unless it is
cancelled.  Between its moves the clock may go on up to the next alarm.  Nothing is assumed about who
drives the run, only that the link does at each call what the timeline says.
-/

namespace Courier

namespace Timeline

variable {t : Timeline} {request : Request} {now later : Moment} {k : Nat} {stage : Stage}
  {run next : Run}

/-- The number of calls begun at a stage of call `k`. -/
def begun (k : Nat) : Stage → Nat
  | .ready => k
  | .calling _ _ _ => k + 1
  | .resting _ => k + 1

/-- The number of calls answered at a stage of call `k`. -/
def kept (k : Nat) : Stage → Nat
  | .ready => k
  | .calling _ _ _ => k
  | .resting _ => k + 1

def Allows (t : Timeline) (k : Nat) (now : Moment) : Stage → Prop
  | .ready => now = t.callStart k
  | .calling since due answer =>
    since = t.callStart k ∧ due = t.callStart k + (t.steps k).latency ∧
      answer = (t.steps k).answer ∧ t.callStart k < t.deadline ∧ t.callStart k ≤ now ∧
      now ≤ t.callEnd k ∧ now ≤ Span.ceilMillis t.deadline
  | .resting wake =>
    (∃ reply delay, t.Waits k reply delay ∧ wake = Span.waitEnd (t.callEnd k) delay) ∧
      t.callEnd k ≤ now ∧ now ≤ t.callStart (k + 1) ∧ now ≤ Span.ceilMillis t.deadline

/-- The run is under way and at a stage of call `k`. -/
structure Stands (t : Timeline) (request : Request) (now : Moment) (k : Nat) (stage : Stage)
    (run : Run) : Prop where
  phase : run.phase = .working request stage
  reaches : t.Reaches k
  allows : t.Allows k now stage
  watch : run.watch = ⟨t.origin, t.deadline⟩
  number : run.state.number = k + 1
  last : run.state.last = t.lastReply (kept k stage)
  calls : run.calls = t.calls request (begun k stage)
  records : run.records = t.records (kept k stage)

/-- The run has ended of itself: without any time, or where the timeline stops. -/
inductive Ended (t : Timeline) (request : Request) (run : Run) : Prop
  | unbegun (hnone : t.deadline ≤ t.origin)
      (hphase : run.phase = .over (.timedOut t.terms.timeout 0 none) t.origin)
      (hcalls : run.calls = []) (hrecords : run.records = [])
  | stopped {k : Nat} {ending : Ending} {finishedAt : Moment} (hearly : t.callStart k < t.deadline)
      (hreach : t.Reaches k) (hstop : t.stop? k = some (ending, finishedAt))
      (hphase : run.phase = .over ending finishedAt)
      (hcalls : run.calls = t.calls request (k + 1)) (hrecords : run.records = t.records (t.answered k))

theorem Stands.isOver_eq_false (hstands : t.Stands request now k stage run) :
    run.isOver = false := by
  rw [Run.isOver, hstands.phase]

theorem Ended.isOver_eq_true (hended : t.Ended request run) : run.isOver = true := by
  cases hended with
  | unbegun _ hphase => rw [Run.isOver, hphase]
  | stopped _ _ _ hphase => rw [Run.isOver, hphase]

theorem kept_le (k : Nat) (stage : Stage) : kept k stage ≤ k + 1 := by
  cases stage with
  | resting => exact le_rfl
  | _ => exact Nat.le_succ k

theorem le_answered (t : Timeline) (k : Nat) : k ≤ t.answered k := by
  unfold answered
  split
  · exact le_rfl
  · exact Nat.le_succ k

theorem answered_of_late (hlate : t.deadline ≤ t.callEnd k) : t.answered k = k := if_pos hlate

theorem answered_of_early (hearly : t.callEnd k < t.deadline) : t.answered k = k + 1 :=
  if_neg (not_le.mpr hearly)

theorem Ended.exists_stop (hended : t.Ended request run) : ∃ k, (t.stop? k).isSome = true := by
  cases hended with
  | unbegun hnone =>
    refine ⟨0, ?_⟩
    rw [stop?_of_late (hnone.trans (t.callStart_le_callEnd 0))]
    rfl
  | @stopped k _ _ _ _ hstop =>
    refine ⟨k, ?_⟩
    rw [hstop]
    rfl

theorem Ended.exists_records (hended : t.Ended request run) :
    ∃ count, run.records = t.records count := by
  cases hended with
  | unbegun _ _ _ hrecords => exact ⟨0, hrecords⟩
  | stopped _ _ _ _ _ hrecords => exact ⟨_, hrecords⟩

/-- All runs that end of themselves on a timeline end in the same way. -/
theorem Ended.agree {other : Run} (hrun : t.Ended request run) (hother : t.Ended request other) :
    run.phase = other.phase ∧ run.calls = other.calls ∧ run.records = other.records := by
  have hnever (k : Nat) (hnone : t.deadline ≤ t.origin) : ¬ t.callStart k < t.deadline :=
    not_lt.mpr (hnone.trans (t.callStart_mono (Nat.zero_le k)))
  cases hrun with
  | unbegun hnone hphase hcalls hrecords =>
    cases hother with
    | unbegun _ hphase' hcalls' hrecords' =>
      rw [hphase, hphase', hcalls, hcalls', hrecords, hrecords']
      exact ⟨rfl, rfl, rfl⟩
    | stopped hearly => exact absurd hearly (hnever _ hnone)
  | stopped hearly hreach hstop hphase hcalls hrecords =>
    cases hother with
    | unbegun hnone => exact absurd hearly (hnever _ hnone)
    | stopped _ hreach' hstop' hphase' hcalls' hrecords' =>
      cases hreach.eq_of_stop hreach' (by rw [hstop]; rfl) (by rw [hstop']; rfl)
      cases hstop.symm.trans hstop'
      rw [hphase, hphase', hcalls, hcalls', hrecords, hrecords']
      exact ⟨rfl, rfl, rfl⟩

/-- The wait after a call is over at the start of the next one. -/
theorem Waits.ceilMillis_waitEnd {reply : Reply} {delay : Span} (hwaits : t.Waits k reply delay)
    (horigin : Span.IsWhole t.origin) :
    Span.ceilMillis (Span.waitEnd (t.callEnd k) delay) = t.callStart (k + 1) := by
  rw [callStart_succ, hwaits.delay_eq, Span.waitEnd, Span.ceilMillis_add (isWhole_callEnd horigin k)]

theorem ceilMillis_due (horigin : Span.IsWhole t.origin) (k : Nat) :
    Span.ceilMillis (t.callStart k + (t.steps k).latency) = t.callEnd k :=
  Span.ceilMillis_add (isWhole_callStart horigin k) _

theorem eq_ceilMillis_deadline (hnow : Span.IsWhole now) (hlate : t.deadline ≤ now)
    (hbound : now ≤ Span.ceilMillis t.deadline) : now = Span.ceilMillis t.deadline :=
  le_antisymm hbound ((Span.ceilMillis_le_iff hnow).mpr hlate)

/-! ## The clock -/

theorem Stands.tick (hstands : t.Stands request now k stage run) (horigin : Span.IsWhole t.origin)
    (hawaits : run.Awaits now) (hlater : now ≤ later)
    (hnext : ∀ alarm ∈ run.alarms, later ≤ Span.ceilMillis alarm) :
    t.Stands request later k stage run := by
  refine { hstands with allows := ?_ }
  have hallows := hstands.allows
  simp only [Run.alarms, hstands.phase] at hnext
  cases stage with
  | ready =>
    rcases hawaits with ⟨hphase, _⟩ | ⟨hphase, _⟩
    · rw [hstands.phase] at hphase; cases hphase
    · rw [hstands.phase] at hphase; cases hphase
  | calling since due answer =>
    obtain ⟨hsince, hdue, hanswer, hearly, hstart, _, _⟩ := hallows
    have hend := hnext due (by simp)
    have hdeadline := hnext run.watch.deadline (by simp)
    rw [hdue, ceilMillis_due horigin k] at hend
    rw [hstands.watch] at hdeadline
    exact ⟨hsince, hdue, hanswer, hearly, hstart.trans hlater, hend, hdeadline⟩
  | resting wake =>
    obtain ⟨⟨reply, delay, hwaits, hwake⟩, hstart, _, _⟩ := hallows
    have hend := hnext wake (by simp)
    have hdeadline := hnext run.watch.deadline (by simp)
    rw [hwake, hwaits.ceilMillis_waitEnd horigin] at hend
    rw [hstands.watch] at hdeadline
    exact ⟨⟨reply, delay, hwaits, hwake⟩, hstart.trans hlater, hend, hdeadline⟩

/-! ## Moves -/

/-- The clock stands at the end of a call when its reply is taken down. -/
theorem Allows.eq_callEnd {since due : Moment} {answer : Answer}
    (hallows : t.Allows k now (.calling since due answer)) (horigin : Span.IsWhole t.origin)
    (hnow : Span.IsWhole now) (hdue : due ≤ now) : now = t.callEnd k := by
  obtain ⟨_, rfl, _, _, _, hend, _⟩ := hallows
  refine le_antisymm hend ?_
  rw [← ceilMillis_due horigin k]
  exact (Span.ceilMillis_le_iff hnow).mpr hdue

section Moves

variable {σ : Type} {link : Link σ} {cancelled : Bool} {s after : σ}

theorem Stands.expire (hstands : t.Stands request now k .ready run) (hlate : t.deadline ≤ now) :
    t.Ended request (run.timeOut t.terms now (run.state.number - 1)) := by
  have hnow : now = t.callStart k := hstands.allows
  cases k with
  | zero =>
    refine .unbegun (hlate.trans_eq hnow) ?_ hstands.calls hstands.records
    rw [hnow]
    simp only [Run.timeOut, Run.finish, hstands.number, hstands.last]
    rfl
  | succ k =>
    have hearly := hstands.reaches.callStart_lt
    rw [hnow] at hlate
    exact absurd hlate (not_le.mpr hearly)

theorem Stands.call (hstands : t.Stands request now k .ready run)
    (hstep : (link request s).1 = t.steps run.calls.length) (hearly : now < t.deadline) :
    ∃ stage, t.Stands request now k stage (run.call link request now s).1 := by
  have hnow : now = t.callStart k := hstands.allows
  have hlength : run.calls.length = k := by rw [hstands.calls, length_calls]; rfl
  rw [hlength] at hstep
  refine ⟨.calling now (now + (t.steps k).latency) (t.steps k).answer, ?_⟩
  refine ⟨?_, hstands.reaches, ?_, hstands.watch, hstands.number, hstands.last, ?_, hstands.records⟩
  · rw [← hstep]
    rfl
  · refine ⟨hnow, by rw [hnow], rfl, ?_, ?_, ?_, ?_⟩
    · rwa [← hnow]
    · exact hnow.ge
    · exact hnow.trans_le (t.callStart_le_callEnd k)
    · exact hearly.le.trans (Span.le_ceilMillis _)
  · calc
      (run.call link request now s).1.calls = run.calls ++ [(now, request)] := rfl
      _ = t.calls request (k + 1) := by rw [hstands.calls, hnow, calls_succ]; rfl

theorem Stands.abandon {since due : Moment} {answer : Answer}
    (hstands : t.Stands request now k (.calling since due answer) run)
    (hnow : Span.IsWhole now) (hlate : t.deadline ≤ now) :
    t.Ended request (Run.timeOut t.terms (run.note (.callAbandoned run.state.number)) now
      run.state.number) := by
  obtain ⟨_, _, _, hearly, _, hend, hbound⟩ := hstands.allows
  refine .stopped hearly hstands.reaches (stop?_of_late (hlate.trans hend)) ?_ hstands.calls ?_
  · rw [← eq_ceilMillis_deadline hnow hlate hbound]
    simp only [Run.timeOut, Run.finish, Run.note, hstands.number, hstands.last]
    rfl
  · rw [answered_of_late (hlate.trans hend)]
    exact hstands.records

theorem Stands.fail {since due : Moment} {error : String}
    (hstands : t.Stands request now k (.calling since due (.error error)) run)
    (horigin : Span.IsWhole t.origin) (hnow : Span.IsWhole now) (hearly : now < t.deadline)
    (hdue : due ≤ now) (entry : Entry) :
    t.Ended request ((run.note entry).finish now (.fatal error)) := by
  have hend := hstands.allows.eq_callEnd horigin hnow hdue
  obtain ⟨_, _, hanswer, hstart, _⟩ := hstands.allows
  rw [hend] at hearly
  refine .stopped hstart hstands.reaches (stop?_of_error hearly hanswer.symm) ?_ hstands.calls ?_
  · rw [← hend]
    rfl
  · rw [answered_of_early hearly, records_succ_of_error hanswer.symm]
    exact hstands.records

/-- The calls and records of a run whose answer has been taken down. -/
theorem Stands.receive_kept {since due : Moment} {reply : Reply}
    (hstands : t.Stands request now k (.calling since due (.ok reply)) run)
    (hend : now = t.callEnd k) :
    (Run.receive t.terms run request since now reply).calls = t.calls request (k + 1) ∧
      (Run.receive t.terms run request since now reply).records = t.records (k + 1) := by
  obtain ⟨hsince, _, hanswer, _⟩ := hstands.allows
  constructor
  · rw [Run.receive_calls, hstands.calls]
    rfl
  · calc
      (Run.receive t.terms run request since now reply).records =
          t.records k ++ [Record.ofReply (t.terms.attemptId (k + 1)) (k + 1) reply
            (t.callEnd k - t.callStart k)] := by
        rw [Run.receive_records, hstands.records, hstands.number, hsince, hend]
        rfl
      _ = t.records (k + 1) := (records_succ_of_ok hanswer.symm).symm

theorem Stands.progressAt_eq {since due : Moment} {answer : Answer}
    (hstands : t.Stands request now k (.calling since due answer) run) (hend : now = t.callEnd k)
    (reply : Reply) :
    run.progressAt now reply = ⟨k + 1, t.callEnd k - t.origin, some reply⟩ := by
  rw [Run.progressAt, Progress.record, Watch.elapsed, hstands.watch, hstands.number, ← hend]

theorem Stands.rest {since due : Moment} {reply : Reply} {delay : Span}
    (hstands : t.Stands request now k (.calling since due (.ok reply)) run)
    (hend : now = t.callEnd k) (hwaits : t.Waits k reply delay) :
    t.Stands request now k (.resting (Span.waitEnd (t.callEnd k) delay))
      (Run.receive t.terms run request since now reply) := by
  obtain ⟨reason, hdecision⟩ := hwaits.decision
  obtain ⟨hcalls, hrecords⟩ := hstands.receive_kept hend
  have hprogress := hstands.progressAt_eq hend reply
  have hdecide : t.terms.decide (run.progressAt now reply) = .retry delay reason := by
    rw [hprogress]
    exact hdecision
  have hremains : delay < run.watch.remaining now := by
    rw [hstands.watch, hend]
    exact Nat.lt_sub_iff_add_lt'.mpr hwaits.short
  refine ⟨?_, hstands.reaches, ?_, ?_, ?_, ?_, hcalls, hrecords⟩
  · rw [Run.receive_phase_of_retry hwaits.failure hdecide hremains, hend]
  · refine ⟨⟨reply, delay, hwaits, rfl⟩, hend.ge, ?_, ?_⟩
    · exact hend.trans_le (t.callEnd_le_callStart_succ k)
    · calc
        now = t.callEnd k := hend
        _ ≤ t.deadline := hwaits.early.le
        _ ≤ Span.ceilMillis t.deadline := Span.le_ceilMillis _
  · rw [Run.receive_watch, hstands.watch]
  · rw [Run.receive_state hwaits.failure, hprogress]
  · rw [Run.receive_state hwaits.failure, hprogress]
    exact (reply?_of_ok hwaits.answer).symm

theorem Stands.receive {since due : Moment} {reply : Reply}
    (hstands : t.Stands request now k (.calling since due (.ok reply)) run)
    (horigin : Span.IsWhole t.origin) (hnow : Span.IsWhole now) (hearly : now < t.deadline)
    (hdue : due ≤ now) :
    (∃ stage, t.Stands request now k stage (Run.receive t.terms run request since now reply)) ∨
      t.Ended request (Run.receive t.terms run request since now reply) := by
  have hend := hstands.allows.eq_callEnd horigin hnow hdue
  obtain ⟨_, _, hanswer, hstart, _⟩ := hstands.allows
  obtain ⟨hcalls, hrecords⟩ := hstands.receive_kept hend
  have hprogress := hstands.progressAt_eq hend reply
  rw [hend] at hearly
  have hended {ending : Ending} (hstop : t.stop? k = some (ending, t.callEnd k))
      (hphase : (Run.receive t.terms run request since now reply).phase = .over ending now) :
      t.Ended request (Run.receive t.terms run request since now reply) := by
    rw [hend] at hphase
    apply Ended.stopped hstart hstands.reaches hstop _ hcalls
    · rw [hrecords, answered_of_early hearly]
    · rw [hend]
      exact hphase
  -- what the timeline says of the call is what the strategy and the time left make of the reply
  have houtcome := t.outcome k
  generalize hstop : t.stop? k = stop at houtcome
  cases houtcome with
  | late hlate => exact absurd hearly (not_lt.mpr hlate)
  | error _ hanswer' => cases hanswer.trans hanswer'
  | success _ hanswer' =>
    cases hanswer.trans hanswer'
    exact .inr (hended hstop rfl)
  | stop _ hanswer' hfailure hdecision =>
    cases hanswer.trans hanswer'
    rw [decision, ← hprogress] at hdecision
    exact .inr (hended hstop (Run.receive_phase_of_stop hfailure hdecision))
  | @long _ delay _ _ hanswer' hfailure hdecision hlong =>
    cases hanswer.trans hanswer'
    rw [decision, ← hprogress] at hdecision
    have hlate : run.watch.remaining now ≤ delay := by
      rw [hstands.watch, hend]
      exact Nat.sub_le_iff_le_add'.mpr hlong
    rw [← hstands.number] at hstop
    exact .inr (hended hstop (Run.receive_phase_of_late hfailure hdecision hlate))
  | overslept hwaits | next hwaits =>
    cases hanswer.trans hwaits.answer
    exact .inl ⟨_, hstands.rest hend hwaits⟩

theorem Stands.overrun {wake : Moment} (hstands : t.Stands request now k (.resting wake) run)
    (hnow : Span.IsWhole now) (hlate : t.deadline ≤ now) :
    t.Ended request (run.timeOut t.terms now run.state.number) := by
  obtain ⟨⟨reply, delay, hwaits, _⟩, _, hend, hbound⟩ := hstands.allows
  have hstop := hwaits.stop?_eq
  rw [if_pos (hlate.trans hend)] at hstop
  have hstart : t.callStart k < t.deadline :=
    lt_of_le_of_lt (t.callStart_le_callEnd k) hwaits.early
  have hlast : t.lastReply (k + 1) = some reply := reply?_of_ok hwaits.answer
  refine .stopped hstart hstands.reaches hstop ?_ hstands.calls ?_
  · rw [← eq_ceilMillis_deadline hnow hlate hbound]
    simp only [Run.timeOut, Run.finish, hstands.number, hstands.last, kept, hlast]
    rfl
  · rw [answered_of_early hwaits.early]
    exact hstands.records

theorem Stands.wake {wake : Moment} (hstands : t.Stands request now k (.resting wake) run)
    (horigin : Span.IsWhole t.origin) (hnow : Span.IsWhole now) (hearly : now < t.deadline)
    (hwake : wake ≤ now) :
    t.Stands request now (k + 1) .ready
      { run with state := run.state.advance, phase := .working request .ready } := by
  obtain ⟨⟨reply, delay, hwaits, rfl⟩, _, hend, _⟩ := hstands.allows
  have hstart : now = t.callStart (k + 1) := by
    refine le_antisymm hend ?_
    rw [← hwaits.ceilMillis_waitEnd horigin]
    exact (Span.ceilMillis_le_iff hnow).mpr hwake
  have hnone : t.stop? k = none := stop?_eq_none_iff.mpr ⟨reply, delay, hwaits, hstart ▸ hearly⟩
  refine ⟨rfl, hstands.reaches.succ hnone, hstart, hstands.watch, ?_, hstands.last,
    hstands.calls, hstands.records⟩
  exact congrArg (· + 1) hstands.number

theorem Stands.moves (hstands : t.Stands request now k stage run)
    (horigin : Span.IsWhole t.origin) (hnow : Span.IsWhole now)
    (hstep : (link request s).1 = t.steps run.calls.length)
    (hmove : run.Moves t.terms link now cancelled s next after) :
    (∃ k stage, t.Stands request now k stage next) ∨ t.Ended request next ∨
      cancelled = true ∧ next = run.finish now .cancelled := by
  have hphase := hstands.phase
  have hdeadline : run.watch.deadline = t.deadline := by rw [hstands.watch]
  cases hmove with
  | cancel _ hcancelled => exact .inr (.inr ⟨hcancelled, rfl⟩)
  | expire hready _ hlate =>
    cases hphase.symm.trans hready
    exact .inr (.inl (hstands.expire (hdeadline ▸ hlate)))
  | call hready _ hearly =>
    cases hphase.symm.trans hready
    exact .inl ⟨k, hstands.call hstep (hdeadline ▸ hearly)⟩
  | abandon hcalling _ hlate =>
    cases hphase.symm.trans hcalling
    exact .inr (.inl (hstands.abandon hnow (hdeadline ▸ hlate)))
  | fail hcalling _ hearly hdue =>
    cases hphase.symm.trans hcalling
    exact .inr (.inl (hstands.fail horigin hnow (hdeadline ▸ hearly) hdue _))
  | receive hcalling _ hearly hdue =>
    cases hphase.symm.trans hcalling
    rcases hstands.receive horigin hnow (hdeadline ▸ hearly) hdue with hnext | hended
    · exact .inl ⟨k, hnext⟩
    · exact .inr (.inl hended)
  | overrun hresting _ hlate =>
    cases hphase.symm.trans hresting
    exact .inr (.inl (hstands.overrun hnow (hdeadline ▸ hlate)))
  | wake hresting _ hearly hwake =>
    cases hphase.symm.trans hresting
    exact .inl ⟨k + 1, .ready, hstands.wake horigin hnow (hdeadline ▸ hearly) hwake⟩

end Moves

end Timeline

end Courier
