import Courier.Proofs.Run.Path
import Courier.Run.Session

/-!
# Waits under a watch

A guarded wait ends at the first stop of the clock that has reached what is waited for, the deadline
or the cancellation.  Of two that are reached at one stop the deadline wins over what is waited for,
and both win over the cancellation, which comes about only when nothing else can happen.  This is
said for one wait in any session first, and then for every sequence of waits.
-/

namespace Courier

theorem Token.exists_of_isDue {token : Token} {now : Moment} (hdue : token.isDue now = true) :
    ∃ moment, token.firesAt = some moment ∧ moment ≤ now := by
  simp only [isDue, Bool.and_eq_true] at hdue
  obtain ⟨moment, hfires, hpassed⟩ := (Option.any_eq_true _ _).mp hdue.2
  exact ⟨moment, hfires, of_decide_eq_true hpassed⟩

/-- A watch counts down from the time between its start and its deadline. -/
theorem Watch.counts_down {watch : Watch} {limit : Span}
    (hdeadline : watch.deadline = watch.startedAt + limit) (passed : Span) :
    watch.elapsed (watch.startedAt + passed) = passed ∧
      watch.remaining (watch.startedAt + passed) = limit - passed ∧
      (watch.isExpired (watch.startedAt + passed) = true ↔
        watch.remaining (watch.startedAt + passed) = 0) ∧
      (watch.isExpired (watch.startedAt + passed) = true ↔ limit ≤ passed) := by
  simp only [elapsed, remaining, isExpired, hdeadline, decide_eq_true_eq]
  lia

namespace Session

variable {session next : Session} {due moment : Moment} {fuel : Nat}

/-- The first stop of the clock that has reached a moment. -/
def stopAt (session : Session) (moment : Moment) : Moment :=
  max session.now (Span.ceilMillis moment)

theorem stopAt_of_le (hwhole : Span.IsWhole session.now) (hreached : moment ≤ session.now) :
    session.stopAt moment = session.now :=
  max_eq_left ((Span.ceilMillis_le_iff hwhole).mpr hreached)

theorem now_le_stopAt (session : Session) (moment : Moment) :
    session.now ≤ session.stopAt moment := le_max_left _ _

theorem le_stopAt (session : Session) (moment : Moment) : moment ≤ session.stopAt moment :=
  (Span.le_ceilMillis moment).trans (le_max_right _ _)

theorem stopAt_le {stop : Moment} (hwhole : Span.IsWhole stop) (hlater : session.now ≤ stop)
    (hreached : moment ≤ stop) : session.stopAt moment ≤ stop :=
  max_le hlater ((Span.ceilMillis_le_iff hwhole).mpr hreached)

/-- The token fires at a stop of the clock before the one that reaches a moment. -/
def CutBefore (session : Session) (moment : Moment) : Prop :=
  ∃ cut, session.token.firesAt = some cut ∧ session.stopAt cut < session.stopAt moment

/-- Waits under the watch for something that is done at a moment. -/
def guardUntil (session : Session) (due : Moment) : Except Interrupt Unit × Session :=
  guardLoop due 5 session

/-! ## Turns -/

/-- What every turn of a wait keeps. -/
structure Passes (session next : Session) : Prop where
  watch : next.watch = session.watch
  later : session.now ≤ next.now
  fired : session.token.fired = true → next.token.fired = true
  whole : Span.IsWhole session.now → Span.IsWhole next.now

theorem Passes.refl (session : Session) : session.Passes session := ⟨rfl, le_rfl, id, id⟩

theorem Passes.trans {middle : Session} (hfirst : session.Passes middle)
    (hsecond : middle.Passes next) : session.Passes next :=
  ⟨hsecond.watch.trans hfirst.watch, hfirst.later.trans hsecond.later,
    hsecond.fired ∘ hfirst.fired, hsecond.whole ∘ hfirst.whole⟩

theorem passes_turn (session : Session) (alarms : List Moment) :
    session.Passes (session.turn alarms) := by
  unfold turn
  split
  · exact ⟨rfl, le_rfl, fun _ ↦ rfl, id⟩
  · split
    · next moment hnext =>
      refine ⟨rfl, le_max_left _ _, id, fun hwhole ↦ ?_⟩
      have hstop := isWhole_nextMoment hnext
      rcases le_total session.now moment with hle | hle
      · rwa [max_eq_right hle]
      · rwa [max_eq_left hle]
    · exact .refl session

theorem passes_guardLoop (due : Moment) (fuel : Nat) (session : Session) :
    session.Passes (guardLoop due fuel session).2 := by
  induction fuel generalizing session with
  | zero => exact .refl session
  | succ fuel ih =>
    unfold guardLoop
    split
    · exact .refl session
    · exact (passes_turn session _).trans (ih _)

theorem passes_waitLoop (due : Moment) (fuel : Nat) (session : Session) :
    session.Passes (waitLoop due fuel session) := by
  induction fuel generalizing session with
  | zero => exact .refl session
  | succ fuel ih =>
    unfold waitLoop
    split
    · exact .refl session
    · exact (passes_turn session _).trans (ih _)

/-- A token that is due fires before the clock goes on. -/
theorem turn_of_isDue (hdue : session.token.isDue session.now = true) (alarms : List Moment) :
    session.turn alarms = { session with token := session.token.fire } := if_pos hdue

/-- A turn that moves the clock, to the first stop that reaches an alarm. -/
structure Ticks (session next : Session) (alarms : List Moment) : Prop where
  turn : next = { session with now := next.now }
  later : session.now < next.now
  whole : Span.IsWhole next.now
  reached : ∃ alarm ∈ alarms ++ session.token.alarms, next.now = session.stopAt alarm
  first : ∀ alarm ∈ alarms ++ session.token.alarms, next.now ≤ session.stopAt alarm

theorem ticks_turn {alarms : List Moment} (hidle : session.token.isDue session.now = false)
    (hsome : alarms ≠ []) (hlater : ∀ alarm ∈ alarms, session.now < alarm) :
    session.Ticks (session.turn alarms) alarms := by
  cases hnext : nextMoment (alarms ++ session.token.alarms) with
  | none => exact absurd (List.append_eq_nil_iff.mp (nextMoment_eq_none_iff.mp hnext)).1 hsome
  | some stop =>
    obtain ⟨⟨alarm, halarm, hstop⟩, hleast⟩ := nextMoment_spec hnext
    have hbefore : session.now < stop := by
      rw [hstop]
      refine lt_of_lt_of_le ?_ (Span.le_ceilMillis alarm)
      rcases List.mem_append.mp halarm with halarm | halarm
      · exact hlater alarm halarm
      · exact Token.lt_of_mem_alarms hidle halarm
    have hturn : session.turn alarms = { session with now := stop } := by
      simp only [Session.turn, hidle, Bool.false_eq_true, if_false, hnext, max_eq_right hbefore.le]
    rw [hturn]
    refine ⟨rfl, hbefore, isWhole_nextMoment hnext, ⟨alarm, halarm, ?_⟩, fun other hother ↦ ?_⟩
    · rw [stopAt, ← hstop, max_eq_right hbefore.le]
    · exact (hleast other hother).trans (le_max_right _ _)

/-- An alarm that the clock has reached is one that it has stopped for. -/
theorem Ticks.stopAt_eq {alarms : List Moment} {alarm : Moment} (hticks : session.Ticks next alarms)
    (halarm : alarm ∈ alarms) (hreached : alarm ≤ next.now) : session.stopAt alarm = next.now :=
  le_antisymm (stopAt_le hticks.whole hticks.later.le hreached)
    (hticks.first alarm (List.mem_append_left _ halarm))

/-- The token does not fire before the stop. -/
theorem Ticks.not_cutBefore {alarms : List Moment} (hticks : session.Ticks next alarms)
    (hunfired : session.token.fired = false) (hstop : session.stopAt moment = next.now) :
    ¬ session.CutBefore moment := by
  rintro ⟨cut, hcut, hbefore⟩
  have halarm : cut ∈ alarms ++ session.token.alarms := by
    simp [Token.alarms, hunfired, hcut]
  rw [hstop] at hbefore
  exact absurd hbefore (not_lt.mpr (hticks.first cut halarm))

/-! ## One wait -/

/-- How a guarded wait ends, and when. -/
inductive Ends (session : Session) (due : Moment) : Except Interrupt Unit → Moment → Prop
  | cancelledBefore (hfired : session.token.fired = true) :
      Ends session due (.error .cancelled) session.now
  | cancelled {cut : Moment} (hunfired : session.token.fired = false)
      (hcut : session.token.firesAt = some cut)
      (hdue : session.stopAt cut < session.stopAt due)
      (hdeadline : session.stopAt cut < session.stopAt session.watch.deadline) :
      Ends session due (.error .cancelled) (session.stopAt cut)
  | deadlineReached (hunfired : session.token.fired = false)
      (huncut : ¬ session.CutBefore session.watch.deadline)
      (hlate : session.stopAt session.watch.deadline ≤ session.stopAt due) :
      Ends session due (.error .deadlineReached) (session.stopAt session.watch.deadline)
  | done (hunfired : session.token.fired = false) (huncut : ¬ session.CutBefore due)
      (hdone : session.stopAt due < session.watch.deadline) :
      Ends session due (.ok ()) (session.stopAt due)

theorem not_cutBefore_of_stopAt_eq (hnow : session.stopAt moment = session.now) :
    ¬ session.CutBefore moment := by
  rintro ⟨cut, _, hbefore⟩
  rw [hnow] at hbefore
  exact absurd hbefore (not_lt.mpr (session.now_le_stopAt cut))

theorem guardLoop_of_poll {outcome : Except Interrupt Unit}
    (hpoll : session.watch.poll session.now session.token.fired due = some outcome) (fuel : Nat) :
    guardLoop due (fuel + 1) session = (outcome, session) := by
  simp only [guardLoop, hpoll]

theorem guardLoop_of_none (hpoll : session.watch.poll session.now session.token.fired due = none)
    (fuel : Nat) : guardLoop due (fuel + 1) session =
      guardLoop due fuel (session.turn [due, session.watch.deadline]) := by
  simp only [guardLoop, hpoll]

/-- A wait that cannot go on ends at once. -/
theorem ends_of_poll (hwhole : Span.IsWhole session.now) {outcome : Except Interrupt Unit}
    (hpoll : session.watch.poll session.now session.token.fired due = some outcome) :
    session.Ends due outcome session.now := by
  rcases outcome with (_ | _) | ⟨⟩
  · obtain ⟨hunfired, hlate⟩ := Watch.poll_eq_deadlineReached_iff.mp hpoll
    have hstop := stopAt_of_le hwhole hlate
    have hends : session.Ends due (.error .deadlineReached)
        (session.stopAt session.watch.deadline) :=
      .deadlineReached hunfired (not_cutBefore_of_stopAt_eq hstop)
        (hstop.trans_le (session.now_le_stopAt due))
    rwa [hstop] at hends
  · exact .cancelledBefore (Watch.poll_eq_cancelled_iff.mp hpoll)
  · obtain ⟨hunfired, hearly, hdue⟩ := Watch.poll_eq_ok_iff.mp hpoll
    have hstop := stopAt_of_le hwhole hdue
    have hends : session.Ends due (.ok ()) (session.stopAt due) :=
      .done hunfired (not_cutBefore_of_stopAt_eq hstop) (hstop.trans_lt hearly)
    rwa [hstop] at hends

/-- The clock stops for what is waited for, for the deadline or for the token. -/
theorem Ticks.poll_cases (hticks : session.Ticks next [due, session.watch.deadline])
    (hunfired : session.token.fired = false) :
    (∃ outcome, next.watch.poll next.now next.token.fired due = some outcome ∧
        session.Ends due outcome next.now) ∨
      next.watch.poll next.now next.token.fired due = none ∧ next.token.isDue next.now = true ∧
        session.Ends due (.error .cancelled) next.now := by
  have hwatch : next.watch = session.watch := by rw [hticks.turn]
  have htoken : next.token = session.token := by rw [hticks.turn]
  have hdue := hticks.first due (by simp)
  have hdeadline := hticks.first session.watch.deadline (by simp)
  rw [hwatch, htoken, hunfired]
  rcases le_or_gt session.watch.deadline next.now with hlate | hearly
  · have hstop := hticks.stopAt_eq (by simp) hlate
    refine .inl ⟨_, Watch.poll_eq_deadlineReached_iff.mpr ⟨rfl, hlate⟩, ?_⟩
    rw [← hstop]
    exact .deadlineReached hunfired (hticks.not_cutBefore hunfired hstop) (hstop.trans_le hdue)
  rcases le_or_gt due next.now with hreached | hwaiting
  · have hstop := hticks.stopAt_eq (by simp) hreached
    refine .inl ⟨_, Watch.poll_eq_ok_iff.mpr ⟨rfl, hearly, hreached⟩, ?_⟩
    rw [← hstop]
    exact .done hunfired (hticks.not_cutBefore hunfired hstop) (hstop.trans_lt hearly)
  -- neither is reached, so the clock has stopped for the token
  obtain ⟨cut, hcut, hstop⟩ := hticks.reached
  have hpassed : cut ≤ next.now := hstop ▸ session.le_stopAt cut
  have hcut : session.token.firesAt = some cut := by
    simp only [List.cons_append, List.nil_append, List.mem_cons, Token.alarms, hunfired,
      Bool.false_eq_true, if_false, Option.mem_toList] at hcut
    rcases hcut with rfl | rfl | hcut
    · exact absurd hpassed (not_le.mpr hwaiting)
    · exact absurd hpassed (not_le.mpr hearly)
    · exact hcut
  refine .inr ⟨Watch.poll_eq_none_iff.mpr ⟨rfl, hearly, hwaiting⟩, ?_, ?_⟩
  · simp [Token.isDue, hunfired, hcut, hpassed]
  · rw [hstop] at hearly hwaiting ⊢
    exact .cancelled hunfired hcut (hwaiting.trans_le (session.le_stopAt due))
      (hearly.trans_le (session.le_stopAt session.watch.deadline))

theorem guardLoop_of_isDue (hpoll : session.watch.poll session.now session.token.fired due = none)
    (hdue : session.token.isDue session.now = true) (fuel : Nat) :
    guardLoop due (fuel + 2) session =
      (.error .cancelled, { session with token := session.token.fire }) := by
  rw [guardLoop_of_none hpoll, turn_of_isDue hdue]
  exact guardLoop_of_poll (Watch.poll_eq_cancelled_iff.mpr rfl) fuel

/-- A guarded wait ends as it should, since no wait takes more than three turns. -/
theorem guardUntil_ends (hwhole : Span.IsWhole session.now) (due : Moment) :
    session.Ends due (session.guardUntil due).1 (session.guardUntil due).2.now := by
  unfold guardUntil
  cases hpoll : session.watch.poll session.now session.token.fired due with
  | some outcome =>
    rw [guardLoop_of_poll hpoll]
    exact ends_of_poll hwhole hpoll
  | none =>
    obtain ⟨hunfired, hearly, hwaiting⟩ := Watch.poll_eq_none_iff.mp hpoll
    cases hdue : session.token.isDue session.now with
    | true =>
      rw [guardLoop_of_isDue hpoll hdue]
      obtain ⟨cut, hcut, hpassed⟩ := Token.exists_of_isDue hdue
      have hstop := stopAt_of_le hwhole hpassed
      have hends : session.Ends due (.error .cancelled) (session.stopAt cut) := by
        refine .cancelled hunfired hcut ?_ ?_
        · exact hstop.trans_lt (hwaiting.trans_le (session.le_stopAt due))
        · exact hstop.trans_lt (hearly.trans_le (session.le_stopAt session.watch.deadline))
      rwa [hstop] at hends
    | false =>
      have hticks : session.Ticks (session.turn [due, session.watch.deadline])
          [due, session.watch.deadline] :=
        ticks_turn hdue (by simp) (by simp [hwaiting, hearly])
      rw [guardLoop_of_none hpoll]
      rcases hticks.poll_cases hunfired with ⟨outcome, hpoll, hends⟩ | ⟨hpoll, hdue, hends⟩
      · rw [guardLoop_of_poll hpoll]
        exact hends
      · rw [guardLoop_of_isDue hpoll hdue]
        exact hends

/-- The first stop of the clock that matters to a guarded wait. -/
def firstStop (session : Session) (due : Moment) : Moment :=
  if session.token.fired then session.now
  else (session.token.firesAt.toList.map session.stopAt).foldr min
    (min (session.stopAt due) (session.stopAt session.watch.deadline))

theorem stopAt_le_of_not_cutBefore {cut : Moment} (huncut : ¬ session.CutBefore moment)
    (hcut : session.token.firesAt = some cut) : session.stopAt moment ≤ session.stopAt cut :=
  not_lt.mp fun hbefore ↦ huncut ⟨cut, hcut, hbefore⟩

theorem Ends.eq_firstStop {outcome : Except Interrupt Unit}
    (hends : session.Ends due outcome moment) : moment = session.firstStop due := by
  unfold firstStop
  cases hends with
  | cancelledBefore hfired => rw [if_pos hfired]
  | cancelled hunfired hcut hdue hdeadline =>
    simp [hunfired, hcut, hdue.le, hdeadline.le]
  | deadlineReached hunfired huncut hlate =>
    cases hfires : session.token.firesAt with
    | none => simp [hunfired, hlate]
    | some cut => simp [hunfired, hlate, stopAt_le_of_not_cutBefore huncut hfires]
  | done hunfired huncut hdone =>
    have hearly := (hdone.trans_le (session.le_stopAt session.watch.deadline)).le
    cases hfires : session.token.firesAt with
    | none => simp [hunfired, hearly]
    | some cut => simp [hunfired, hearly, stopAt_le_of_not_cutBefore huncut hfires]

/-! ## Waits in turn -/

/-- What is done in a session. -/
inductive Wait where
  | guarded (due : Moment)
  | asleep (span : Span)
  | plain (span : Span)
  | cancel

def perform (session : Session) : Wait → Session
  | .guarded due => (session.guardUntil due).2
  | .asleep span => (session.guard span).2
  | .plain span => session.wait span
  | .cancel => session.cancel

def after (session : Session) (waits : List Wait) : Session := waits.foldl perform session

theorem passes_perform (session : Session) (wait : Wait) :
    session.Passes (session.perform wait) := by
  cases wait with
  | guarded due => exact passes_guardLoop due 5 session
  | asleep span => exact passes_guardLoop _ 5 session
  | plain span => exact passes_waitLoop _ 4 session
  | cancel => exact ⟨rfl, le_rfl, fun _ ↦ rfl, id⟩

theorem passes_after (session : Session) (waits : List Wait) :
    session.Passes (session.after waits) := by
  induction waits generalizing session with
  | nil => exact .refl session
  | cons wait waits ih => exact (passes_perform session wait).trans (ih _)

/-- No guarded wait can come to its end any more. -/
def IsSpent (session : Session) : Prop :=
  session.token.fired = true ∨ session.watch.deadline ≤ session.now

theorem IsSpent.of_passes (hspent : session.IsSpent) (hpasses : session.Passes next) :
    next.IsSpent := by
  rcases hspent with hfired | hlate
  · exact .inl (hpasses.fired hfired)
  · exact .inr (hpasses.watch ▸ hlate.trans hpasses.later)

theorem Ends.not_ok_of_isSpent {outcome : Except Interrupt Unit}
    (hends : session.Ends due outcome moment) (hspent : session.IsSpent) : outcome ≠ .ok () := by
  rintro rfl
  cases hends with
  | done hunfired _ hdone =>
    rcases hspent with hfired | hlate
    · simp [hunfired] at hfired
    · exact absurd (hlate.trans (session.now_le_stopAt due)) (not_le.mpr hdone)

theorem isSpent_of_guardLoop (due : Moment) (fuel : Nat) {session : Session}
    (hinterrupted : (guardLoop due fuel session).1 ≠ .ok ()) :
    (guardLoop due fuel session).2.IsSpent := by
  induction fuel generalizing session with
  | zero => exact absurd rfl hinterrupted
  | succ fuel ih =>
    cases hpoll : session.watch.poll session.now session.token.fired due with
    | none =>
      rw [guardLoop_of_none hpoll] at hinterrupted ⊢
      exact ih hinterrupted
    | some outcome =>
      rw [guardLoop_of_poll hpoll] at hinterrupted ⊢
      rcases outcome with (_ | _) | ⟨⟩
      · exact .inr (Watch.poll_eq_deadlineReached_iff.mp hpoll).2
      · exact .inl (Watch.poll_eq_cancelled_iff.mp hpoll)
      · exact absurd rfl hinterrupted

/-- A session that starts at a whole millisecond of the clock. -/
def opened (range : ClockRange) (millis : Nat) (budget : Span) (token : Token) : Session :=
  ⟨Span.ofMillis millis, Watch.start range (Span.ofMillis millis) budget, token⟩

/-- The time that a session has from its start. -/
def limit (range : ClockRange) (millis : Nat) (budget : Span) : Span :=
  if Span.ofMillis millis + budget < range.bound then budget else Span.thirtyYears

theorem deadline_opened (range : ClockRange) (millis : Nat) (budget : Span) (token : Token) :
    (opened range millis budget token).watch.deadline =
      Span.ofMillis millis + limit range millis budget := by
  simp only [opened, Watch.start, ClockRange.after, limit]
  split <;> rfl

/-- Whatever has been done in a session, its watch counts down from the limit, every guarded wait
ends at the first stop for what it waits for, the deadline or the cancellation, and the first one
that is interrupted is the last that could have been over. -/
theorem guarded_waits_end_first (range : ClockRange) (millis : Nat) (budget : Span) (token : Token)
    (waits : List Wait) :
    let session := (opened range millis budget token).after waits
    session.watch.deadline = Span.ofMillis millis + limit range millis budget ∧
      (∀ passed, let now := Span.ofMillis millis + passed
        session.watch.elapsed now = passed ∧
          session.watch.remaining now = limit range millis budget - passed ∧
          (session.watch.isExpired now = true ↔ session.watch.remaining now = 0) ∧
          (session.watch.isExpired now = true ↔ limit range millis budget ≤ passed)) ∧
      (∀ span, session.guard span = session.guardUntil (Span.waitEnd session.now span)) ∧
      ∀ due, let ended := session.guardUntil due
        session.Ends due ended.1 ended.2.now ∧
          ended.2.now = session.firstStop due ∧
          (ended.1 ≠ .ok () →
            ∀ more other, ((ended.2.after more).guardUntil other).1 ≠ .ok ()) := by
  intro session
  have hpasses : (opened range millis budget token).Passes session := passes_after _ waits
  have hdeadline : session.watch.deadline = Span.ofMillis millis + limit range millis budget :=
    hpasses.watch ▸ deadline_opened range millis budget token
  have hstarted : session.watch.startedAt = Span.ofMillis millis := by rw [hpasses.watch]; rfl
  have hwhole : Span.IsWhole session.now := hpasses.whole (Nat.mul_mod_left _ _)
  refine ⟨hdeadline, fun passed ↦ ?_, fun _ ↦ rfl, fun due ↦ ?_⟩
  · rw [← hstarted] at hdeadline ⊢
    exact Watch.counts_down hdeadline passed
  · have hends := guardUntil_ends hwhole due
    refine ⟨hends, hends.eq_firstStop, fun hinterrupted more other ↦ ?_⟩
    have hlater := passes_after (session.guardUntil due).2 more
    have hspent := (isSpent_of_guardLoop due 5 hinterrupted).of_passes hlater
    have hwhole := ((passes_guardLoop due 5 session).trans hlater).whole hwhole
    exact (guardUntil_ends hwhole other).not_ok_of_isSpent hspent

/-- A wait that is cut short after two seconds of thirty, and one after that. -/
theorem guarded_waits_end_first_cut :
    let session := (opened .usual 0 (Span.ofSeconds 30) ⟨some (Span.ofSeconds 2), false⟩).after
      [.asleep (Span.ofMillis 1500), .plain 1500000]
    let ended := session.guardUntil (Span.ofSeconds 10)
    ended.1 = .error .cancelled ∧ ended.2.now = Span.ofSeconds 2 ∧
      ((ended.2.after [.plain (Span.ofSeconds 5)]).guardUntil 0).1 ≠ .ok () := by
  intro session ended
  have hended : ended.1 = .error .cancelled ∧ ended.2.now = Span.ofSeconds 2 := by decide +kernel
  obtain ⟨_, _, _, hguarded⟩ := guarded_waits_end_first .usual 0 (Span.ofSeconds 30)
    ⟨some (Span.ofSeconds 2), false⟩ [.asleep (Span.ofMillis 1500), .plain 1500000]
  refine ⟨hended.1, hended.2, (hguarded (Span.ofSeconds 10)).2.2 ?_ _ _⟩
  exact fun hok ↦ nomatch hended.1.symm.trans hok

end Session

end Courier
