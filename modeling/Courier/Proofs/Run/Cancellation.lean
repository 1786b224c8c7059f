import Courier.Proofs.Run.Close

/-!
# Cancelled runs

A cancellation takes effect when everything else at its moment has happened, so it finds the run
waiting, in a call or between two.  What the run has done by then is what the same run does by that
moment uncancelled, because both follow the same timeline; and a run that would have been over by
then is not affected at all.
-/

namespace Courier

/-- The first numbers below `n` are those that pass a test which only they pass. -/
theorem filter_range_of_iff {test : Nat → Bool} {m n : Nat} (hm : m ≤ n)
    (htest : ∀ k, test k = true ↔ k < m) : (List.range n).filter test = List.range m := by
  obtain ⟨rest, rfl⟩ := Nat.exists_eq_add_of_le hm
  rw [List.range_add, List.filter_append]
  have hfirst : (List.range m).filter test = List.range m := by
    apply List.filter_eq_self.mpr
    intro k hk
    exact (htest k).mpr (List.mem_range.mp hk)
  have hrest : ((List.range rest).map (m + ·)).filter test = [] := by
    apply List.filter_eq_nil_iff.mpr
    intro k hk hpass
    obtain ⟨j, _, rfl⟩ := List.mem_map.mp hk
    exact absurd ((htest _).mp hpass) (Nat.not_lt.mpr (Nat.le_add_right m j))
  rw [hfirst, hrest, List.append_nil]

/-- The entries of a list at places that pass a test which only the places of its beginning pass. -/
theorem map_filter_zipIdx_append {α : Type} {test : Nat → Bool} {first : List α} (rest : List α)
    (htest : ∀ k, test k = true ↔ k < first.length) :
    ((first ++ rest).zipIdx.filter fun entry ↦ test entry.2).map Prod.fst = first := by
  rw [List.zipIdx_append, List.filter_append]
  have hfirst : first.zipIdx.filter (fun entry ↦ test entry.2) = first.zipIdx := by
    apply List.filter_eq_self.mpr
    intro entry hentry
    exact (htest entry.2).mpr (List.snd_lt_of_mem_zipIdx hentry)
  have hrest : (rest.zipIdx (0 + first.length)).filter (fun entry ↦ test entry.2) = [] := by
    apply List.filter_eq_nil_iff.mpr
    intro entry hentry hpass
    have hle := List.le_snd_of_mem_zipIdx hentry
    rw [Nat.zero_add] at hle
    exact absurd ((htest entry.2).mp hpass) (Nat.not_lt.mpr hle)
  rw [hfirst, hrest, List.append_nil, List.zipIdx_map_fst]

namespace Timeline

variable {t : Timeline} {request : Request} {now : Moment} {k m : Nat} {stage : Stage} {run : Run}
  {ending : Ending} {finishedAt : Moment}

theorem le_iff_lt_of_monotone {f : Nat → Moment} (hf : Monotone f) (hbefore : ∀ j < m, f j ≤ now)
    (hafter : now < f m) (j : Nat) : f j ≤ now ↔ j < m := by
  constructor
  · intro hj
    by_contra hm
    exact absurd (hafter.trans_le (hf (not_lt.mp hm))) (not_lt.mpr hj)
  · exact hbefore j

/-- At the moment `now` so many calls have begun and so many have been answered. -/
structure Counts (t : Timeline) (now : Moment) (begun answered : Nat) : Prop where
  starts : ∀ j, t.callStart j ≤ now ↔ j < begun
  ends : ∀ j, t.callEnd j ≤ now ↔ j < answered

/-- A run that waits has begun the calls, and has the answers, that are due by then. -/
theorem Stands.counts (hstands : t.Stands request now k stage run)
    (horigin : Span.IsWhole t.origin) (hawaits : run.Awaits now) :
    begun k stage = k + 1 ∧ t.Counts now (k + 1) (kept k stage) := by
  have hallows := hstands.allows
  cases hawaits with
  | call hcalling hdue =>
    cases hstands.phase.symm.trans hcalling
    obtain ⟨_, rfl, _, _, hstart, _, _⟩ := hallows
    have hend : now < t.callEnd k := by
      rw [← ceilMillis_due horigin k]
      exact hdue.trans_le (Span.le_ceilMillis _)
    refine ⟨rfl, ?_, ?_⟩
    · apply le_iff_lt_of_monotone t.callStart_mono
      · intro j hj
        exact (t.callStart_mono (Nat.le_of_lt_succ hj)).trans hstart
      · exact hend.trans_le (t.callEnd_le_callStart_succ k)
    · apply le_iff_lt_of_monotone t.callEnd_mono
      · intro j hj
        calc
          t.callEnd j ≤ t.callStart (j + 1) := t.callEnd_le_callStart_succ j
          _ ≤ t.callStart k := t.callStart_mono hj
          _ ≤ now := hstart
      · exact hend
  | rest hresting hwake =>
    cases hstands.phase.symm.trans hresting
    obtain ⟨⟨reply, delay, hwaits, rfl⟩, hend, _, _⟩ := hallows
    have hnext : now < t.callStart (k + 1) := by
      rw [← hwaits.ceilMillis_waitEnd horigin]
      exact hwake.trans_le (Span.le_ceilMillis _)
    refine ⟨rfl, ?_, ?_⟩
    · apply le_iff_lt_of_monotone t.callStart_mono
      · intro j hj
        calc
          t.callStart j ≤ t.callStart k := t.callStart_mono (Nat.le_of_lt_succ hj)
          _ ≤ t.callEnd k := t.callStart_le_callEnd k
          _ ≤ now := hend
      · exact hnext
    · apply le_iff_lt_of_monotone t.callEnd_mono
      · intro j hj
        exact (t.callEnd_mono (Nat.le_of_lt_succ hj)).trans hend
      · exact hnext.trans_le (t.callStart_le_callEnd (k + 1))

/-- A run that waits in time is not over yet, and neither calls nor answers are missing when it is. -/
theorem Stands.lt_of_stop (hstands : t.Stands request now k stage run)
    (hcounts : t.Counts now (k + 1) (kept k stage)) (hearly : now < t.deadline) (hm : t.Reaches m)
    (hstop : t.stop? m = some (ending, finishedAt)) :
    now < finishedAt ∧ k ≤ m ∧ kept k stage ≤ t.answered m := by
  have hk : k ≤ m := by
    by_contra hlt
    rw [hstands.reaches m (not_le.mp hlt)] at hstop
    contradiction
  have hlater (hkm : k < m) : kept k stage ≤ t.answered m ∧ now < t.callEnd m := by
    have hnext : now < t.callStart (k + 1) :=
      not_le.mp fun hle ↦ absurd ((hcounts.starts (k + 1)).mp hle) (lt_irrefl _)
    constructor
    · calc
        kept k stage ≤ k + 1 := kept_le k stage
        _ ≤ m := hkm
        _ ≤ t.answered m := t.le_answered m
    · calc
        now < t.callStart (k + 1) := hnext
        _ ≤ t.callStart m := t.callStart_mono hkm
        _ ≤ t.callEnd m := t.callStart_le_callEnd m
  have hhere (hkept : kept k stage = k) : kept k stage ≤ t.answered k ∧ now < t.callEnd k := by
    constructor
    · exact hkept.trans_le (t.le_answered k)
    · apply not_le.mp
      intro hle
      have hlt := (hcounts.ends k).mp hle
      rw [hkept] at hlt
      exact lt_irrefl k hlt
  have hstops (hbusy : kept k stage ≤ t.answered m ∧ now < t.callEnd m) :
      now < finishedAt ∧ k ≤ m ∧ kept k stage ≤ t.answered m := by
    refine ⟨?_, hk, hbusy.1⟩
    rcases finishedAt_of_stop hstop with rfl | rfl
    · exact hearly.trans_le (Span.le_ceilMillis _)
    · exact hbusy.2
  rcases hk.lt_or_eq with hkm | rfl
  · exact hstops (hlater hkm)
  · cases stage with
    | ready => exact hstops (hhere rfl)
    | calling since due answer => exact hstops (hhere rfl)
    | resting wake =>
      -- the call has ended, so only the deadline can be the stop
      obtain ⟨⟨reply, delay, hwaits, _⟩, _⟩ := hstands.allows
      refine ⟨?_, le_rfl, (answered_of_early hwaits.early).ge⟩
      rw [hwaits.finishedAt_of_stop hstop]
      exact hearly.trans_le (Span.le_ceilMillis _)

theorem Counts.filter_calls {begun answered : Nat} (hcounts : t.Counts now begun answered)
    {count : Nat} (hcount : begun ≤ count) :
    (t.calls request count).filter (fun call ↦ call.1 ≤ now) = t.calls request begun := by
  rw [calls, List.filter_map, filter_range_of_iff hcount fun j ↦ ?_]
  · rfl
  · exact decide_eq_true_iff.trans (hcounts.starts j)

theorem exists_records_append (t : Timeline) {m n : Nat} (hm : m ≤ n) :
    ∃ rest, t.records n = t.records m ++ rest := by
  obtain ⟨rest, rfl⟩ := Nat.exists_eq_add_of_le hm
  refine ⟨((List.range rest).map (m + ·)).filterMap t.record?, ?_⟩
  rw [records, List.range_add, List.filterMap_append]
  rfl

theorem Stands.length_records (hstands : t.Stands request now k stage run) :
    (t.records (kept k stage)).length = kept k stage := by
  have hreplied : t.Replied k := hstands.reaches.failing.replied
  cases stage with
  | resting wake =>
    obtain ⟨⟨reply, delay, hwaits, _⟩, _⟩ := hstands.allows
    exact (hreplied.succ hwaits.answer).length_records
  | _ => exact hreplied.length_records

theorem Counts.filter_records {begun answered : Nat} (hcounts : t.Counts now begun answered)
    {count : Nat} (hcount : answered ≤ count) (hlength : (t.records answered).length = answered) :
    ((t.records count).zipIdx.filter fun entry ↦ t.callEnd entry.2 ≤ now).map Prod.fst =
      t.records answered := by
  obtain ⟨rest, hrest⟩ := t.exists_records_append hcount
  rw [hrest]
  have htest (j : Nat) : decide (t.callEnd j ≤ now) = true ↔ j < (t.records answered).length := by
    rw [hlength]
    exact decide_eq_true_iff.trans (hcounts.ends j)
  exact map_filter_zipIdx_append rest htest

end Timeline

namespace Solo

variable {σ : Type} {terms : Terms} {link : Link σ} {request : Request} {s : σ} {payload : Bytes}
  {event : Event} {c : Moment} {solo next plain : Solo σ}

/-- The token is to fire at a moment, and the clock has not passed it. -/
structure Timed (c : Moment) (solo : Solo σ) : Prop where
  firesAt : solo.token.firesAt = some c
  before : solo.token.fired = false → solo.now ≤ c
  since : solo.token.fired = true → solo.now = c

theorem Timed.turn (hwhole : Span.IsWhole c) (hturn : Turns terms link solo next)
    (htimed : Timed c solo) : Timed c next := by
  cases hturn with
  | move => exact ⟨htimed.firesAt, htimed.before, htimed.since⟩
  | still => exact htimed
  | fire hawaits hearly hdue =>
    refine ⟨htimed.firesAt, (nomatch ·), fun _ ↦ ?_⟩
    simp only [Token.isDue, htimed.firesAt, Option.any_some, Bool.and_eq_true,
      Bool.not_eq_true', decide_eq_true_iff] at hdue
    exact le_antisymm (htimed.before hdue.1) hdue.2
  | tick hawaits hearly hfired hidle hnext hlater =>
    refine ⟨htimed.firesAt, fun _ ↦ ?_, fun hafter ↦ ?_⟩
    · have halarm : c ∈ solo.token.alarms := by
        simp only [Token.alarms, hfired, Bool.false_eq_true, if_false, htimed.firesAt]
        exact List.mem_singleton_self c
      have hleast := (nextMoment_spec hnext).2 c (List.mem_append_right _ halarm)
      rwa [Span.ceilMillis_of_isWhole hwhole] at hleast
    · rw [hfired] at hafter
      contradiction

theorem Timed.now_le (htimed : Timed c solo) : solo.now ≤ c := by
  cases hfired : solo.token.fired with
  | false => exact htimed.before hfired
  | true => exact (htimed.since hfired).le

theorem timed_after (hwhole : Span.IsWhole c) (count : Nat) :
    Timed c ((startWith terms payload ⟨some c, false⟩ s).after terms link count) :=
  after_induction (fun _ _ hturn htimed ↦ htimed.turn hwhole hturn)
    ⟨rfl, fun _ ↦ Nat.zero_le c, (nomatch ·)⟩ count

/-- A run that is cut off was waiting then, and it is over later on its timeline. -/
theorem cut_of_halts {t : Timeline} {k : Nat} {stage : Stage} {before ended : Run} (hc : 0 < c)
    (horigin : t.origin = 0) (hhalts : t.Halts request c k stage before)
    (hended : t.Ended request ended) {ending : Ending} {finishedAt : Moment}
    (hphase : ended.phase = .over ending finishedAt) :
    c < finishedAt ∧ before.calls = ended.calls.filter (fun call ↦ call.1 ≤ c) ∧
      before.records =
        (ended.records.zipIdx.filter fun entry ↦ t.callEnd entry.2 ≤ c).map Prod.fst := by
  have hstands := hhalts.stands
  have hwhole : Span.IsWhole t.origin := by rw [horigin]; exact Span.isWhole_zero
  rcases hhalts.idle with ⟨rfl, rfl⟩ | ⟨hawaits, hearly⟩
  · have hstart : c = t.origin := hstands.allows
    rw [hstart, horigin] at hc
    exact absurd hc (lt_irrefl 0)
  obtain ⟨hbegun, hcounts⟩ := hstands.counts hwhole hawaits
  cases hended with
  | unbegun hnone =>
    rw [horigin] at hnone
    exact absurd (hearly.trans_le hnone) (Nat.not_lt_zero c)
  | stopped _ hreach hstop hover hcalls hrecords =>
    cases hover.symm.trans hphase
    obtain ⟨hlater, hk, hkept⟩ := hstands.lt_of_stop hcounts hearly hreach hstop
    refine ⟨hlater, ?_, ?_⟩
    · rw [hcalls, hcounts.filter_calls (Nat.succ_le_succ hk), hstands.calls, hbegun]
    · rw [hrecords, hcounts.filter_records hkept hstands.length_records, hstands.records]

/-- The run has ended in the same way as `plain`. -/
structure Same (plain cut : Solo σ) : Prop where
  now : cut.now = plain.now
  calls : cut.run.calls = plain.run.calls
  report : ∀ id clock, cut.run.report? id clock = plain.run.report? id clock

/-- The run has been cancelled at `c`, with the calls begun and the records of the calls ended by
then on the way to `plain`; the timeline says when the calls of the records end. -/
structure CutAt (t : Timeline) (c : Moment) (type : String) (plain cut : Solo σ) : Prop where
  course : ∃ count, plain.run.records = t.records count
  now : cut.now = c
  calls : cut.run.calls = plain.run.calls.filter fun call ↦ call.1 ≤ c
  report : ∀ id clock, cut.run.report? id clock =
    some ⟨id, some type, .failed .cancelled "run cancelled",
      (plain.run.records.zipIdx.filter fun entry ↦ t.callEnd entry.2 ≤ c).map Prod.fst,
      clock 0, clock c⟩

theorem Follows.same {type : String} {cut : Solo σ}
    (hplain : Follows terms link request s type plain)
    (hcut : Follows terms link request s type cut)
    (hended : (Timeline.alone terms link request s).Ended request plain.run)
    (hended' : (Timeline.alone terms link request s).Ended request cut.run) : Same plain cut := by
  obtain ⟨hphases, hcalls, hrecords⟩ := hended'.agree hended
  obtain ⟨ending, finishedAt, hphase⟩ := Run.isOver_eq_true_iff.mp hended.isOver_eq_true
  have hphase' : cut.run.phase = .over ending finishedAt := hphases.trans hphase
  have hnow : cut.now = plain.now :=
    (hcut.finished _ _ hphase').symm.trans (hplain.finished _ _ hphase)
  refine ⟨hnow, hcalls, fun id clock ↦ ?_⟩
  rw [hcut.report?_eq hphase', hplain.report?_eq hphase, hrecords, hnow]

theorem Follows.cutAt {type : String} {cut : Solo σ} {k : Nat} {stage : Stage} {before : Run}
    (hc : 0 < c) (hplain : Follows terms link request s type plain)
    (hcut : Follows terms link request s type cut)
    (hended : (Timeline.alone terms link request s).Ended request plain.run)
    (hhalts : (Timeline.alone terms link request s).Halts request c k stage before)
    (hnow : cut.now = c) (hrun : cut.run = before.finish c .cancelled) :
    c < plain.now ∧ CutAt (Timeline.alone terms link request s) c type plain cut := by
  obtain ⟨ending, finishedAt, hphase⟩ := Run.isOver_eq_true_iff.mp hended.isOver_eq_true
  obtain ⟨hlater, hcalls, hrecords⟩ := cut_of_halts hc rfl hhalts hended hphase
  rw [hplain.finished _ _ hphase] at hlater
  have hphase' : cut.run.phase = .over .cancelled c := by rw [hrun]; rfl
  refine ⟨hlater, hended.exists_records, hnow, ?_, fun id clock ↦ ?_⟩
  · rw [hrun]
    exact hcalls
  · have hkept : cut.run.records = before.records := by rw [hrun]; rfl
    rw [hcut.report?_eq hphase', hnow, hkept, hrecords]
    rfl

theorem cancel_of_event (hevent : Event.decode payload = .ok event) (hc : 0 < c)
    (hwhole : Span.IsWhole c) {fuel : Nat}
    (hplain : (start terms payload none s).finish? terms link fuel = some plain) :
    ∃ cut enough, (∀ more ≥ enough,
        (startWith terms payload ⟨some c, false⟩ s).finish? terms link more = some cut) ∧
      (plain.now ≤ c → Same plain cut) ∧
      (c < plain.now → CutAt (Timeline.alone terms link (Request.ofEvent terms.target event) s) c
        event.type plain cut) := by
  obtain ⟨hended, hfollows⟩ := ended_of_finish? hevent hplain
  obtain ⟨k, hstop⟩ := hended.exists_stop
  obtain ⟨cut, hcut⟩ := exists_finish?_of_stop hevent ⟨some c, false⟩ hstop
  refine ⟨cut, fuelFor (k + 1), hcut, ?_⟩
  obtain ⟨hafter, hover⟩ := finish?_eq_some_iff.mp (hcut _ le_rfl)
  have hfollows' := follows_after hevent terms link ⟨some c, false⟩ s (fuelFor (k + 1))
  have htimed : Timed c
      ((startWith terms payload ⟨some c, false⟩ s).after terms link (fuelFor (k + 1))) :=
    timed_after hwhole _
  rw [hafter] at hfollows' htimed
  cases hfollows'.course with
  | going _ hstands =>
    rw [hstands.isOver_eq_false] at hover
    contradiction
  | caught _ hhalts =>
    rw [hhalts.stands.isOver_eq_false] at hover
    contradiction
  | ended hended' =>
    have hsame := hfollows.same hfollows' hended hended'
    have hle : plain.now ≤ c := hsame.now ▸ htimed.now_le
    exact ⟨fun _ ↦ hsame, fun hlt ↦ absurd hlt (not_lt.mpr hle)⟩
  | cut hfired hhalts hrun =>
    have hnow := htimed.since hfired
    rw [hnow] at hhalts hrun
    obtain ⟨hlater, hcutAt⟩ := hfollows.cutAt hc hfollows' hended hhalts hnow hrun
    exact ⟨fun hle ↦ absurd hlater (not_lt.mpr hle), fun _ ↦ hcutAt⟩

theorem start_some (hc : 0 < c) (hshort : c ≤ Span.thirtyYears) (terms : Terms) (payload : Bytes)
    (s : σ) : start terms payload (some c) s = startWith terms payload ⟨some c, false⟩ s := by
  have hwait : Span.waitEnd 0 c = c := (Nat.zero_add _).trans (min_eq_left hshort)
  have hlater : ¬ c = 0 := hc.ne'
  simp only [start, Token.after, Option.map_some, hwait, Option.some.injEq, hlater, decide_false]

theorem start_of_error {defect : Event.Defect} (hdefect : Event.decode payload = .error defect)
    (terms : Terms) (now : Moment) : (Run.start terms payload now).isOver = true := by
  rw [start_eq_of_error hdefect]
  rfl

theorem step_of_fired (hevent : Event.decode payload = .ok event) {token : Token}
    (hfired : token.fired = true) : (startWith terms payload token s).step terms link =
      { startWith terms payload token s with
        run := (Run.start terms payload 0).finish 0 .cancelled } := by
  have hstep : (Run.start terms payload 0).step terms link 0 true s =
      some ((Run.start terms payload 0).finish 0 .cancelled, s) := by
    rw [start_eq hevent]
    rfl
  simp only [step, startWith, hfired, hstep]

/-- A cancellation at a whole millisecond after the start leaves a run alone that is over by then
without it, and otherwise ends it there with what it has done; a run that is cancelled beforehand
ends at its start. -/
theorem finish?_of_cancel (terms : Terms) (link : Link σ) (payload : Bytes) (s : σ) :
    (∀ c fuel plain, 0 < c → Span.IsWhole c →
      (start terms payload none s).finish? terms link fuel = some plain →
      ∃ cut enough, (∀ more ≥ enough,
          (startWith terms payload ⟨some c, false⟩ s).finish? terms link more = some cut) ∧
        (plain.now ≤ c → Same plain cut) ∧
        (c < plain.now → ∃ event, Event.decode payload = .ok event ∧
          CutAt (Timeline.alone terms link (Request.ofEvent terms.target event) s) c event.type
            plain cut)) ∧
    ∀ event token, Event.decode payload = .ok event → token.fired = true →
      ∃ last, (∀ fuel ≥ 1,
          (startWith terms payload token s).finish? terms link fuel = some last) ∧
        last.now = 0 ∧ last.run.calls = [] ∧
        ∀ id clock, last.run.report? id clock = some ⟨id, some event.type,
          .failed .cancelled "run cancelled", [], clock 0, clock 0⟩ := by
  refine ⟨fun c fuel plain hc hwhole hplain ↦ ?_, fun event token hevent hfired ↦ ?_⟩
  · cases hdecode : Event.decode payload with
    | ok event =>
      obtain ⟨cut, enough, hcut, hsame, hcutAt⟩ := cancel_of_event hdecode hc hwhole hplain
      exact ⟨cut, enough, hcut, hsame, fun hlt ↦ ⟨event, rfl, hcutAt hlt⟩⟩
    | error defect =>
      have hover := start_of_error hdecode terms 0
      obtain ⟨rfl, _⟩ := finish?_eq_some_iff.mp hplain
      have hafter : (start terms payload none s).after terms link fuel =
          start terms payload none s := after_of_isOver hover fuel
      rw [hafter]
      refine ⟨startWith terms payload ⟨some c, false⟩ s, 0, fun more _ ↦ ?_, fun _ ↦ ?_,
        fun hlt ↦ absurd hlt (Nat.not_lt_zero c)⟩
      · exact finish?_eq_some_iff.mpr ⟨after_of_isOver hover more, hover⟩
      · exact ⟨rfl, rfl, fun _ _ ↦ rfl⟩
  · have hlast : (startWith terms payload token s).after terms link 1 =
        { startWith terms payload token s with
          run := (Run.start terms payload 0).finish 0 .cancelled } :=
      (after_succ 0 _).trans (step_of_fired hevent hfired)
    have hover : ((startWith terms payload token s).after terms link 1).run.isOver = true := by
      rw [hlast]
      rfl
    refine ⟨_, fun fuel hfuel ↦ finish?_mono (finish?_eq_some_iff.mpr ⟨rfl, hover⟩) hfuel, ?_⟩
    rw [hlast, start_eq hevent]
    exact ⟨rfl, rfl, fun _ _ ↦ rfl⟩

/-- Cancelled in the wait between two calls, and cancelled beforehand without any time. -/
theorem finish?_of_cancel_quick : ∃ event plain cut enough last,
    Event.decode "{}".toUTF8.toList = .ok event ∧
      (start (insistent (Span.ofSeconds 30) 1500000) "{}".toUTF8.toList none false).finish?
        (insistent (Span.ofSeconds 30) 1500000) secondTime (fuelFor 2) = some plain ∧
      plain.now = Span.ofMillis 4 ∧ plain.run.calls.map Prod.fst = [0, Span.ofMillis 3] ∧
      (start (insistent (Span.ofSeconds 30) 1500000) "{}".toUTF8.toList (some (Span.ofMillis 2))
        false).finish? (insistent (Span.ofSeconds 30) 1500000) secondTime enough = some cut ∧
      cut.now = Span.ofMillis 2 ∧ cut.run.calls.map Prod.fst = [0] ∧
      (startWith (insistent 0 0) "{}".toUTF8.toList ⟨some 0, true⟩ false).finish?
        (insistent 0 0) secondTime 1 = some last ∧
      last.now = 0 ∧ ∀ id clock, last.run.report? id clock = some ⟨id, some event.type,
        .failed .cancelled "run cancelled", [], clock 0, clock 0⟩ := by
  obtain ⟨event, hevent⟩ := exists_decode_braces
  have hany : ((start (insistent (Span.ofSeconds 30) 1500000) "{}".toUTF8.toList none
      false).finish? (insistent (Span.ofSeconds 30) 1500000) secondTime (fuelFor 2)).any
        (fun plain ↦ decide (plain.now = Span.ofMillis 4 ∧
          plain.run.calls.map Prod.fst = [0, Span.ofMillis 3])) = true := by decide +kernel
  obtain ⟨plain, hplain, htimes⟩ := (Option.any_eq_true _ _).mp hany
  obtain ⟨hnow, hcalls⟩ := of_decide_eq_true htimes
  obtain ⟨cut, enough, hcut, _, hcutAt⟩ := (finish?_of_cancel (insistent (Span.ofSeconds 30)
    1500000) secondTime _ false).1 (Span.ofMillis 2) _ plain (by decide) rfl hplain
  rw [← start_some (by decide) (by decide)] at hcut
  obtain ⟨event', _, hcutAt⟩ := hcutAt (by rw [hnow]; decide)
  obtain ⟨last, hlast, hlastNow, _, hreport⟩ := (finish?_of_cancel (insistent 0 0) secondTime _
    false).2 event ⟨some 0, true⟩ hevent rfl
  refine ⟨event, plain, cut, enough, last, hevent, hplain, hnow, hcalls, hcut _ le_rfl, hcutAt.now,
    ?_, hlast 1 le_rfl, hlastNow, hreport⟩
  calc
    cut.run.calls.map Prod.fst =
        (plain.run.calls.map Prod.fst).filter (fun start ↦ start ≤ Span.ofMillis 2) := by
      rw [hcutAt.calls, List.filter_map]
      rfl
    _ = [0] := by
      rw [hcalls]
      decide

end Solo

end Courier
