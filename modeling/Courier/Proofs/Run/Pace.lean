import Courier.Proofs.Run.Rank
import Courier.Proofs.Run.Shift

/-!
# The pace of a run

A link whose answers are settled by the bodies of the requests answers a run as if it had no one
else to answer.  So a run that shares its link with others takes the very steps that it takes alone;
only the clock may be ahead of its own, having stopped for the others while this one rests.
-/

namespace Courier

variable {σ : Type} {terms : Terms} {link : Link σ} {s t : σ} {now : Moment}

/-- The clock holds the deadline of a run from the moment on just as it holds it from its zero. -/
def Terms.HeldAt (terms : Terms) (origin : Moment) : Prop :=
  origin + terms.timeout < terms.clockRange.bound ∨ terms.clockRange.bound ≤ terms.timeout

/-! ## What a link has been told -/

/-- The state of a link after some calls. -/
def Link.told (link : Link σ) (s : σ) (asked : List Request) : σ :=
  asked.foldl (fun s request ↦ (link request s).2) s

theorem Link.told_append (asked more : List Request) :
    link.told s (asked ++ more) = link.told (link.told s asked) more :=
  List.foldl_append

/-- The answer to a call depends on nothing but its body, whatever the link was asked before. -/
def Link.AnswersByBody (link : Link σ) (s : σ) (answer : Bytes → Step) : Prop :=
  ∀ asked request, (link request (link.told s asked)).1 = answer request.body

namespace Run

variable {run next : Run} {cancelled : Bool} {after : σ}

def requests (run : Run) : List Request := run.calls.map Prod.snd

@[simp]
theorem requests_start (terms : Terms) (payload : Bytes) (now : Moment) :
    (start terms payload now).requests = [] := by
  unfold requests start
  cases Event.decode payload <;> rfl

theorem Moves.told_eq (h : Moves terms link now cancelled run s next after) :
    ∃ asked, next.requests = run.requests ++ asked ∧ after = link.told s asked := by
  rcases h.calls_cases with ⟨hcalls, rfl⟩ | ⟨request, _, _, hcalls, rfl⟩
  · exact ⟨[], by simp [requests, hcalls], rfl⟩
  · exact ⟨[request], by simp [requests, hcalls], rfl⟩

/-- A run moves alike on two states of a link that answer alike. -/
theorem step_fst_eq (terms : Terms) (run : Run) (now : Moment) (cancelled : Bool)
    (hanswers : ∀ request, (link request s).1 = (link request t).1) :
    (run.step terms link now cancelled s).map Prod.fst =
      (run.step terms link now cancelled t).map Prod.fst := by
  rcases hphase : run.phase with ⟨request, stage⟩ | ⟨ending, finishedAt⟩
  · cases stage with
    | ready =>
      simp only [step, hphase]
      split
      · rfl
      · split
        · rfl
        · simp [call, hanswers request]
    | calling since due answer =>
      simp only [step, hphase]
      split
      · rfl
      · rfl
      · rfl
      · cases answer <;> rfl
    | resting wake =>
      simp only [step, hphase]
      split <;> rfl
  · simp only [step, hphase, Option.map_none]

end Run

namespace Solo

variable {first solo last : Solo σ} {run next : Run} {token : Token} {moment : Moment}
  {count : Nat}

theorem exists_told_after (htold : ∃ asked, first.link = link.told s asked) (count : Nat) :
    ∃ asked, (first.after terms link count).link = link.told s asked := by
  refine after_induction (motive := fun solo ↦ ∃ asked, solo.link = link.told s asked) ?_ htold count
  rintro solo next hturn ⟨asked, hlink⟩
  cases hturn with
  | move hmove =>
    obtain ⟨more, _, hafter⟩ := hmove.told_eq
    exact ⟨asked ++ more, by rw [Link.told_append, ← hlink, ← hafter]⟩
  | _ => exact ⟨asked, hlink⟩

/-! ## Ends -/

/-- The run comes to its end with enough fuel. -/
def Ends (terms : Terms) (link : Link σ) (solo last : Solo σ) : Prop :=
  ∃ enough, ∀ fuel ≥ enough, solo.finish? terms link fuel = some last

theorem ends_of_finish? {fuel : Nat} (h : solo.finish? terms link fuel = some last) :
    solo.Ends terms link last :=
  ⟨fuel, fun _ hmore ↦ finish?_mono h hmore⟩

theorem Ends.unique {other : Solo σ} (hlast : solo.Ends terms link last)
    (hother : solo.Ends terms link other) : last = other := by
  obtain ⟨enough, hlast⟩ := hlast
  obtain ⟨fuel, hother⟩ := hother
  have heq := (hlast _ (le_max_left enough fuel)).symm.trans (hother _ (le_max_right enough fuel))
  exact Option.some.inj heq

theorem Turns.now_le (hturn : Turns terms link first last) : first.now ≤ last.now := by
  cases hturn with
  | tick _ _ _ _ _ hlater => exact hlater.le
  | _ => exact le_rfl

theorem now_le_after (first : Solo σ) (count : Nat) :
    first.now ≤ (first.after terms link count).now :=
  after_induction (motive := fun solo ↦ first.now ≤ solo.now)
    (fun _ _ hturn hle ↦ hle.trans hturn.now_le) le_rfl count

/-! ## Runs from a moment on -/

/-- A run of a payload from a moment on, which is cancelled after a wait, if at all. -/
def startAt (terms : Terms) (payload : Bytes) (cancelAfter : Option Span) (origin : Moment)
    (s : σ) : Solo σ :=
  ⟨origin, Token.after origin cancelAfter, Run.start terms payload origin, s⟩

theorem startAt_eq_shift (payload : Bytes) (cancelAfter : Option Span) {origin : Moment}
    (hheld : terms.HeldAt origin) : startAt terms payload cancelAfter origin s =
      (start terms payload cancelAfter s).shift origin := by
  unfold startAt start startWith shift
  rw [Run.start_shift terms origin payload hheld, ← Token.after_eq_shift, Nat.add_zero]

/-- A run that comes to an end from a moment on does so from the start of the clock, so much
earlier. -/
theorem exists_ends_start {payload : Bytes} {cancelAfter : Option Span} {origin : Moment}
    (hwhole : Span.IsWhole origin) (hheld : terms.HeldAt origin)
    (hends : (startAt terms payload cancelAfter origin s).Ends terms link last) :
    ∃ zero, (start terms payload cancelAfter s).Ends terms link zero ∧
      last.run = zero.run.shift origin := by
  obtain ⟨enough, hends⟩ := hends
  have hlast := hends enough le_rfl
  rw [startAt_eq_shift payload cancelAfter hheld, finish?_shift hwhole] at hlast
  obtain ⟨zero, hzero, rfl⟩ := Option.map_eq_some_iff.mp hlast
  exact ⟨zero, ends_of_finish? hzero, rfl⟩

/-! ## Paces -/

/-- Nothing is left to do at the moment. -/
inductive Rests (now : Moment) (run : Run) (token : Token) : Prop
  | ended (hover : run.isOver = true)
  | idle (hawaits : run.Awaits now) (hearly : now < run.watch.deadline)
      (hfired : token.fired = false) (hidle : token.isDue now = false)

theorem Rests.step_eq_none (hrests : Rests now run token) :
    run.step terms link now token.fired t = none := by
  apply Run.step_eq_none_iff.mpr
  cases hrests with
  | ended hover => exact .inl hover
  | idle hawaits hearly hfired _ => exact .inr ⟨hfired, hearly, hawaits⟩

/-- The moments for which a run with its token makes the clock stop. -/
def alarms (run : Run) (token : Token) : List Moment :=
  if run.isOver then [] else run.alarms ++ token.alarms

/-- A run that shares its link and its clock has come as far as the run alone does from `first` in a
number of steps.  The clock is ahead of the clock of the run alone only while the run rests. -/
inductive Paced (terms : Terms) (link : Link σ) (first : Solo σ) (now : Moment) (count : Nat) :
    Run → Token → Prop
  | reached {solo : Solo σ} (hsolo : first.after terms link count = solo)
      (hgoing : ∀ earlier < count, (first.after terms link earlier).run.isOver = false)
      (hbehind : solo.now ≤ now) (hclock : solo.now = now ∨ Rests now solo.run solo.token) :
      Paced terms link first now count solo.run solo.token

theorem paced_self (terms : Terms) (link : Link σ) (first : Solo σ) :
    Paced terms link first first.now 0 first.run first.token :=
  .reached rfl (fun _ hearlier ↦ absurd hearlier (Nat.not_lt_zero _)) le_rfl (.inl rfl)

theorem Paced.extend (later : Solo σ) (hsolo : first.after terms link count = solo)
    (hgoing : ∀ earlier < count, (first.after terms link earlier).run.isOver = false)
    (hworking : solo.run.isOver = false) (hstep : solo.step terms link = later)
    (hnow : later.now = now) : Paced terms link first now (count + 1) later.run later.token := by
  refine .reached (by rw [after_succ, hsolo, hstep]) ?_ hnow.le (.inl hnow)
  intro earlier hearlier
  rcases Nat.lt_succ_iff_lt_or_eq.mp hearlier with hearlier | rfl
  · exact hgoing earlier hearlier
  · rw [hsolo]
    exact hworking

/-- A run that moves makes the next step of the run alone. -/
theorem Paced.move {answer : Bytes → Step} (hanswers : link.AnswersByBody s answer)
    (htold : ∃ asked, first.link = link.told s asked)
    (hpaced : Paced terms link first now count run token) {asked : List Request} {after : σ}
    (hstep : run.step terms link now token.fired (link.told s asked) = some (next, after)) :
    Paced terms link first now (count + 1) next token := by
  cases hpaced with
  | @reached solo hsolo hgoing hbehind hclock =>
    have hnow : solo.now = now := by
      rcases hclock with hnow | hrests
      · exact hnow
      · rw [hrests.step_eq_none] at hstep
        contradiction
    obtain ⟨own, hlink⟩ : ∃ own, (first.after terms link count).link = link.told s own :=
      exists_told_after htold count
    rw [hsolo] at hlink
    have halike : ∀ request, (link request (link.told s asked)).1 = (link request solo.link).1 := by
      intro request
      rw [hlink, hanswers, hanswers]
    have hfst := Run.step_fst_eq terms solo.run now solo.token.fired halike
    rw [hstep] at hfst
    obtain ⟨⟨alone, left⟩, halone, rfl⟩ := Option.map_eq_some_iff.mp hfst.symm
    refine Paced.extend { solo with run := alone, link := left } hsolo hgoing
      (Run.step_moves hstep).isOver_eq_false ?_ hnow
    simp only [step, hnow, halone]

theorem Paced.fire (hawaits : run.Awaits now) (hearly : now < run.watch.deadline)
    (hdue : token.isDue now = true) (hpaced : Paced terms link first now count run token) :
    Paced terms link first now (count + 1) run token.fire := by
  cases hpaced with
  | @reached solo hsolo hgoing hbehind hclock =>
    have hnow : solo.now = now := by
      rcases hclock with hnow | hrests
      · exact hnow
      · cases hrests with
        | ended hover =>
          rw [hawaits.isOver_eq_false] at hover
          contradiction
        | idle _ _ _ hidle =>
          rw [hdue] at hidle
          contradiction
    have hfired : solo.token.fired = false := by
      unfold Token.isDue at hdue
      grind
    have hnone : solo.run.step terms link now solo.token.fired solo.link = none :=
      Run.step_eq_none_iff.mpr (.inr ⟨hfired, hearly, hawaits⟩)
    refine Paced.extend { solo with token := solo.token.fire } hsolo hgoing
      hawaits.isOver_eq_false ?_ hnow
    simp only [step, hnow, hnone, hawaits.isOver_eq_false, hdue, Bool.false_eq_true, if_false,
      if_true]

/-! ### The clock -/

theorem lt_of_lt_ceilMillis {alarm : Moment} (hwhole : Span.IsWhole now)
    (hlt : now < Span.ceilMillis alarm) : now < alarm :=
  not_le.mp fun hle ↦ not_le.mpr hlt ((Span.ceilMillis_le_iff hwhole).mpr hle)

/-- A run still rests at a moment that comes before all its alarms. -/
theorem Rests.later (hawaits : run.Awaits now) (hfired : token.fired = false)
    (hbefore : ∀ alarm ∈ run.alarms ++ token.alarms, moment < alarm) : Rests moment run token := by
  refine .idle ?_ ?_ hfired ?_
  · cases hawaits with
    | call hphase _ => exact .call hphase (hbefore _ (by simp [Run.alarms, hphase]))
    | rest hphase _ => exact .rest hphase (hbefore _ (by simp [Run.alarms, hphase]))
  · exact hbefore _ (List.mem_append_left _ hawaits.deadline_mem_alarms)
  · cases hfires : token.firesAt with
    | none => simp [Token.isDue, hfires]
    | some firesAt =>
      have hearly := hbefore firesAt (by simp [Token.alarms, hfired, hfires])
      simp [Token.isDue, hfires, hearly]

/-- What a run alone does next when the shared clock, at which it rests, may be ahead of its own. -/
theorem step_eq_tick (hawaits : solo.run.Awaits now) (hearly : now < solo.run.watch.deadline)
    (hfired : solo.token.fired = false) (hidle : solo.token.isDue now = false)
    (hbehind : solo.now ≤ now) (hlater : now < moment)
    (hnext : nextMoment (solo.run.alarms ++ solo.token.alarms) = some moment) :
    solo.step terms link = { solo with now := moment } := by
  have hbefore : solo.run.Awaits solo.now := by
    cases hawaits with
    | call hphase hdue => exact .call hphase (hbehind.trans_lt hdue)
    | rest hphase hwake => exact .rest hphase (hbehind.trans_lt hwake)
  have hnone : solo.run.step terms link solo.now solo.token.fired solo.link = none :=
    Run.step_eq_none_iff.mpr (.inr ⟨hfired, hbehind.trans_lt hearly, hbefore⟩)
  have hquiet : solo.token.isDue solo.now = false := by
    cases hdue : solo.token.isDue solo.now with
    | false => rfl
    | true => exact absurd (Token.isDue_mono hdue hbehind) (by simp [hidle])
  simp only [step, hnone, hawaits.isOver_eq_false, hquiet, hnext, Bool.false_eq_true,
    if_false, max_eq_right (hbehind.trans hlater.le)]

/-- A run that waits has a next stop of the clock, and it comes after the present moment. -/
theorem exists_nextMoment (hawaits : run.Awaits now) (hearly : now < run.watch.deadline)
    (hidle : token.isDue now = false) :
    ∃ moment, nextMoment (run.alarms ++ token.alarms) = some moment ∧ now < moment := by
  cases hnext : nextMoment (run.alarms ++ token.alarms) with
  | none =>
    have hnil := nextMoment_eq_none_iff.mp hnext
    exact absurd (List.append_eq_nil_iff.mp hnil).1
      (List.ne_nil_of_mem hawaits.deadline_mem_alarms)
  | some moment =>
    obtain ⟨⟨alarm, halarm, rfl⟩, _⟩ := nextMoment_spec hnext
    refine ⟨_, rfl, lt_of_lt_of_le ?_ (Span.le_ceilMillis alarm)⟩
    rcases List.mem_append.mp halarm with halarm | halarm
    · exact hawaits.lt_of_mem_alarms hearly halarm
    · exact Token.lt_of_mem_alarms hidle halarm

/-- When the clock goes on, a run whose alarm it is comes a step further, and no other does. -/
theorem Paced.tick (hpaced : Paced terms link first now count run token)
    (hrests : Rests now run token) (hwhole : Span.IsWhole moment) (hlater : now < moment)
    (hleast : ∀ alarm ∈ alarms run token, moment ≤ Span.ceilMillis alarm) :
    ∃ more, Paced terms link first moment (count + more) run token ∧
      ∀ alarm ∈ alarms run token, moment = Span.ceilMillis alarm → 0 < more := by
  cases hpaced with
  | @reached solo hsolo hgoing hbehind hclock =>
    cases hrests with
    | ended hover =>
      refine ⟨0, .reached hsolo hgoing (hbehind.trans hlater.le) (.inr (.ended hover)), ?_⟩
      intro alarm halarm
      simp [alarms, hover] at halarm
    | idle hawaits hearly hfired hidle =>
      have halarms : alarms solo.run solo.token = solo.run.alarms ++ solo.token.alarms := by
        simp only [alarms, hawaits.isOver_eq_false, Bool.false_eq_true, if_false]
      rw [halarms] at hleast ⊢
      obtain ⟨own, hnext, _⟩ := exists_nextMoment hawaits hearly hidle
      obtain ⟨⟨found, hfound, hown⟩, hfirst⟩ := nextMoment_spec hnext
      have hmoment : moment ≤ own := by
        rw [hown]
        exact hleast found hfound
      rcases hmoment.lt_or_eq with hmoment | rfl
      · have hbefore : ∀ alarm ∈ solo.run.alarms ++ solo.token.alarms, moment < alarm :=
          fun alarm halarm ↦
            lt_of_lt_ceilMillis hwhole (hmoment.trans_le (hfirst alarm halarm))
        refine ⟨0, .reached hsolo hgoing (hbehind.trans hlater.le)
          (.inr (Rests.later hawaits hfired hbefore)), ?_⟩
        intro alarm halarm heq
        exact absurd heq (hmoment.trans_le (hfirst alarm halarm)).ne
      · refine ⟨1, ?_, fun _ _ _ ↦ Nat.one_pos⟩
        have hstep : solo.step terms link = { solo with now := moment } :=
          step_eq_tick hawaits hearly hfired hidle hbehind hlater hnext
        exact Paced.extend { solo with now := moment } hsolo hgoing
          hawaits.isOver_eq_false hstep rfl

/-! ### Ends -/

theorem Paced.le {fuel : Nat} (hpaced : Paced terms link first now count run token)
    (hover : (first.after terms link fuel).run.isOver = true) : count ≤ fuel := by
  cases hpaced with
  | reached hsolo hgoing =>
    refine not_lt.mp fun hlt ↦ ?_
    rw [hgoing fuel hlt] at hover
    contradiction

/-- A run that is over has ended as it does alone. -/
theorem Paced.ends (hover : run.isOver = true)
    (hpaced : Paced terms link first now count run token) :
    ∃ last, first.Ends terms link last ∧ last.run = run ∧ last.now ≤ now := by
  cases hpaced with
  | @reached solo hsolo _ hbehind =>
    exact ⟨solo, ends_of_finish? (finish?_eq_some_iff.mpr ⟨hsolo, hover⟩), rfl, hbehind⟩

/-- While a run waits its end is still to come. -/
theorem Paced.lt_of_ends (hpaced : Paced terms link first now count run token)
    (hawaits : run.Awaits now) (hearly : now < run.watch.deadline) (hfired : token.fired = false)
    (hidle : token.isDue now = false) (hends : first.Ends terms link last) : now < last.now := by
  cases hpaced with
  | @reached solo hsolo hgoing hbehind hclock =>
    obtain ⟨own, hnext, hlater⟩ := exists_nextMoment hawaits hearly hidle
    have hstep : (first.after terms link (count + 1)).now = own := by
      rw [after_succ, hsolo, step_eq_tick hawaits hearly hfired hidle hbehind hlater hnext]
    obtain ⟨enough, hlast⟩ := hends
    obtain ⟨hafter, _⟩ := finish?_eq_some_iff.mp (hlast (enough + (count + 1)) (Nat.le_add_right _ _))
    rw [after, Function.iterate_add_apply] at hafter
    have hle : (first.after terms link (count + 1)).now ≤
        ((first.after terms link (count + 1)).after terms link enough).now :=
      now_le_after _ enough
    calc now
      _ < (first.after terms link (count + 1)).now := by rwa [hstep]
      _ ≤ last.now := by rw [← hafter]; exact hle

end Solo

end Courier
