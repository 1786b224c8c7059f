import Courier.Proofs.Fleet.Moves
import Courier.Proofs.Run.Pace

/-!
# The pace of a seat

A link whose answers are settled by the bodies of the requests answers a run as if it had no one
else to answer.  So a run of a fleet takes the very steps that it takes alone; only the clock of the
fleet may be ahead of its own, having stopped for the other runs while this one rests.
-/

namespace Courier

variable {σ : Type} {terms : Terms} {link : Link σ} {s : σ} {now : Moment}

/-! ## Runs alone -/

namespace Errand

variable (errand : Errand)

/-- The moment at which the clock reaches the start. -/
def origin : Moment := Span.ceilMillis errand.startAt

/-- The run with the link to itself, from the same moment on. -/
def alone (terms : Terms) (errand : Errand) (s : σ) : Solo σ :=
  ⟨errand.origin, Token.after errand.origin errand.cancelAfter,
    Run.start terms errand.payload errand.origin, s⟩

theorem link_alone_after (count : Nat) :
    ((errand.alone terms s).after terms link count).link =
      link.told s ((errand.alone terms s).after terms link count).run.requests := by
  refine Solo.after_induction (motive := fun solo ↦ solo.link = link.told s solo.run.requests)
    ?_ ?_ count
  · intro solo next hturn hlink
    cases hturn with
    | move hmove =>
      obtain ⟨asked, hrequests, rfl⟩ := hmove.told_eq
      rw [hrequests, Link.told_append, ← hlink]
    | _ => exact hlink
  · simp only [alone, Run.requests_start]
    rfl

end Errand

/-! ## Paces -/

namespace Seat

variable {errand : Errand} {seat next : Seat} {count : Nat}

/-- A seat has come as far as its run alone in a number of steps, where two are counted for the
start.  The clock is ahead of the clock of the run alone only while the seat rests. -/
inductive Paced (terms : Terms) (link : Link σ) (s : σ) (now : Moment) (errand : Errand) :
    Nat → Seat → Prop
  | waiting (hearly : now < errand.startAt) : Paced terms link s now errand 0 .waiting
  | summoned (hnow : now = errand.origin) : Paced terms link s now errand 1 .waiting
  | taken {count : Nat} {solo : Solo σ}
      (hsolo : (errand.alone terms s).after terms link count = solo)
      (hgoing : ∀ earlier < count,
        ((errand.alone terms s).after terms link earlier).run.isOver = false)
      (hbehind : solo.now ≤ now)
      (hclock : solo.now = now ∨ (Seat.taken solo.run solo.token).Rests now errand) :
      Paced terms link s now errand (count + 2) (.taken solo.run solo.token)

theorem rests_taken_iff {run : Run} {token : Token} :
    (Seat.taken run token).Rests now errand ↔ Solo.Rests now run token := by
  constructor
  · rintro (_ | hover | ⟨hawaits, hearly, hfired, hidle⟩)
    · exact .ended hover
    · exact .idle hawaits hearly hfired hidle
  · rintro (hover | ⟨hawaits, hearly, hfired, hidle⟩)
    · exact .ended hover
    · exact .idle hawaits hearly hfired hidle

theorem paced_taken_iff {run : Run} {token : Token} :
    Paced terms link s now errand (count + 2) (.taken run token) ↔
      (errand.alone terms s).Paced terms link now count run token := by
  constructor
  · rintro (_ | _ | ⟨hsolo, hgoing, hbehind, hclock⟩)
    exact .reached hsolo hgoing hbehind (hclock.imp_right rests_taken_iff.mp)
  · rintro ⟨hsolo, hgoing, hbehind, hclock⟩
    exact .taken hsolo hgoing hbehind (hclock.imp_right rests_taken_iff.mpr)

/-- A seat that moves makes the next step of its run alone. -/
theorem Paced.move {answer : Bytes → Step} (hanswers : link.AnswersByBody s answer)
    (hpaced : Paced terms link s now errand count seat) (hwhole : Span.IsWhole now)
    {asked : List Request} {after : σ}
    (hmoves : seat.Moves terms link now errand (link.told s asked) next after) :
    Paced terms link s now errand (count + 1) next := by
  cases hmoves with
  | start hdue =>
    cases hpaced with
    | waiting hearly => exact absurd hdue (not_le.mpr hearly)
    | summoned hnow =>
      subst hnow
      have hstart : (errand.alone terms s).after terms link 0 = errand.alone terms s := rfl
      apply Paced.taken hstart
      · intro earlier hearlier
        exact absurd hearlier (Nat.not_lt_zero earlier)
      · exact le_rfl
      · exact .inl rfl
  | @step run moved token after hstep =>
    cases hpaced with
    | taken hsolo hgoing hbehind hclock =>
      have hrun := paced_taken_iff.mp (.taken hsolo hgoing hbehind hclock)
      exact paced_taken_iff.mpr (hrun.move hanswers ⟨[], rfl⟩ hstep)

theorem Paced.fire {run : Run} {token : Token} (hawaits : run.Awaits now)
    (hearly : now < run.watch.deadline) (hdue : token.isDue now = true)
    (hpaced : Paced terms link s now errand count (.taken run token)) :
    Paced terms link s now errand (count + 1) (.taken run token.fire) := by
  cases hpaced with
  | taken hsolo hgoing hbehind hclock =>
    have hrun := paced_taken_iff.mp (.taken hsolo hgoing hbehind hclock)
    exact paced_taken_iff.mpr (hrun.fire hawaits hearly hdue)

/-! ### The clock -/

/-- When the clock goes on, a seat whose alarm it is comes a step further, and no other does. -/
theorem Paced.tick {moment : Moment} (hpaced : Paced terms link s now errand count seat)
    (hrests : seat.Rests now errand) (hwhole : Span.IsWhole moment) (hlater : now < moment)
    (hleast : ∀ alarm ∈ seat.alarms errand, moment ≤ Span.ceilMillis alarm) :
    ∃ more, Paced terms link s moment errand (count + more) seat ∧
      ∀ alarm ∈ seat.alarms errand, moment = Span.ceilMillis alarm → 0 < more := by
  cases hpaced with
  | waiting hearly =>
    have hmoment : moment ≤ errand.origin := hleast _ (List.mem_singleton_self _)
    rcases hmoment.lt_or_eq with hmoment | hmoment
    · refine ⟨0, .waiting (Solo.lt_of_lt_ceilMillis hwhole hmoment), ?_⟩
      intro alarm halarm heq
      cases List.mem_singleton.mp halarm
      exact absurd heq hmoment.ne
    · exact ⟨1, .summoned hmoment, fun _ _ _ ↦ Nat.one_pos⟩
  | summoned hnow =>
    cases hrests with
    | waiting hearly =>
      rw [hnow] at hearly
      exact absurd (Span.le_ceilMillis errand.startAt) (not_le.mpr hearly)
  | @taken count solo hsolo hgoing hbehind hclock =>
    have hrun := paced_taken_iff.mp (.taken hsolo hgoing hbehind hclock)
    obtain ⟨more, hmore, hpositive⟩ :=
      hrun.tick (rests_taken_iff.mp hrests) hwhole hlater hleast
    refine ⟨more, ?_, hpositive⟩
    rw [Nat.add_right_comm]
    exact paced_taken_iff.mpr hmore

/-! ### Ends -/

theorem Paced.le {fuel : Nat} (hpaced : Paced terms link s now errand count seat)
    (hover : ((errand.alone terms s).after terms link fuel).run.isOver = true) :
    count ≤ fuel + 2 := by
  cases hpaced with
  | waiting => exact Nat.zero_le _
  | summoned => exact Nat.le_add_left 1 (fuel + 1)
  | taken hsolo hgoing hbehind hclock =>
    exact Nat.add_le_add_right ((paced_taken_iff.mp (.taken hsolo hgoing hbehind hclock)).le hover) 2

/-- A run that is over has ended as it does alone. -/
theorem Paced.ends {run : Run} {token : Token} (hover : run.isOver = true)
    (hpaced : Paced terms link s now errand count (.taken run token)) :
    ∃ last, (errand.alone terms s).Ends terms link last ∧ last.run = run := by
  cases hpaced with
  | taken hsolo hgoing hbehind hclock =>
    obtain ⟨last, hends, hrun, _⟩ :=
      (paced_taken_iff.mp (.taken hsolo hgoing hbehind hclock)).ends hover
    exact ⟨last, hends, hrun⟩

end Seat

end Courier
