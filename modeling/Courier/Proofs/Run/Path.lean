import Courier.Proofs.Clock
import Courier.Proofs.Run.Moves
import Courier.Run.Solo
import Mathlib.Logic.Function.Iterate

/-!
# Paths of a run by itself

`Turns` lists what a step of a run with its token and clock can be: the run moves while it can, then
the token fires if it is due, then the clock goes on to the next alarm.  What every turn keeps holds
all along the path, and a run is finished with some fuel exactly when the path has come to its end
by then.
-/

namespace Courier

theorem Token.lt_of_mem_alarms {token : Token} {now alarm : Moment}
    (hidle : token.isDue now = false) (halarm : alarm ∈ token.alarms) : now < alarm := by
  unfold Token.alarms at halarm
  split at halarm
  · contradiction
  · next hfired =>
    have hsome := Option.mem_toList.mp halarm
    simp only [Token.isDue, Option.mem_def.mp hsome] at hidle
    simpa [hfired] using hidle

/-- What all runs under some terms have at their start and keep with every move. -/
structure Run.Kept {σ : Type} (terms : Terms) (link : Link σ) (motive : Run → Prop) : Prop where
  start : ∀ payload now, motive (Run.start terms payload now)
  move : ∀ {now : Moment} {cancelled : Bool} {run next : Run} {s after : σ},
    run.Moves terms link now cancelled s next after → motive run → motive next

namespace Solo

variable {σ : Type} {terms : Terms} {link : Link σ} {solo next last : Solo σ}

inductive Turns (terms : Terms) (link : Link σ) (solo : Solo σ) : Solo σ → Prop
  | move {run : Run} {s : σ}
      (hmove : solo.run.Moves terms link solo.now solo.token.fired solo.link run s) :
      Turns terms link solo { solo with run := run, link := s }
  | still (hover : solo.run.isOver = true) : Turns terms link solo solo
  | fire (hawaits : solo.run.Awaits solo.now) (hearly : solo.now < solo.run.watch.deadline)
      (hdue : solo.token.isDue solo.now = true) :
      Turns terms link solo { solo with token := solo.token.fire }
  | tick {moment : Moment} (hawaits : solo.run.Awaits solo.now)
      (hearly : solo.now < solo.run.watch.deadline) (hfired : solo.token.fired = false)
      (hidle : solo.token.isDue solo.now = false)
      (hnext : nextMoment (solo.run.alarms ++ solo.token.alarms) = some moment)
      (hlater : solo.now < moment) :
      Turns terms link solo { solo with now := moment }

theorem step_turns (terms : Terms) (link : Link σ) (solo : Solo σ) :
    Turns terms link solo (solo.step terms link) := by
  unfold step
  split
  · next run s hstep => exact .move (Run.step_moves hstep)
  · next hstep =>
    rcases Run.step_eq_none_iff.mp hstep with hover | ⟨hfired, hearly, hawaits⟩
    · rw [if_pos hover]
      exact .still hover
    · split
      · next hover => exact .still hover
      · split
        · next hdue => exact .fire hawaits hearly hdue
        · next hidle =>
          have hidle : solo.token.isDue solo.now = false := by simpa using hidle
          split
          · next moment hnext =>
            have hlater : solo.now < moment := by
              obtain ⟨⟨alarm, halarm, rfl⟩, _⟩ := nextMoment_spec hnext
              refine lt_of_lt_of_le ?_ (Span.le_ceilMillis alarm)
              rcases List.mem_append.mp halarm with halarm | halarm
              · exact hawaits.lt_of_mem_alarms hearly halarm
              · exact Token.lt_of_mem_alarms hidle halarm
            rw [max_eq_right (le_of_lt hlater)]
            exact .tick hawaits hearly hfired hidle hnext hlater
          · next hnext =>
            have hnil := nextMoment_eq_none_iff.mp hnext
            exact absurd (List.append_eq_nil_iff.mp hnil).1
              (List.ne_nil_of_mem hawaits.deadline_mem_alarms)

/-- The state after a number of steps. -/
def after (terms : Terms) (link : Link σ) (count : Nat) (solo : Solo σ) : Solo σ :=
  (step terms link)^[count] solo

theorem after_succ (count : Nat) (solo : Solo σ) :
    solo.after terms link (count + 1) = (solo.after terms link count).step terms link :=
  Function.iterate_succ_apply' _ _ _

theorem after_induction {motive : Solo σ → Prop}
    (hturn : ∀ solo next, Turns terms link solo next → motive solo → motive next)
    (hsolo : motive solo) (count : Nat) : motive (solo.after terms link count) := by
  induction count with
  | zero => exact hsolo
  | succ count ih =>
    rw [after_succ]
    exact hturn _ _ (step_turns terms link _) ih

theorem kept_after {motive : Run → Prop} (hkept : Run.Kept terms link motive)
    (payload : Bytes) (origin now : Moment) (token : Token) (s : σ) (count : Nat) :
    motive (after terms link count ⟨now, token, Run.start terms payload origin, s⟩).run := by
  refine after_induction (motive := fun solo ↦ motive solo.run) ?_ (hkept.start payload origin)
    count
  intro solo next hturn hsolo
  cases hturn with
  | move hmove => exact hkept.move hmove hsolo
  | _ => exact hsolo

theorem step_of_isOver (hover : solo.run.isOver = true) : solo.step terms link = solo := by
  have hnone : solo.run.step terms link solo.now solo.token.fired solo.link = none :=
    Run.step_eq_none_iff.mpr (.inl hover)
  unfold step
  rw [hnone]
  exact if_pos hover

theorem after_of_isOver (hover : solo.run.isOver = true) (count : Nat) :
    solo.after terms link count = solo :=
  Function.iterate_fixed (step_of_isOver hover) count

theorem finish?_eq_some_iff {fuel : Nat} : solo.finish? terms link fuel = some last ↔
    solo.after terms link fuel = last ∧ last.run.isOver = true := by
  induction fuel generalizing solo with
  | zero =>
    unfold finish?
    split
    · next hover =>
      constructor
      · intro h; cases h; exact ⟨rfl, hover⟩
      · rintro ⟨rfl, _⟩; rfl
    · next hover =>
      constructor
      · intro h; contradiction
      · rintro ⟨rfl, hlast⟩; exact absurd hlast hover
  | succ fuel ih =>
    unfold finish?
    split
    · next hover =>
      rw [after_of_isOver hover]
      constructor
      · intro h; cases h; exact ⟨rfl, hover⟩
      · rintro ⟨rfl, _⟩; rfl
    · exact ih

/-- More fuel does not change how a run ends. -/
theorem finish?_mono {fuel more : Nat} (h : solo.finish? terms link fuel = some last)
    (hmore : fuel ≤ more) : solo.finish? terms link more = some last := by
  obtain ⟨rfl, hover⟩ := finish?_eq_some_iff.mp h
  obtain ⟨extra, rfl⟩ := Nat.exists_eq_add_of_le hmore
  refine finish?_eq_some_iff.mpr ⟨?_, hover⟩
  rw [after, Nat.add_comm, Function.iterate_add_apply]
  exact after_of_isOver hover extra

end Solo

end Courier
