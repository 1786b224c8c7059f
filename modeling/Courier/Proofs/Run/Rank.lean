import Courier.Proofs.Run.Path

/-!
# Ranks

A number that grows with every step of a run that is under way, made of the number of the attempt,
of how far the run has come in it and of how far its token has.  A run whose attempts are bounded
therefore comes to an end, and the bound says after how many steps at the latest.
-/

namespace Courier.Run

/-- How far the run has come within an attempt. -/
def height (run : Run) (now : Moment) : Nat :=
  match run.phase with
  | .working _ .ready => 0
  | .working _ (.calling _ due _) => if now < due ∧ now < run.watch.deadline then 1 else 2
  | .working _ (.resting wake) => if now < wake ∧ now < run.watch.deadline then 3 else 4
  | .over _ _ => 0

theorem height_le (run : Run) (now : Moment) : run.height now ≤ 4 := by
  unfold height
  split
  · decide
  · split <;> decide
  · split <;> decide
  · decide

theorem height_ready {run : Run} {request : Request} (hphase : run.phase = .working request .ready)
    (now : Moment) : run.height now = 0 := by
  simp only [height, hphase]

theorem height_calling {run : Run} {request : Request} {since due : Moment} {answer : Answer}
    (hphase : run.phase = .working request (.calling since due answer)) (now : Moment) :
    0 < run.height now ∧ run.height now < 3 := by
  simp only [height, hphase]
  split <;> decide

theorem height_resting {run : Run} {request : Request} {wake : Moment}
    (hphase : run.phase = .working request (.resting wake)) (now : Moment) :
    3 ≤ run.height now := by
  simp only [height, hphase]
  split <;> decide

theorem height_mono (run : Run) : Monotone run.height := by
  intro now later hlater
  unfold height
  split
  · exact le_rfl
  · grind
  · grind
  · exact le_rfl

theorem height_lt {run : Run} {now later alarm : Moment} (hawaits : run.Awaits now)
    (hearly : now < run.watch.deadline) (halarm : alarm ∈ run.alarms) (hlater : alarm ≤ later) :
    run.height now < run.height later := by
  unfold height
  cases hawaits with
  | call hphase hdue =>
    simp only [Run.alarms, hphase, List.mem_cons, List.not_mem_nil, or_false] at halarm
    simp only [hphase]
    grind
  | rest hphase hwake =>
    simp only [Run.alarms, hphase, List.mem_cons, List.not_mem_nil, or_false] at halarm
    simp only [hphase]
    grind

/-- A number that grows with every step of a run that is under way. -/
def rank (run : Run) (now : Moment) : Nat := 5 * run.state.number + run.height now

theorem Moves.rank_lt {σ : Type} {terms : Terms} {link : Link σ} {now : Moment} {cancelled : Bool}
    {run next : Run} {s t : σ} (hmove : run.Moves terms link now cancelled s next t)
    (hworking : next.isOver = false) : run.rank now < next.rank now := by
  unfold rank
  cases hmove with
  | @call request hphase hcancelled hearly =>
    have hcalling : 0 < (run.call link request now s).1.height now := (height_calling rfl now).1
    rw [height_ready hphase]
    exact Nat.add_lt_add_left hcalling _
  | @receive request since due reply hphase hcancelled hearly hdue =>
    rcases receive_cases terms run request since now reply with
      ⟨ending, hover⟩ | ⟨delay, reason, hstate, _, _, hresting⟩
    · rw [isOver, hover] at hworking
      contradiction
    · have hcalling := (height_calling hphase now).2
      have hresting := height_resting hresting now
      rw [hstate]
      exact Nat.add_lt_add_left (hcalling.trans_le hresting) _
  | wake hphase hcancelled hearly hwake =>
    have hheight := run.height_le now
    have hnumber : run.state.advance.number = run.state.number + 1 := rfl
    simp only [hnumber]
    omega
  | _ => contradiction

end Courier.Run

namespace Courier.Token

/-- How far a token has come: waiting, due, fired. -/
def height (token : Token) (now : Moment) : Nat :=
  if token.fired then 2 else if token.isDue now then 1 else 0

theorem height_le (token : Token) (now : Moment) : token.height now ≤ 2 := by
  unfold height
  split
  · decide
  · split <;> decide

theorem isDue_mono {token : Token} {now later : Moment} (hdue : token.isDue now = true)
    (hlater : now ≤ later) : token.isDue later = true := by
  unfold isDue at *
  cases hfires : token.firesAt with
  | none => simp [hfires] at hdue
  | some moment =>
    simp only [hfires, Option.any_some, Bool.and_eq_true, decide_eq_true_iff] at hdue ⊢
    exact ⟨hdue.1, hdue.2.trans hlater⟩

theorem height_mono (token : Token) : Monotone token.height := by
  intro now later hlater
  unfold height
  split
  · exact le_rfl
  · split
    · next hdue => rw [if_pos (isDue_mono hdue hlater)]
    · exact Nat.zero_le _

end Courier.Token

namespace Courier.Solo

variable {σ : Type} {terms : Terms} {link : Link σ} {solo next : Solo σ}

/-- A number that grows with every turn of a run that is under way. -/
def rank (solo : Solo σ) : Nat :=
  5 * solo.run.state.number + solo.run.height solo.now + solo.token.height solo.now

theorem rank_le (solo : Solo σ) : solo.rank ≤ 5 * solo.run.state.number + 6 := by
  have hrun := solo.run.height_le solo.now
  have htoken := solo.token.height_le solo.now
  unfold rank
  omega

theorem Turns.rank_lt (hturn : Turns terms link solo next) (hworking : next.run.isOver = false) :
    solo.rank < next.rank := by
  cases hturn with
  | @move run s hmove =>
    have hrank : solo.run.rank solo.now < run.rank solo.now := hmove.rank_lt hworking
    exact Nat.add_lt_add_right hrank _
  | still hover =>
    rw [hover] at hworking
    contradiction
  | fire hawaits hearly hdue =>
    have hfired : solo.token.fired = false := by
      cases hfired : solo.token.fired with
      | false => rfl
      | true => simp [Token.isDue, hfired] at hdue
    have hheight : solo.token.height solo.now = 1 := by
      simp [Token.height, hfired, hdue]
    have hfire : solo.token.fire.height solo.now = 2 := rfl
    unfold rank
    rw [hheight, hfire]
    exact Nat.lt_succ_self _
  | tick hawaits hearly hfired hidle hnext hlater =>
    obtain ⟨⟨alarm, halarm, rfl⟩, _⟩ := nextMoment_spec hnext
    have hreached := Span.le_ceilMillis alarm
    have hrun := solo.run.height_mono hlater.le
    have htoken := solo.token.height_mono hlater.le
    unfold rank
    dsimp only
    rcases List.mem_append.mp halarm with halarm | halarm
    · have hlt := Run.height_lt hawaits hearly halarm hreached
      omega
    · have hdue : solo.token.isDue (Span.ceilMillis alarm) = true := by
        simp only [Token.alarms, hfired, Bool.false_eq_true, if_false, Option.mem_toList] at halarm
        simp only [Token.isDue, hfired, Option.mem_def.mp halarm, Option.any_some]
        simpa using hreached
      have hbefore : solo.token.height solo.now = 0 := by simp [Token.height, hfired, hidle]
      have hafter : solo.token.height (Span.ceilMillis alarm) = 1 := by
        simp [Token.height, hfired, hdue]
      omega

theorem rank_add_le {count : Nat} (hworking : (solo.after terms link count).run.isOver = false) :
    solo.rank + count ≤ (solo.after terms link count).rank := by
  induction count with
  | zero => exact le_rfl
  | succ count ih =>
    rw [after_succ] at hworking ⊢
    have hbefore : (solo.after terms link count).run.isOver = false := by
      by_contra hover
      rw [step_of_isOver (by simpa using hover)] at hworking
      exact hover hworking
    have hlt := (step_turns terms link (solo.after terms link count)).rank_lt hworking
    have := ih hbefore
    omega

/-- A run whose attempts are bounded comes to an end. -/
theorem isOver_after {bound count : Nat} (hstart : solo.run.state.number = 1)
    (hbound : ∀ count, (solo.after terms link count).run.isOver = false →
      (solo.after terms link count).run.state.number ≤ bound)
    (hcount : 5 * bound + 2 ≤ count) : (solo.after terms link count).run.isOver = true := by
  by_contra hworking
  have hworking : (solo.after terms link count).run.isOver = false := by simpa using hworking
  have hgrown := rank_add_le hworking
  have hnumber := hbound count hworking
  have hrank := rank_le (solo.after terms link count)
  have hfirst : 5 ≤ solo.rank := by
    unfold rank
    omega
  omega

end Courier.Solo

/-! ## Strategies that stop -/

namespace Courier

variable {σ : Type} {terms : Terms} {link : Link σ} {bound : Nat}

/-- Nothing is tried again after so many attempts. -/
def Terms.StopsBy (terms : Terms) (bound : Nat) : Prop :=
  ∀ progress delay reason, terms.decide progress = .retry delay reason → progress.number < bound

/-- The strategy stops before the numbers of attempts leave the 32 bits that are kept for them;
where it does not, they are counted on here as if there were no such limit. -/
def Terms.Counts (terms : Terms) : Prop := terms.StopsBy (Numeral.greatest 32)

/-- The attempts of a run stay within a bound, and it does not wait for another after the last. -/
structure Run.Within (run : Run) (bound : Nat) : Prop where
  number : run.state.number ≤ bound
  resting : ∀ request wake, run.phase = .working request (.resting wake) → run.state.number < bound

theorem Run.Within.end {run next : Run} (hrun : run.Within bound)
    (hstate : next.state = run.state)
    (hnext : ∀ request wake, next.phase ≠ .working request (.resting wake)) :
    next.Within bound where
  number := by rw [hstate]; exact hrun.number
  resting request wake hphase := absurd hphase (hnext request wake)

theorem Run.Moves.within {now : Moment} {cancelled : Bool} {run next : Run} {s t : σ}
    (hmove : run.Moves terms link now cancelled s next t) (hstops : terms.StopsBy bound)
    (hrun : run.Within bound) : next.Within bound := by
  cases hmove with
  | @receive request since due reply hphase =>
    refine ⟨by rw [receive_number]; exact hrun.number, fun again wake hresting ↦ ?_⟩
    rcases receive_cases terms run request since now reply with
      ⟨ending, hover⟩ | ⟨delay, reason, _, hdecide, _⟩
    · rw [hover] at hresting
      contradiction
    · rw [receive_number]
      exact hstops (run.progressAt now reply) delay reason hdecide
  | wake hphase => exact ⟨hrun.resting _ _ hphase, fun _ _ hready ↦ nomatch hready⟩
  | call => exact hrun.end rfl fun _ _ hcalling ↦ nomatch hcalling
  | _ => exact hrun.end rfl fun _ _ hover ↦ nomatch hover

theorem Run.watch_start (terms : Terms) (payload : Bytes) (origin : Moment) :
    (Run.start terms payload origin).watch =
      Watch.start terms.clockRange origin terms.timeout := by
  unfold Run.start
  split <;> rfl

theorem Run.number_start (terms : Terms) (payload : Bytes) (origin : Moment) :
    (Run.start terms payload origin).state.number = 1 := by
  unfold Run.start
  split <;> rfl

theorem Run.within_start (terms : Terms) (payload : Bytes) (origin : Moment) (hbound : 0 < bound) :
    (Run.start terms payload origin).Within bound := by
  have hnumber : (Run.start terms payload origin).state.number = 1 := number_start _ _ _
  refine ⟨by omega, fun request wake hphase ↦ ?_⟩
  unfold Run.start at hphase
  split at hphase <;> exact nomatch hphase

/-- The number of the attempt never gets beyond the bound of a strategy that stops. -/
theorem Run.kept_within (hstops : terms.StopsBy bound) (hbound : 0 < bound) :
    Run.Kept terms link fun run ↦ run.Within bound where
  start payload origin := within_start terms payload origin hbound
  move hmove hrun := hmove.within hstops hrun

namespace Solo

variable {payload : Bytes} {origin now : Moment} {token : Token} {s : σ}

/-- A run comes to an end under a strategy that stops. -/
theorem isOver_after_of_stopsBy (hstops : terms.StopsBy bound) (hbound : 0 < bound) :
    (after terms link (5 * bound + 2) ⟨now, token, Run.start terms payload origin, s⟩).run.isOver =
      true :=
  isOver_after (Run.number_start terms payload origin)
    (fun count _ ↦
      (kept_after (Run.kept_within hstops hbound) payload origin now token s count).number) le_rfl

theorem exists_finish?_of_stopsBy (hstops : terms.StopsBy bound) (hbound : 0 < bound) :
    ∃ last, ∀ fuel ≥ fuelFor bound,
      finish? terms link fuel ⟨now, token, Run.start terms payload origin, s⟩ = some last := by
  have hover : (after terms link (5 * bound + 2)
      ⟨now, token, Run.start terms payload origin, s⟩).run.isOver = true :=
    isOver_after_of_stopsBy hstops hbound
  refine ⟨_, fun fuel hfuel ↦ finish?_mono (finish?_eq_some_iff.mpr ⟨rfl, hover⟩) ?_⟩
  unfold fuelFor at hfuel
  omega

end Solo

/-- The numbers of attempts stay in 32 bits, so that no count of them ever wraps round. -/
theorem Solo.number_le_of_counts (hcounts : terms.Counts) (payload : Bytes) (token : Token) (s : σ)
    (count : Nat) : (after terms link count (startWith terms payload token s)).run.state.number ≤
      Numeral.greatest 32 :=
  (kept_after (Run.kept_within hcounts (by decide)) payload 0 0 token s count).number

/-! ## Work that is left -/

namespace Run

variable {run next : Run} {now later : Moment}

/-- A number of steps that no run with so many attempts exceeds. -/
def steps (bound : Nat) : Nat := 5 * bound + 5

/-- How many steps a run still takes at most, those counted by which the clock gets it on. -/
def left (bound : Nat) (now : Moment) (run : Run) : Nat :=
  if run.isOver then 0 else steps bound - run.rank now

theorem left_le (bound : Nat) (now : Moment) (run : Run) : run.left bound now ≤ steps bound := by
  unfold left
  split
  · exact Nat.zero_le _
  · exact Nat.sub_le _ _

theorem left_eq (bound : Nat) (now : Moment) (hworking : run.isOver = false) :
    run.left bound now = steps bound - run.rank now := by
  rw [left, hworking, if_neg Bool.false_ne_true]

theorem Within.rank_lt (hrun : run.Within bound) (now : Moment) : run.rank now < steps bound := by
  have hnumber := hrun.number
  have hheight := run.height_le now
  unfold rank steps
  omega

theorem left_antitone (bound : Nat) (run : Run) (hlater : now ≤ later) :
    run.left bound later ≤ run.left bound now := by
  have hheight := run.height_mono hlater
  unfold left rank
  split
  · exact le_rfl
  · omega

theorem Moves.left_lt {cancelled : Bool} {s t : σ}
    (hmove : run.Moves terms link now cancelled s next t) (hrun : run.Within bound)
    (hstops : terms.StopsBy bound) : next.left bound now < run.left bound now := by
  have hbefore := hrun.rank_lt now
  have hafter := (hmove.within hstops hrun).rank_lt now
  rw [left_eq bound now hmove.isOver_eq_false]
  cases hworking : next.isOver with
  | false =>
    have hrank := hmove.rank_lt hworking
    rw [left_eq bound now hworking]
    omega
  | true =>
    rw [left, if_pos hworking]
    omega

/-- The clock gets a run on when it reaches what the run waits for. -/
theorem Awaits.left_lt {alarm : Moment} (hawaits : run.Awaits now)
    (hearly : now < run.watch.deadline) (halarm : alarm ∈ run.alarms) (hlater : alarm ≤ later)
    (hrun : run.Within bound) : run.left bound later < run.left bound now := by
  have hheight := height_lt hawaits hearly halarm hlater
  have hafter := hrun.rank_lt later
  rw [left_eq bound later hawaits.isOver_eq_false, left_eq bound now hawaits.isOver_eq_false]
  unfold rank at hafter ⊢
  omega

end Run

end Courier
