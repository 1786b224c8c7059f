import Courier.Proofs.Run.Path
import Courier.Run.Fleet

/-!
# Moves of a fleet

`Acts` lists what a fleet can do: one of its seats moves, the token of a run that waits fires, or,
when every seat rests, the clock goes on.  A schedule is a list of such actions, each of them
possible in its turn, so that every interleaving of the runs is one.
-/

namespace Courier

variable {σ : Type} {terms : Terms} {link : Link σ}

/-! ## Seats -/

namespace Seat

variable {errand : Errand} {seat next : Seat} {now : Moment} {s after : σ}

inductive Moves (terms : Terms) (link : Link σ) (now : Moment) (errand : Errand) (s : σ) :
    Seat → Seat → σ → Prop
  | start (hdue : errand.startAt ≤ now) :
      Moves terms link now errand s .waiting
        (.taken (Run.start terms errand.payload now) (Token.after now errand.cancelAfter)) s
  | step {run next : Run} {token : Token} {after : σ}
      (hstep : run.step terms link now token.fired s = some (next, after)) :
      Moves terms link now errand s (.taken run token) (.taken next token) after

theorem move?_moves (h : seat.move? terms link now errand s = some (next, after)) :
    Moves terms link now errand s seat next after := by
  cases seat with
  | waiting =>
    simp only [move?] at h
    split at h
    · next hdue => cases h; exact .start hdue
    · contradiction
  | taken run token =>
    obtain ⟨⟨moved, left⟩, hstep, heq⟩ := Option.map_eq_some_iff.mp h
    cases heq
    exact .step hstep

/-- Nothing is left to do at the moment. -/
inductive Rests (now : Moment) (errand : Errand) : Seat → Prop
  | waiting (hearly : now < errand.startAt) : Rests now errand .waiting
  | ended {run : Run} {token : Token} (hover : run.isOver = true) :
      Rests now errand (.taken run token)
  | idle {run : Run} {token : Token} (hawaits : run.Awaits now)
      (hearly : now < run.watch.deadline) (hfired : token.fired = false)
      (hidle : token.isDue now = false) : Rests now errand (.taken run token)

theorem rests_of_none (hmove : seat.move? terms link now errand s = none)
    (hfire : seat.fire? now = none) : seat.Rests now errand := by
  cases seat with
  | waiting =>
    refine .waiting (not_le.mp fun hdue ↦ ?_)
    rw [move?, if_pos hdue] at hmove
    contradiction
  | taken run token =>
    rcases Run.step_eq_none_iff.mp (Option.map_eq_none_iff.mp hmove) with
      hover | ⟨hfired, hearly, hawaits⟩
    · exact .ended hover
    · refine .idle hawaits hearly hfired ?_
      simpa [fire?, hawaits.isOver_eq_false] using hfire

theorem Rests.lt_of_mem_alarms (hrests : seat.Rests now errand) {alarm : Moment}
    (halarm : alarm ∈ seat.alarms errand) : now < alarm := by
  cases hrests with
  | waiting hearly =>
    cases List.mem_singleton.mp halarm
    exact hearly
  | ended hover => simp [alarms, hover] at halarm
  | @idle run token hawaits hearly hfired hidle =>
    simp only [alarms, hawaits.isOver_eq_false, Bool.false_eq_true, if_false] at halarm
    rcases List.mem_append.mp halarm with halarm | halarm
    · exact hawaits.lt_of_mem_alarms hearly halarm
    · exact Token.lt_of_mem_alarms hidle halarm

/-- A seat at rest either still makes the clock stop, or its run is over. -/
theorem Rests.isOver_of_alarms (hrests : seat.Rests now errand)
    (halarms : seat.alarms errand = []) :
    ∃ run token, seat = .taken run token ∧ run.isOver = true := by
  cases hrests with
  | waiting => contradiction
  | ended hover => exact ⟨_, _, rfl, hover⟩
  | @idle run token hawaits hearly hfired hidle =>
    simp only [alarms, hawaits.isOver_eq_false, Bool.false_eq_true, if_false,
      List.append_eq_nil_iff] at halarms
    exact absurd halarms.1 (List.ne_nil_of_mem hawaits.deadline_mem_alarms)

end Seat

/-! ## Actions -/

namespace Fleet

variable {fleet next last : Fleet σ} {index : Nat}

inductive Acts (terms : Terms) (link : Link σ) (fleet : Fleet σ) : Action → Fleet σ → Prop
  | move {index : Nat} {errand : Errand} {seat next : Seat} {s : σ}
      (hseat : fleet.seats[index]? = some (errand, seat))
      (hmoves : seat.Moves terms link fleet.now errand fleet.link next s) :
      Acts terms link fleet (.move index)
        { fleet with seats := fleet.seats.set index (errand, next), link := s }
  | fire {index : Nat} {errand : Errand} {run : Run} {token : Token}
      (hseat : fleet.seats[index]? = some (errand, .taken run token))
      (hawaits : run.Awaits fleet.now) (hearly : fleet.now < run.watch.deadline)
      (hdue : token.isDue fleet.now = true) :
      Acts terms link fleet (.fire index)
        { fleet with seats := fleet.seats.set index (errand, .taken run token.fire) }
  | tick {moment : Moment}
      (hrests : ∀ (index : Nat) (errand : Errand) (seat : Seat),
        fleet.seats[index]? = some (errand, seat) → seat.Rests fleet.now errand)
      (hnext : nextMoment (fleet.seats.flatMap fun (errand, seat) ↦ seat.alarms errand) =
        some moment)
      (hlater : fleet.now < moment) :
      Acts terms link fleet .tick { fleet with now := moment }

theorem firstAt_eq_none_iff {attempt : Nat → Option (Fleet σ)} :
    fleet.firstAt attempt = none ↔ ∀ index < fleet.seats.length, attempt index = none := by
  simp [firstAt, List.findSome?_eq_none_iff]

theorem moveAt_eq_none_iff {errand : Errand} {seat : Seat}
    (hseat : fleet.seats[index]? = some (errand, seat)) : fleet.moveAt terms link index = none ↔
      seat.move? terms link fleet.now errand fleet.link = none := by
  simp only [moveAt, hseat, Option.bind_eq_bind, Option.bind_some]
  cases seat.move? terms link fleet.now errand fleet.link <;> simp

theorem fireAt_eq_none_iff {errand : Errand} {seat : Seat}
    (hseat : fleet.seats[index]? = some (errand, seat))
    (hmove : fleet.moveAt terms link index = none) : fleet.fireAt terms link index = none ↔
      seat.fire? fleet.now = none := by
  simp only [fireAt, canMove, hseat, hmove, Option.bind_eq_bind, Option.bind_some]
  cases seat.fire? fleet.now <;> simp

theorem rests_of_none (hmove : fleet.moveAt terms link index = none)
    (hfire : fleet.fireAt terms link index = none) {errand : Errand} {seat : Seat}
    (hseat : fleet.seats[index]? = some (errand, seat)) : seat.Rests fleet.now errand :=
  Seat.rests_of_none ((moveAt_eq_none_iff hseat).mp hmove)
    ((fireAt_eq_none_iff hseat hmove).mp hfire)

theorem act_acts {action : Action} (h : fleet.act terms link action = some next) :
    Acts terms link fleet action next := by
  cases action with
  | move index =>
    obtain ⟨⟨errand, seat⟩, hseat, hrest⟩ := Option.bind_eq_some_iff.mp h
    obtain ⟨⟨moved, s⟩, hmove, heq⟩ := Option.bind_eq_some_iff.mp hrest
    cases heq
    exact .move hseat (Seat.move?_moves hmove)
  | fire index =>
    obtain ⟨⟨errand, seat⟩, hseat, hrest⟩ := Option.bind_eq_some_iff.mp h
    dsimp only at hrest
    split at hrest
    · contradiction
    · next hstuck =>
      obtain ⟨fired, hfire, heq⟩ := Option.bind_eq_some_iff.mp hrest
      cases heq
      cases seat with
      | waiting => contradiction
      | taken run token =>
        simp only [Seat.fire?] at hfire
        split at hfire
        · next hdue =>
          cases hfire
          simp only [Bool.and_eq_true, Bool.not_eq_true'] at hdue
          have hmove : fleet.moveAt terms link index = none := by simpa [canMove] using hstuck
          have hnone : run.step terms link fleet.now token.fired fleet.link = none :=
            Option.map_eq_none_iff.mp ((moveAt_eq_none_iff hseat).mp hmove)
          rcases Run.step_eq_none_iff.mp hnone with hover | ⟨_, hearly, hawaits⟩
          · rw [hdue.1] at hover
            contradiction
          · exact .fire hseat hawaits hearly hdue.2
        · contradiction
  | tick =>
    simp only [act, tick] at h
    split at h
    · contradiction
    · next hmove =>
      split at h
      · contradiction
      · next hfire =>
        simp only [Option.not_isSome_iff_eq_none, firstAt_eq_none_iff] at hmove hfire
        have hrests (index : Nat) (errand : Errand) (seat : Seat)
            (hseat : fleet.seats[index]? = some (errand, seat)) :
            seat.Rests fleet.now errand := by
          have hindex := (List.getElem?_eq_some_iff.mp hseat).1
          exact rests_of_none (hmove index hindex) (hfire index hindex) hseat
        obtain ⟨moment, hnext, heq⟩ := Option.map_eq_some_iff.mp h
        have hlater : fleet.now < moment := by
          obtain ⟨⟨alarm, halarm, rfl⟩, _⟩ := nextMoment_spec hnext
          obtain ⟨⟨errand, seat⟩, hmem, halarm⟩ := List.mem_flatMap.mp halarm
          obtain ⟨index, hseat⟩ := List.getElem?_of_mem hmem
          exact ((hrests index errand seat hseat).lt_of_mem_alarms halarm).trans_le
            (Span.le_ceilMillis alarm)
        rw [max_eq_right hlater.le] at heq
        cases heq
        exact .tick hrests hnext hlater

/-! ## Schedules -/

/-- The fleet after a schedule. -/
def perform (terms : Terms) (link : Link σ) : List Action → Fleet σ → Option (Fleet σ)
  | [], fleet => some fleet
  | action :: rest, fleet => (fleet.act terms link action).bind (perform terms link rest)

/-- What every action keeps, counting the actions, holds after every schedule. -/
theorem perform_induction {motive : Nat → Fleet σ → Prop} {actions : List Action} {count : Nat}
    (hact : ∀ count fleet action next, Acts terms link fleet action next → motive count fleet →
      motive (count + 1) next)
    (h : fleet.perform terms link actions = some last) (hfleet : motive count fleet) :
    motive (count + actions.length) last := by
  induction actions generalizing fleet count with
  | nil => cases h; exact hfleet
  | cons action rest ih =>
    obtain ⟨next, hnext, hrest⟩ := Option.bind_eq_some_iff.mp h
    have hlast := ih hrest (hact count fleet action next (act_acts hnext) hfleet)
    rwa [List.length_cons, Nat.add_comm rest.length, ← Nat.add_assoc]

/-- No action is possible any more. -/
def AtRest (terms : Terms) (link : Link σ) (fleet : Fleet σ) : Prop :=
  ∀ action, fleet.act terms link action = none

/-- A fleet comes to rest only when each of its runs is over. -/
theorem AtRest.isOver (hrest : fleet.AtRest terms link) {errand : Errand} {seat : Seat}
    (hseat : fleet.seats[index]? = some (errand, seat)) :
    ∃ run token, seat = .taken run token ∧ run.isOver = true := by
  have hmove : fleet.firstAt (fleet.moveAt terms link) = none :=
    firstAt_eq_none_iff.mpr fun index _ ↦ hrest (.move index)
  have hfire : fleet.firstAt (fleet.fireAt terms link) = none :=
    firstAt_eq_none_iff.mpr fun index _ ↦ hrest (.fire index)
  have htick : fleet.tick terms link = none := hrest .tick
  simp only [tick, hmove, hfire, Option.isSome_none, Bool.false_eq_true, if_false,
    Option.map_eq_none_iff, nextMoment_eq_none_iff, List.flatMap_eq_nil_iff] at htick
  have hrests := rests_of_none (hrest (.move index)) (hrest (.fire index)) hseat
  exact hrests.isOver_of_alarms (htick _ (List.mem_of_getElem? hseat))

/-- An action is taken as long as one is possible. -/
theorem next?_eq (terms : Terms) (link : Link σ) (fleet : Fleet σ) :
    (fleet.next? terms link = none ∧ fleet.AtRest terms link) ∨
      ∃ action next, fleet.next? terms link = some next ∧
        fleet.act terms link action = some next := by
  unfold next?
  cases hmove : fleet.firstAt (fleet.moveAt terms link) with
  | some next =>
    obtain ⟨index, _, hindex⟩ := List.exists_of_findSome?_eq_some hmove
    exact .inr ⟨.move index, next, rfl, hindex⟩
  | none =>
    cases hfire : fleet.firstAt (fleet.fireAt terms link) with
    | some next =>
      obtain ⟨index, _, hindex⟩ := List.exists_of_findSome?_eq_some hfire
      exact .inr ⟨.fire index, next, rfl, hindex⟩
    | none =>
      cases htick : fleet.tick terms link with
      | some next => exact .inr ⟨.tick, next, rfl, htick⟩
      | none =>
        refine .inl ⟨rfl, ?_⟩
        rintro (index | index | _)
        · rcases lt_or_ge index fleet.seats.length with hindex | hindex
          · exact firstAt_eq_none_iff.mp hmove index hindex
          · simp [act, moveAt, List.getElem?_eq_none hindex]
        · rcases lt_or_ge index fleet.seats.length with hindex | hindex
          · exact firstAt_eq_none_iff.mp hfire index hindex
          · simp [act, fireAt, List.getElem?_eq_none hindex]
        · exact htick

/-- The fixed order of actions is one schedule, and it goes on until the fleet rests. -/
theorem exists_perform_of_finish? {fuel : Nat} (h : fleet.finish? terms link fuel = some last) :
    (∃ actions, fleet.perform terms link actions = some last) ∧ last.AtRest terms link := by
  induction fuel generalizing fleet with
  | zero => contradiction
  | succ fuel ih =>
    rcases next?_eq terms link fleet with
      ⟨hnext, hrest⟩ | ⟨action, next, hnext, hact⟩
    · simp only [finish?, hnext] at h
      cases h
      exact ⟨⟨[], rfl⟩, hrest⟩
    · simp only [finish?, hnext] at h
      obtain ⟨⟨actions, hactions⟩, hrest⟩ := ih h
      exact ⟨⟨action :: actions, Option.bind_eq_some_iff.mpr ⟨next, hact, hactions⟩⟩, hrest⟩

/-- If every schedule is shorter than the fuel, the fixed order comes to an end. -/
theorem exists_finish?_of_bounded {fuel : Nat}
    (hbound : ∀ actions last, fleet.perform terms link actions = some last →
      actions.length < fuel) :
    ∃ last, fleet.finish? terms link fuel = some last := by
  induction fuel generalizing fleet with
  | zero => exact absurd (hbound [] fleet rfl) (Nat.not_lt_zero _)
  | succ fuel ih =>
    rcases next?_eq terms link fleet with
      ⟨hnext, _⟩ | ⟨action, next, hnext, hact⟩
    · exact ⟨fleet, by simp only [finish?, hnext]⟩
    · simp only [finish?, hnext]
      apply ih
      intro actions last hactions
      have hlength := hbound (action :: actions) last
        (Option.bind_eq_some_iff.mpr ⟨next, hact, hactions⟩)
      exact Nat.lt_of_succ_lt_succ hlength

end Fleet

end Courier
