import Courier.Proofs.Clock
import Courier.Proofs.Pool.Load

/-!
# Timely histories

A history says in which order things happened, but not when: its clock may go forward at any point.
The clock of a running pool goes on only when nothing else can happen, by whole milliseconds, and
stops at every alarm.  A timely history is one whose clock does so, and in it a run moves at the
moment at which it is woken.
-/

namespace Courier.Pool

variable {σ : Type} {setup : Setup σ} {pool next last : Pool σ} {actions more : List Action}

theorem next?_eq_none_iff : pool.next? setup = none ↔ pool.Quiet setup := by
  refine ⟨quiet_of_next?_eq_none, fun hquiet ↦ ?_⟩
  have hsenders : (List.range pool.senders.length).findSome? pool.senderMove = none :=
    List.findSome?_eq_none_iff.mpr fun index _ ↦ hquiet (.sender index)
  rw [next?, hsenders]
  refine List.findSome?_eq_none_iff.mpr ?_
  rintro ⟨worker, index⟩ hmem
  refine List.findSome?_eq_none_iff.mpr fun move _ ↦ ?_
  exact hquiet.workerMove_eq_none (List.mem_zipIdx_iff_getElem?.mp hmem) move

instance (setup : Setup σ) (pool : Pool σ) : Decidable (pool.Quiet setup) :=
  decidable_of_iff (pool.next? setup = none) next?_eq_none_iff

theorem exists_inner_of_next? (hnext : pool.next? setup = some next) :
    ∃ action, pool.inner setup action = some next := by
  unfold next? at hnext
  split at hnext
  · next other hsender =>
    cases hnext
    obtain ⟨index, _, hmove⟩ := List.exists_of_findSome?_eq_some hsender
    exact ⟨.sender index, hmove⟩
  · obtain ⟨⟨worker, index⟩, hmem, hworker⟩ := List.exists_of_findSome?_eq_some hnext
    obtain ⟨move, _, hmove⟩ := List.exists_of_findSome?_eq_some hworker
    exact ⟨.worker index move, by
      rw [inner, List.mem_zipIdx_iff_getElem?.mp hmem, Option.bind_eq_bind, Option.bind_some,
        hmove]⟩

/-! ## The clock -/

/-- Whether an action cancels the runs of the pool. -/
def Action.cancels : Action → Bool
  | .outer .cancel => true
  | _ => false

/-- An action that does not bring the clock past anything that would happen before. -/
def Action.OnTime (setup : Setup σ) (pool : Pool σ) : Action → Prop
  | .pass later => pool.Quiet setup ∧ Span.IsWhole later ∧
      ∀ alarm ∈ pool.alarms, later ≤ Span.ceilMillis alarm
  | _ => True

instance (setup : Setup σ) (pool : Pool σ) (action : Action) :
    Decidable (action.OnTime setup pool) :=
  match action with
  | .pass later => inferInstanceAs (Decidable (pool.Quiet setup ∧ later % 1000000 = 0 ∧
      ∀ alarm ∈ pool.alarms, later ≤ Span.ceilMillis alarm))
  | .inner _ => .isTrue trivial
  | .outer _ => .isTrue trivial

/-- Every action of the history is on time. -/
def Timely (setup : Setup σ) : List Action → Pool σ → Prop
  | [], _ => True
  | action :: rest, pool =>
    action.OnTime setup pool ∧
      match pool.act setup action with
      | some next => Timely setup rest next
      | none => True

instance Timely.decidable (setup : Setup σ) :
    (actions : List Action) → (pool : Pool σ) → Decidable (Timely setup actions pool)
  | [], _ => .isTrue trivial
  | action :: rest, pool =>
    match hact : pool.act setup action with
    | some next =>
      have := Timely.decidable setup rest next
      decidable_of_iff (action.OnTime setup pool ∧ Timely setup rest next) (by
        rw [Timely, hact])
    | none => decidable_of_iff (action.OnTime setup pool) (by
        rw [Timely, hact, and_true])

/-! ## Histories one after another -/

theorem Timely.append (htimely : Timely setup actions pool)
    (h : perform setup actions pool = some last) (hmore : Timely setup more last) :
    Timely setup (actions ++ more) pool := by
  induction actions generalizing pool with
  | nil => cases h; exact hmore
  | cons action rest ih =>
    obtain ⟨next, hact, hrest⟩ := Option.bind_eq_some_iff.mp h
    simp only [Timely, List.cons_append, hact] at htimely ⊢
    exact ⟨htimely.1, ih htimely.2 hrest⟩

/-- What every action of a timely history keeps holds after it. -/
theorem Timely.induction {motive : Pool σ → Prop} (htimely : Timely setup actions pool)
    (h : perform setup actions pool = some last)
    (hact : ∀ action ∈ actions, ∀ pool next, pool.act setup action = some next →
      action.OnTime setup pool → motive pool → motive next) (hpool : motive pool) :
    motive last := by
  induction actions generalizing pool with
  | nil => cases h; exact hpool
  | cons action rest ih =>
    obtain ⟨next, hnext, hrest⟩ := Option.bind_eq_some_iff.mp h
    simp only [Timely, hnext] at htimely
    refine ih htimely.2 hrest (fun other hother ↦ hact other (List.mem_cons_of_mem _ hother)) ?_
    exact hact action List.mem_cons_self pool next hnext htimely.1 hpool

/-! ## What a pool does by itself -/

/-- Whether an action is the pool's or the clock's, not something that is done to the pool. -/
def Action.isOwn : Action → Bool
  | .outer _ => false
  | _ => true

/-- A pool goes on to another by itself. -/
structure Continues (setup : Setup σ) (pool : Pool σ) (more : List Action) (last : Pool σ) :
    Prop where
  performed : perform setup more pool = some last
  timely : Timely setup more pool
  own : ∀ action ∈ more, action.isOwn = true

theorem continues_nil (setup : Setup σ) (pool : Pool σ) : Continues setup pool [] pool :=
  ⟨rfl, trivial, fun _ haction ↦ nomatch haction⟩

theorem continues_single {action : Action} (hact : pool.act setup action = some next)
    (hontime : action.OnTime setup pool) (hown : action.isOwn = true) :
    Continues setup pool [action] next where
  performed := by rw [perform, hact, Option.bind_some, perform]
  timely := by
    rw [Timely, hact]
    exact ⟨hontime, trivial⟩
  own _ haction := List.mem_singleton.mp haction ▸ hown

theorem Continues.trans {others : List Action} (hfirst : Continues setup pool actions next)
    (hlater : Continues setup next others last) :
    Continues setup pool (actions ++ others) last where
  performed := by rw [perform_append, hfirst.performed, Option.bind_some, hlater.performed]
  timely := hfirst.timely.append hfirst.performed hlater.timely
  own action haction := (List.mem_append.mp haction).elim (hfirst.own action) (hlater.own action)

theorem Continues.submitters (hmore : Continues setup pool actions last) :
    last.submitters = pool.submitters := by
  refine hmore.timely.induction hmore.performed
    (motive := fun later ↦ later.submitters = pool.submitters) ?_ rfl
  intro action haction pool next hact _ hsame
  cases act_acts hact with
  | move hmove => cases hmove <;> exact hsame
  | order horder => exact nomatch hmore.own _ haction
  | pass hlater => exact hsame

end Courier.Pool
