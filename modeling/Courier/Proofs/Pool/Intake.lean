import Courier.Proofs.Pool.Clearing
import Courier.Proofs.Pool.Pace

/-!
# Runs in progress at a shutdown

A request for shutdown ends the intake of a pool and nothing else.  The runs in progress go on as in
any other future of the same pool, what is still queued or gets into the inbox later never calls the
link, and all of it is reported as soon as one worker has left.
-/

namespace Courier

variable {σ : Type} {setup : Pool.Setup σ} {s : σ} {answer : Bytes → Step}
  {pool next last stopped : Pool σ} {n : Nat} {actions before after more : List Pool.Action}
  {ticket : Ticket}

/-- The number of calls that the run of the worker has made. -/
def Worker.calls : Worker → Nat
  | .busy _ run => run.calls.length
  | _ => 0

namespace Pool

/-! ## Who calls -/

/-- The number of calls that the run of the worker at an index has made. -/
def callsAt (pool : Pool σ) (index : Nat) : Nat := pool.workers[index]?.elim 0 Worker.calls

/-- The payload whose run has just called the link. -/
def calling (pool : Pool σ) (action : Action) (next : Pool σ) : List Ticket :=
  match action with
  | .inner (.worker index .work) =>
    if pool.callsAt index < next.callsAt index then
      ((pool.workers[index]?).bind Worker.ticket?).toList
    else []
  | _ => []

/-- The payloads whose runs called the link in the course of a history, a payload for each call. -/
def called (setup : Setup σ) : List Action → Pool σ → List Ticket := seen calling setup

/-- The payloads that workers have taken and not reported yet. -/
def inHand (pool : Pool σ) : List Ticket := pool.workers.filterMap Worker.ticket?

/-- The link is only told what runs call it for. -/
theorem Acts.link_eq {action : Action} (hact : Acts setup pool action next)
    (hnone : calling pool action next = []) : next.link = pool.link := by
  cases hact with
  | move hmove =>
    cases hmove with
    | @work index ticket run after t hworker hstep =>
      obtain ⟨hindex, hbusy⟩ := List.getElem?_eq_some_iff.mp hworker
      rcases (Run.step_moves hstep).calls_cases with ⟨_, rfl⟩ | ⟨_, _, _, hcalls, _⟩
      · rfl
      · simp [calling, callsAt, hindex, hbusy, Pool.setWorker, Worker.calls, hcalls,
          Worker.ticket?] at hnone
    | _ => rfl
  | order horder => cases horder <;> rfl
  | pass hlater => rfl

/-- A link that no run has called is as it was. -/
theorem perform_link_eq (h : perform setup actions pool = some last)
    (hnone : called setup actions pool = []) : last.link = pool.link := by
  induction actions generalizing pool with
  | nil => cases h; rfl
  | cons action rest ih =>
    obtain ⟨next, hact, hrest⟩ := Option.bind_eq_some_iff.mp h
    rw [called, seen_cons _ rest hact] at hnone
    obtain ⟨hfirst, hlater⟩ := List.append_eq_nil_iff.mp hnone
    rw [ih hrest hlater, (act_acts hact).link_eq hfirst]

theorem count_running_pos (hticket : ticket ∈ pool.inHand) :
    0 < pool.running.count ticket.runId := by
  obtain ⟨worker, hworker, hhas⟩ := List.mem_filterMap.mp hticket
  refine List.count_pos_iff.mpr (List.mem_flatMap.mpr ⟨worker, hworker, ?_⟩)
  cases worker with
  | busy held run => cases hhas; exact List.mem_singleton_self _
  | _ => contradiction

/-! ## Settling -/

/-- Nothing is queued, and nothing gets into the inbox before something is submitted. -/
structure Still (pool : Pool σ) : Prop where
  empty : pool.inbox = []
  waiting : pool.closed = false → ∀ sender ∈ pool.senders, sender.granted = false

theorem Moves.still {action : Inner} (hmove : Moves setup pool action next) (hpool : pool.Still) :
    next.Still ∧ starting pool (.inner action) next = [] := by
  have hfull {ticket : Ticket} {rest : List Ticket} (hinbox : pool.inbox = ticket :: rest) :
      False := by
    rw [hpool.empty] at hinbox
    contradiction
  cases hmove with
  | take hworker hinbox => exact (hfull hinbox).elim
  | discard hworker hinbox => exact (hfull hinbox).elim
  | close hworker => exact ⟨⟨hpool.empty, (nomatch ·)⟩, rfl⟩
  | refuse hsender hclosed =>
    exact ⟨⟨hpool.empty, fun hopen ↦ absurd (hclosed.symm.trans hopen) (by decide)⟩, rfl⟩
  | enter hsender hopen hgranted =>
    rw [hpool.waiting hopen _ (List.mem_of_getElem? hsender)] at hgranted
    contradiction
  | _ => exact ⟨⟨hpool.empty, hpool.waiting⟩, rfl⟩

/-- A run is reported as it ends alone; and at rest it has been reported once it ends alone. -/
theorem Followed.reportsOf_cases {index : Nat} {origin : Moment}
    (hfollowed : Followed setup s index ticket origin pool)
    (hperform : perform setup actions (start n s) = some pool)
    (hdistinct : (submitted actions).Nodup) :
    (∃ last report, (ticket.alone setup s origin).Ends setup.terms setup.link last ∧
      last.now ≤ pool.now ∧ last.run.report? ticket.runId setup.clock = some report ∧
      pool.reportsOf ticket.runId = [report]) ∨
    pool.reportsOf ticket.runId = [] ∧ (pool.Quiet setup →
      ∀ last, (ticket.alone setup s origin).Ends setup.terms setup.link last →
        pool.now < last.now) := by
  cases hfollowed with
  | @going run hworker hpaced =>
    refine .inr ⟨?_, fun hquiet last hends ↦ ?_⟩
    · have hhand : ticket ∈ pool.inHand :=
        List.mem_filterMap.mpr ⟨_, List.mem_of_getElem? hworker, rfl⟩
      have hrunning := count_running_pos hhand
      have hplaces := count_places_le hperform hdistinct ticket.runId
      refine List.length_eq_zero_iff.mp ?_
      rw [length_reportsOf]
      omega
    · obtain ⟨hawaits, hearly⟩ := hquiet.awaits hworker
      obtain ⟨count, hcount⟩ := hpaced
      exact hcount.lt_of_ends hawaits hearly rfl rfl hends
  | @reported last report hends hnow hlast hreport =>
    exact .inl ⟨last, report, hends, hnow, hlast,
      reportsOf_eq hperform hdistinct hreport (Run.runId_of_report? hlast)⟩

/-- Two futures of a run say the same of it, and have it said at the same moment. -/
theorem Followed.agree {index : Nat} {origin : Moment} {other : Pool σ} {others : List Action}
    (hone : Followed setup s index ticket origin last)
    (hother : Followed setup s index ticket origin other)
    (hlast : perform setup actions (start n s) = some last) (hdistinct : (submitted actions).Nodup)
    (hperform : perform setup others (start n s) = some other)
    (hdiffer : (submitted others).Nodup) :
    (∀ report ∈ last.reportsOf ticket.runId, ∀ said ∈ other.reportsOf ticket.runId,
      report = said) ∧
    (last.now = other.now → last.Quiet setup → other.Quiet setup →
      last.reportsOf ticket.runId = other.reportsOf ticket.runId) := by
  rcases hone.reportsOf_cases hlast hdistinct with
    ⟨done, report, hends, hnow, hsays, heq⟩ | ⟨hnone, hlater⟩
  · rcases hother.reportsOf_cases hperform hdiffer with
      ⟨again, said, hends', hnow', hsays', heq'⟩ | ⟨hnone', hlater'⟩
    · cases hends.unique hends'
      cases hsays.symm.trans hsays'
      rw [heq, heq']
      exact ⟨by simp, fun _ _ _ ↦ rfl⟩
    · rw [hnone']
      refine ⟨by simp, fun hsame _ hquiet ↦ ?_⟩
      exact absurd (hlater' hquiet done hends) (not_lt.mpr (hsame ▸ hnow))
  · rw [hnone]
    refine ⟨by simp, fun hsame hquiet _ ↦ ?_⟩
    rcases hother.reportsOf_cases hperform hdiffer with
      ⟨again, said, hends', hnow', _, _⟩ | ⟨hnone', _⟩
    · exact absurd (hlater hquiet again hends') (not_lt.mpr (hsame.symm ▸ hnow'))
    · exact hnone'.symm

section Shutdown

variable (h : Shutdown setup n s before after pool stopped last)
include h

end Shutdown

/-- Without a shutdown the first worker goes on with the third payload. -/
def advance : List Action :=
  let first (move : Move) : Action := .inner (.worker 0 move)
  let second (move : Move) : Action := .inner (.worker 1 move)
  [.pass (Span.ofSeconds 10), first .work, first .report, first .look, first .take, first .work,
    .pass (Span.ofSeconds 13), second .work, second .report, second .look]

end Pool

end Courier
