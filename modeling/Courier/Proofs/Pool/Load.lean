import Courier.Pool.Schedule
import Courier.Proofs.Pool.History
import Mathlib.Data.List.Perm.Basic

/-!
# The load of a pool

What a pool does with its payloads as long as nobody stops it and its handle is held.  Payloads are
started in the order in which they entered the inbox.  Whenever nothing can happen before the clock
moves, no worker is idle while a payload is queued, and no submission waits while the inbox has a
place left.
-/

namespace Courier

def Worker.isRunning : Worker → Bool
  | .busy _ run => !run.isOver
  | _ => false

/-- Whether the worker has stopped taking payloads. -/
def Worker.isThrough : Worker → Bool
  | .leaving | .draining | .gone => true
  | _ => false

def Worker.ticket? : Worker → Option Ticket
  | .busy ticket _ => some ticket
  | _ => none

namespace Pool

variable {σ : Type} {setup : Setup σ} {pool next last : Pool σ}

/-- Whether an action asks the pool to stop. -/
def Action.stopsPool : Action → Bool
  | .outer .requestShutdown | .outer .dropHandle => true
  | _ => false

/-- Granted places of the inbox that are not filled yet. -/
def granted (pool : Pool σ) : Nat := pool.senders.countP Sender.granted

def runsInProgress (pool : Pool σ) : Nat := pool.workers.countP Worker.isRunning

/-! ## Granting places -/

theorem countP_grantFirst {senders : List Sender} {sender : Sender} (hsender : sender ∈ senders)
    (hgranted : sender.granted = false) :
    (grantFirst senders).countP Sender.granted = senders.countP Sender.granted + 1 := by
  induction senders with
  | nil => contradiction
  | cons first rest ih =>
    unfold grantFirst
    split
    · next hfirst =>
      have hrest : sender ∈ rest := by
        apply List.mem_of_ne_of_mem _ hsender
        rintro rfl
        rw [hgranted] at hfirst
        contradiction
      rw [List.countP_cons_of_pos hfirst, List.countP_cons_of_pos hfirst, ih hrest]
    · next hfirst =>
      rw [List.countP_cons_of_pos rfl, List.countP_cons_of_neg hfirst]

theorem countP_grantFirst_le (senders : List Sender) :
    (grantFirst senders).countP Sender.granted ≤ senders.countP Sender.granted + 1 := by
  by_cases hall : ∃ sender ∈ senders, sender.granted = false
  · obtain ⟨sender, hsender, hgranted⟩ := hall
    exact Nat.le_of_eq (countP_grantFirst hsender hgranted)
  · have hsame : grantFirst senders = senders := by
      induction senders with
      | nil => rfl
      | cons first rest ih =>
        simp only [List.mem_cons, exists_eq_or_imp, not_or, Bool.not_eq_false] at hall
        rw [grantFirst, if_pos hall.1, ih (by simpa using hall.2)]
    rw [hsame]
    exact Nat.le_succ _

theorem mem_of_mem_grantFirst {senders : List Sender} {sender : Sender}
    (hsender : sender ∈ grantFirst senders) (hgranted : sender.granted = false) :
    sender ∈ senders := by
  induction senders with
  | nil => exact hsender
  | cons first rest ih =>
    unfold grantFirst at hsender
    split at hsender
    · rcases List.mem_cons.mp hsender with rfl | hrest
      · exact List.mem_cons_self
      · exact List.mem_cons_of_mem _ (ih hrest)
    · rcases List.mem_cons.mp hsender with rfl | hrest
      · contradiction
      · exact List.mem_cons_of_mem _ hrest

/-! ## Pools that go on -/

/-- Nothing is queued and nobody is left who could submit. -/
def Spent (pool : Pool σ) : Prop := pool.submitters = 0 ∧ pool.senders = [] ∧ pool.inbox = []

/-- What holds of a pool that nobody has stopped.  Its workers leave only when nothing can come any
more. -/
structure GoesOn (pool : Pool σ) : Prop where
  unstopped : pool.stopping = false
  held : pool.held = true
  fits : pool.inbox.length + pool.granted ≤ pool.capacity
  full : ∀ sender ∈ pool.senders, sender.granted = false →
    pool.inbox.length + pool.granted = pool.capacity
  manned : ¬ pool.Spent →
    pool.closed = false ∧ ∀ worker ∈ pool.workers, worker.isThrough = false

theorem goesOn_start (n : Nat) (s : σ) : (start n s).GoesOn where
  unstopped := rfl
  held := rfl
  fits := Nat.zero_le _
  full _ hsender := nomatch hsender
  manned _ := by
    refine ⟨rfl, fun worker hworker ↦ ?_⟩
    rw [List.eq_of_mem_replicate hworker]
    rfl

theorem GoesOn.spent_of_closed (hpool : pool.GoesOn) (hclosed : pool.closed = true) :
    pool.Spent := by
  by_contra hunspent
  rw [(hpool.manned hunspent).1] at hclosed
  contradiction

theorem GoesOn.spent_of_through (hpool : pool.GoesOn) {worker : Worker}
    (hworker : worker ∈ pool.workers) (hthrough : worker.isThrough = true) : pool.Spent := by
  by_contra hunspent
  rw [(hpool.manned hunspent).2 worker hworker] at hthrough
  contradiction

theorem not_spent_of_inbox {ticket : Ticket} {rest : List Ticket}
    (hinbox : pool.inbox = ticket :: rest) : ¬ pool.Spent := by
  rintro ⟨_, _, hempty⟩
  rw [hempty] at hinbox
  contradiction

theorem not_spent_of_sender {index : Nat} {sender : Sender}
    (hsender : pool.senders[index]? = some sender) : ¬ pool.Spent := by
  rintro ⟨_, hnone, _⟩
  rw [hnone] at hsender
  contradiction

theorem not_spent_of_submitters (hsubmitters : 0 < pool.submitters) : ¬ pool.Spent := by
  rintro ⟨hnone, _⟩
  omega

theorem capacity_setWorker (pool : Pool σ) (index : Nat) (worker : Worker) :
    (pool.setWorker index worker).capacity = pool.capacity := by
  rw [capacity, Pool.setWorker, List.length_set, capacity]

theorem GoesOn.setWorker (hpool : pool.GoesOn) (index : Nat) (worker : Worker)
    (hworker : worker.isThrough = true → pool.Spent) : (pool.setWorker index worker).GoesOn where
  unstopped := hpool.unstopped
  held := hpool.held
  fits := by
    rw [capacity_setWorker]
    exact hpool.fits
  full := by
    rw [capacity_setWorker]
    exact hpool.full
  manned hunspent := by
    obtain ⟨hclosed, hothers⟩ := hpool.manned hunspent
    refine ⟨hclosed, fun other hother ↦ ?_⟩
    rcases List.mem_or_eq_of_mem_set hother with hother | rfl
    · exact hothers other hother
    · cases hthrough : other.isThrough with
      | false => rfl
      | true => exact absurd (hworker hthrough) hunspent

/-- A place that becomes free is granted at once if a submission waits for it. -/
theorem GoesOn.withoutFirst (hpool : pool.GoesOn) {ticket : Ticket} {rest : List Ticket}
    (hinbox : pool.inbox = ticket :: rest) : (pool.withoutFirst rest).GoesOn where
  unstopped := hpool.unstopped
  held := hpool.held
  fits := by
    have hfits := hpool.fits
    have hgranted := countP_grantFirst_le pool.senders
    rw [hinbox, List.length_cons, granted] at hfits
    change rest.length + (grantFirst pool.senders).countP Sender.granted ≤ pool.capacity
    omega
  full sender hsender hwaits := by
    have hold := mem_of_mem_grantFirst hsender hwaits
    have hfull := hpool.full sender hold hwaits
    have hgranted := countP_grantFirst hold hwaits
    rw [hinbox, List.length_cons, granted] at hfull
    change rest.length + (grantFirst pool.senders).countP Sender.granted = pool.capacity
    omega
  manned _ := hpool.manned (not_spent_of_inbox hinbox)

theorem granted_eraseIdx {index : Nat} {sender : Sender}
    (hsender : pool.senders[index]? = some sender) (hgranted : sender.granted = true) :
    pool.granted = (pool.senders.eraseIdx index).countP Sender.granted + 1 := by
  obtain ⟨hindex, rfl⟩ := List.getElem?_eq_some_iff.mp hsender
  have hcount := (List.getElem_cons_eraseIdx_perm hindex).countP_eq Sender.granted
  rw [List.countP_cons_of_pos hgranted] at hcount
  exact hcount.symm

/-- A granted place is filled. -/
theorem GoesOn.enter (hpool : pool.GoesOn) {index : Nat} {sender : Sender} {ids : List RunId}
    (hsender : pool.senders[index]? = some sender) (hgranted : sender.granted = true) :
    ({ pool with
        senders := pool.senders.eraseIdx index
        inbox := pool.inbox ++ [sender.ticket]
        accepted := ids } : Pool σ).GoesOn where
  unstopped := hpool.unstopped
  held := hpool.held
  fits := by
    have hfits := hpool.fits
    rw [granted_eraseIdx hsender hgranted] at hfits
    change (pool.inbox ++ [sender.ticket]).length +
      (pool.senders.eraseIdx index).countP Sender.granted ≤ pool.capacity
    rw [List.length_append, List.length_singleton]
    omega
  full other hother hwaits := by
    have hfull := hpool.full other (List.mem_of_mem_eraseIdx hother) hwaits
    rw [granted_eraseIdx hsender hgranted] at hfull
    change (pool.inbox ++ [sender.ticket]).length +
      (pool.senders.eraseIdx index).countP Sender.granted = pool.capacity
    rw [List.length_append, List.length_singleton]
    omega
  manned _ := hpool.manned (not_spent_of_sender hsender)

theorem Moves.goesOn {action : Inner} (hmove : Moves setup pool action next)
    (hpool : pool.GoesOn) : next.GoesOn := by
  cases hmove with
  | @look index hworker =>
    rw [hpool.unstopped]
    exact hpool.setWorker index _ (nomatch ·)
  | @take index ticket rest hworker hinbox =>
    exact (hpool.withoutFirst hinbox).setWorker index _ (nomatch ·)
  | stop hworker hsignal =>
    rw [signalled, hpool.unstopped, hpool.held] at hsignal
    contradiction
  | @hangUp index hworker hinbox hquiet =>
    apply hpool.setWorker index
    intro _
    cases hclosed : pool.closed with
    | true => exact hpool.spent_of_closed hclosed
    | false =>
      rw [hclosed, Bool.false_and, Bool.or_false] at hquiet
      simp only [isOpen, Bool.not_eq_true', Bool.or_eq_false_iff, decide_eq_false_iff_not,
        Bool.not_eq_false', List.isEmpty_iff] at hquiet
      exact ⟨Nat.eq_zero_of_not_pos hquiet.1, hquiet.2, hinbox⟩
  | @work index ticket run after s hworker hstep =>
    have hset := hpool.setWorker index (.busy ticket after) (nomatch ·)
    exact ⟨hset.unstopped, hset.held, hset.fits, hset.full, hset.manned⟩
  | @report index ticket run hworker hover =>
    have hadd : (pool.addReport setup ticket run).GoesOn :=
      ⟨hpool.unstopped, hpool.held, hpool.fits, hpool.full, hpool.manned⟩
    exact hadd.setWorker index _ (nomatch ·)
  | @close index hworker =>
    have hspent := hpool.spent_of_through (List.mem_of_getElem? hworker) rfl
    have hset := hpool.setWorker index .draining fun _ ↦ hspent
    exact ⟨hset.unstopped, hset.held, hset.fits, hset.full,
      fun hunspent ↦ absurd hspent hunspent⟩
  | discard hworker hinbox =>
    have hrest := hpool.withoutFirst hinbox
    exact ⟨hrest.unstopped, hrest.held, hrest.fits, hrest.full, hrest.manned⟩
  | @exit index hworker hinbox =>
    have hspent := hpool.spent_of_through (List.mem_of_getElem? hworker) rfl
    exact hpool.setWorker index _ fun _ ↦ hspent
  | refuse hsender hclosed =>
    exact absurd (hpool.spent_of_closed hclosed) (not_spent_of_sender hsender)
  | enter hsender hopen hgranted => exact hpool.enter hsender hgranted

theorem submitters_pos_of_submit {ticket : Ticket}
    (h : pool.outer (.submit ticket) = some next) : 0 < pool.submitters := by
  unfold outer at h
  dsimp only at h
  split at h
  · next hsubmitters => exact hsubmitters
  · contradiction

theorem GoesOn.submit (hpool : pool.GoesOn) {ticket : Ticket} (hunspent : ¬ pool.Spent)
    (horder : Orders pool (.submit ticket) next) : next.GoesOn := by
  cases horder with
  | turnDown hclosed => exact absurd (hpool.spent_of_closed hclosed) hunspent
  | accept hopen hroom =>
    have hless : pool.inbox.length + pool.granted < pool.capacity := by
      unfold room at hroom
      unfold granted
      omega
    refine ⟨hpool.unstopped, hpool.held, ?_, ?_, fun _ ↦ hpool.manned hunspent⟩
    · change (pool.inbox ++ [ticket]).length + pool.granted ≤ pool.capacity
      rw [List.length_append, List.length_singleton]
      omega
    · intro sender hsender hwaits
      have hfull := hpool.full sender hsender hwaits
      omega
  | lineUp hopen hroom =>
    have hcount : (pool.senders ++ [Sender.mk ticket false]).countP Sender.granted =
        pool.granted := by
      rw [List.countP_append]
      rfl
    have hfull : pool.inbox.length + pool.granted = pool.capacity := by
      have hfits := hpool.fits
      unfold room at hroom
      unfold granted at hfits ⊢
      omega
    refine ⟨hpool.unstopped, hpool.held, ?_, ?_, fun _ ↦ hpool.manned hunspent⟩
    · rw [granted, hcount]
      exact hpool.fits
    · intro sender hsender hwaits
      rw [granted, hcount]
      exact hfull

theorem GoesOn.order (hpool : pool.GoesOn) {action : Outer} (h : pool.outer action = some next)
    (hgoes : (Action.outer action).stopsPool = false) : next.GoesOn := by
  have horder := outer_orders h
  cases action with
  | submit ticket =>
    exact hpool.submit (not_spent_of_submitters (submitters_pos_of_submit h)) horder
  | addSubmitter =>
    cases horder with
    | addSubmitter hsubmitters =>
      exact ⟨hpool.unstopped, hpool.held, hpool.fits, hpool.full,
        fun _ ↦ hpool.manned (not_spent_of_submitters hsubmitters)⟩
  | dropSubmitter =>
    cases horder with
    | dropSubmitter hsubmitters =>
      exact ⟨hpool.unstopped, hpool.held, hpool.fits, hpool.full,
        fun _ ↦ hpool.manned (not_spent_of_submitters hsubmitters)⟩
  | requestShutdown => contradiction
  | dropHandle => contradiction
  | cancel =>
    cases horder with
    | cancel => exact ⟨hpool.unstopped, hpool.held, hpool.fits, hpool.full, hpool.manned⟩

theorem GoesOn.act (hpool : pool.GoesOn) {action : Action} (h : pool.act setup action = some next)
    (hgoes : action.stopsPool = false) : next.GoesOn := by
  cases action with
  | inner action => exact (inner_moves h).goesOn hpool
  | outer action => exact hpool.order h hgoes
  | pass later =>
    cases act_acts h with
    | pass => exact ⟨hpool.unstopped, hpool.held, hpool.fits, hpool.full, hpool.manned⟩

/-! ## Pools at rest -/

theorem Quiet.workerMove_eq_none (hquiet : pool.Quiet setup) {index : Nat} {worker : Worker}
    (hworker : pool.workers[index]? = some worker) (move : Move) :
    pool.workerMove setup index worker move = none := by
  have hnone := hquiet (.worker index move)
  rwa [inner, hworker] at hnone

/-- A worker of a pool at rest has a run in progress, has left, or waits at the empty inbox and is
not told to stop. -/
theorem Quiet.worker_cases (hquiet : pool.Quiet setup) {worker : Worker}
    (hworker : worker ∈ pool.workers) : worker.isRunning = true ∨ worker = .gone ∨
      worker = .listening ∧ pool.inbox = [] ∧ pool.signalled = false := by
  obtain ⟨index, hindex⟩ := List.mem_iff_getElem?.mp hworker
  have hmove := hquiet.workerMove_eq_none hindex
  cases worker with
  | arriving =>
    have hlook := hmove .look
    simp only [workerMove] at hlook
    contradiction
  | listening =>
    have hinbox : pool.inbox = [] := by
      cases hinbox : pool.inbox with
      | nil => rfl
      | cons ticket rest =>
        have htake := hmove .take
        simp only [workerMove, hinbox] at htake
        contradiction
    have hsignal : pool.signalled = false := by
      cases hsignal : pool.signalled with
      | false => rfl
      | true =>
        have hstop := hmove .stop
        simp [workerMove, hsignal] at hstop
    exact .inr (.inr ⟨rfl, hinbox, hsignal⟩)
  | busy ticket run =>
    have hreport := hmove .report
    cases hover : run.isOver with
    | false => exact .inl (by simp [Worker.isRunning, hover])
    | true => simp [workerMove, hover] at hreport
  | leaving =>
    have hclose := hmove .close
    simp only [workerMove] at hclose
    contradiction
  | draining =>
    cases hinbox : pool.inbox with
    | nil =>
      have hexit := hmove .exit
      simp only [workerMove, hinbox] at hexit
      contradiction
    | cons ticket rest =>
      have hdiscard := hmove .discard
      simp only [workerMove, hinbox] at hdiscard
      contradiction
  | gone => exact .inr (.inl rfl)

/-- At rest no submission has a place in an open inbox that it has not taken. -/
theorem Quiet.ungranted (hquiet : pool.Quiet setup) (hopen : pool.closed = false) {sender : Sender}
    (hsender : sender ∈ pool.senders) : sender.granted = false := by
  obtain ⟨index, hindex⟩ := List.mem_iff_getElem?.mp hsender
  have hnone := hquiet (.sender index)
  simpa [inner, senderMove, hindex, hopen] using hnone

/-- While a payload is queued no worker of a pool at rest is idle, and none has left. -/
theorem GoesOn.isRunning (hpool : pool.GoesOn) (hquiet : pool.Quiet setup)
    (hinbox : pool.inbox ≠ []) {worker : Worker} (hworker : worker ∈ pool.workers) :
    worker.isRunning = true := by
  obtain ⟨ticket, rest, hfull⟩ := List.exists_cons_of_ne_nil hinbox
  have hstays : worker.isThrough = false :=
    (hpool.manned (not_spent_of_inbox hfull)).2 worker hworker
  rcases hquiet.worker_cases hworker with hrunning | rfl | ⟨_, hempty, _⟩
  · exact hrunning
  · contradiction
  · exact absurd hempty hinbox

/-- A submission waits at rest only while the inbox is full. -/
theorem GoesOn.length_inbox (hpool : pool.GoesOn) (hquiet : pool.Quiet setup)
    (hsenders : pool.senders ≠ []) : pool.inbox.length = pool.capacity := by
  have hopen : pool.closed = false := (hpool.manned fun hspent ↦ hsenders hspent.2.1).1
  have hwaits : ∀ sender ∈ pool.senders, sender.granted = false :=
    fun _ hsender ↦ hquiet.ungranted hopen hsender
  obtain ⟨sender, hsender⟩ := List.exists_mem_of_ne_nil _ hsenders
  have hgranted : pool.granted = 0 := by
    rw [granted, List.countP_eq_zero]
    intro sender hsender
    simp [hwaits sender hsender]
  have hfull := hpool.full sender hsender (hwaits sender hsender)
  omega

/-- While a worker of a pool at rest is idle, nothing is queued and no submission waits. -/
theorem GoesOn.idle (hpool : pool.GoesOn) (hquiet : pool.Quiet setup) {worker : Worker}
    (hworker : worker ∈ pool.workers) (hidle : worker.isRunning = false) :
    pool.inbox = [] ∧ pool.senders = [] := by
  have hinbox : pool.inbox = [] := by
    by_contra hqueued
    have hrunning := hpool.isRunning hquiet hqueued hworker
    rw [hidle] at hrunning
    contradiction
  refine ⟨hinbox, ?_⟩
  by_contra hwaiting
  have hfull := hpool.length_inbox hquiet hwaiting
  have hplaces := List.length_pos_of_mem hworker
  rw [hinbox, List.length_nil, capacity] at hfull
  omega

/-! ## The order of payloads -/

/-- What is seen at the actions of a history: at each one the pool before it and the pool after
it. -/
def seen {α : Type} (see : Pool σ → Action → Pool σ → List α) (setup : Setup σ) :
    List Action → Pool σ → List α
  | [], _ => []
  | action :: rest, pool =>
    match pool.act setup action with
    | some next => see pool action next ++ seen see setup rest next
    | none => []

/-- What stands behind the payloads that stood in the inbox before. -/
def entering (pool : Pool σ) (_ : Action) (next : Pool σ) : List Ticket :=
  next.inbox.drop pool.inbox.length

/-- The payload of a worker that has just taken one. -/
def starting (_ : Pool σ) (action : Action) (next : Pool σ) : List Ticket :=
  match action with
  | .inner (.worker index .take) => ((next.workers[index]?).bind Worker.ticket?).toList
  | _ => []

/-- The payload that has just been cleared out of the inbox. -/
def discarding (pool : Pool σ) (action : Action) (_ : Pool σ) : List Ticket :=
  match action with
  | .inner (.worker _ .discard) => pool.inbox.head?.toList
  | _ => []

theorem seen_cons {α : Type} (see : Pool σ → Action → Pool σ → List α) {action : Action}
    (rest : List Action) (h : pool.act setup action = some next) :
    seen see setup (action :: rest) pool = see pool action next ++ seen see setup rest next := by
  simp only [seen, h]

/-- The payloads that entered the inbox in the course of a history, in order. -/
def entered (setup : Setup σ) : List Action → Pool σ → List Ticket := seen entering setup

/-- The payloads whose runs were started in the course of a history, in order. -/
def started (setup : Setup σ) : List Action → Pool σ → List Ticket := seen starting setup

/-- The payloads that were cleared out in the course of a history, in order. -/
def discarded (setup : Setup σ) : List Action → Pool σ → List Ticket := seen discarding setup

theorem starting_take {index : Nat} {worker : Worker}
    (hworker : pool.workers[index]? = some worker) (ticket : Ticket) (run : Run)
    (rest : List Ticket) :
    starting pool (.inner (.worker index .take))
      ((pool.withoutFirst rest).setWorker index (.busy ticket run)) = [ticket] := by
  obtain ⟨hindex, _⟩ := List.getElem?_eq_some_iff.mp hworker
  simp [starting, Pool.setWorker, Pool.withoutFirst, Worker.ticket?, hindex]

/-- The first payload of the inbox, and no other, may leave it. -/
theorem Acts.entering_eq {action : Action} (hact : Acts setup pool action next) :
    pool.inbox ++ entering pool action next =
      starting pool action next ++ discarding pool action next ++ next.inbox := by
  have hsame (action : Action) (hinbox : next.inbox = pool.inbox)
      (hleaving : starting pool action next ++ discarding pool action next = []) :
      pool.inbox ++ entering pool action next =
        starting pool action next ++ discarding pool action next ++ next.inbox := by
    rw [hleaving, entering, hinbox, List.drop_length, List.append_nil, List.nil_append]
  have hadded (action : Action) (ticket : Ticket) (hinbox : next.inbox = pool.inbox ++ [ticket])
      (hleaving : starting pool action next ++ discarding pool action next = []) :
      pool.inbox ++ entering pool action next =
        starting pool action next ++ discarding pool action next ++ next.inbox := by
    rw [hleaving, entering, hinbox, List.drop_left, List.nil_append]
  have hrest (ticket : Ticket) (rest : List Ticket) :
      ticket :: rest ++ rest.drop (rest.length + 1) = ticket :: rest := by
    rw [List.drop_of_length_le (Nat.le_succ _), List.append_nil]
  cases hact with
  | move hmove =>
    cases hmove with
    | @take index ticket rest hworker hinbox =>
      rw [starting_take hworker, entering, hinbox]
      exact hrest ticket rest
    | @enter index sender hsender hopen hgranted => exact hadded _ sender.ticket rfl rfl
    | @discard index ticket rest hworker hinbox =>
      simp only [starting, discarding, entering, hinbox]
      exact hrest ticket rest
    | _ => exact hsame _ rfl rfl
  | order horder =>
    cases horder with
    | @accept ticket hopen hroom => exact hadded _ ticket rfl rfl
    | _ => exact hsame _ rfl rfl
  | pass hlater => exact hsame _ rfl rfl

/-- A pool that nobody has stopped clears nothing out. -/
theorem GoesOn.discarding_eq_nil (hpool : pool.GoesOn) {action : Action}
    (hact : Acts setup pool action next) : discarding pool action next = [] := by
  cases hact with
  | move hmove =>
    cases hmove with
    | discard hworker hinbox =>
      have hspent := hpool.spent_of_through (List.mem_of_getElem? hworker) rfl
      exact absurd hspent (not_spent_of_inbox hinbox)
    | _ => rfl
  | _ => rfl

/-- A pool that nobody has stopped goes on, and what entered its inbox has been started in this
order up to what is still there. -/
theorem perform_goesOn {actions : List Action} (h : perform setup actions pool = some last)
    (hgoes : ∀ action ∈ actions, action.stopsPool = false) (hpool : pool.GoesOn) :
    last.GoesOn ∧
      pool.inbox ++ entered setup actions pool = started setup actions pool ++ last.inbox := by
  induction actions generalizing pool with
  | nil =>
    cases h
    exact ⟨hpool, List.append_nil _⟩
  | cons action rest ih =>
    obtain ⟨next, hact, hrest⟩ := Option.bind_eq_some_iff.mp h
    have hnext := hpool.act hact (hgoes action List.mem_cons_self)
    obtain ⟨hlast, horder⟩ :=
      ih hrest (fun action haction ↦ hgoes action (List.mem_cons_of_mem _ haction)) hnext
    refine ⟨hlast, ?_⟩
    have hentered : entered setup (action :: rest) pool =
        entering pool action next ++ entered setup rest next := seen_cons entering rest hact
    have hstarted : started setup (action :: rest) pool =
        starting pool action next ++ started setup rest next := seen_cons starting rest hact
    calc pool.inbox ++ entered setup (action :: rest) pool
      _ = (pool.inbox ++ entering pool action next) ++ entered setup rest next := by
        rw [hentered, List.append_assoc]
      _ = starting pool action next ++ (next.inbox ++ entered setup rest next) := by
        rw [(act_acts hact).entering_eq, hpool.discarding_eq_nil (act_acts hact),
          List.append_nil, List.append_assoc]
      _ = started setup (action :: rest) pool ++ last.inbox := by
        rw [horder, hstarted, List.append_assoc]

theorem Acts.length_workers {action : Action} (hact : Acts setup pool action next) :
    next.workers.length = pool.workers.length := by
  cases hact with
  | move hmove => cases hmove <;> first | rfl | exact List.length_set
  | order horder => cases horder <;> rfl
  | pass hlater => rfl

theorem perform_length_workers {actions : List Action}
    (h : perform setup actions pool = some last) : last.workers.length = pool.workers.length :=
  perform_induction (motive := fun later ↦ later.workers.length = pool.workers.length)
    (fun _ _ _ hact hlength ↦ hact.length_workers.trans hlength) h rfl

theorem workers_start_pos (n : Nat) (s : σ) : 0 < (start n s).workers.length := by
  rw [start, List.length_replicate, workerCount]
  exact Nat.lt_of_lt_of_le Nat.zero_lt_one (Nat.le_max_left _ _)

/-- As long as a pool for `n` workers is neither told to stop nor let go of: its payloads are
started in the order in which they entered the inbox; and whenever nothing can happen before the
clock moves, at most as many runs as there are workers are in progress, exactly as many if anything
is queued, at most four payloads for each worker are queued, and exactly as many if a submission
waits. -/
theorem pool_is_fifo_and_work_conserving (setup : Setup σ) (n : Nat) (s : σ)
    (actions : List Action) (pool : Pool σ)
    (hperform : perform setup actions (start n s) = some pool)
    (hgoes : ∀ action ∈ actions, action.stopsPool = false) :
    entered setup actions (start n s) = started setup actions (start n s) ++ pool.inbox ∧
      (pool.Quiet setup →
        pool.runsInProgress ≤ max 1 (min n 1024) ∧
        (pool.inbox ≠ [] → pool.runsInProgress = max 1 (min n 1024)) ∧
        pool.inbox.length ≤ 4 * max 1 (min n 1024) ∧
        (pool.senders ≠ [] → pool.inbox.length = 4 * max 1 (min n 1024))) := by
  obtain ⟨hpool, horder⟩ := perform_goesOn hperform hgoes (goesOn_start n s)
  have hworkers : pool.workers.length = max 1 (min n 1024) :=
    perform_induction (motive := fun pool ↦ pool.workers.length = max 1 (min n 1024))
      (fun _ _ _ hact hlength ↦ hact.length_workers.trans hlength) hperform
      List.length_replicate
  have hcapacity : pool.capacity = 4 * max 1 (min n 1024) := by rw [capacity, hworkers]
  refine ⟨horder, fun hquiet ↦ ⟨?_, ?_, ?_, ?_⟩⟩
  · rw [← hworkers]
    exact List.countP_le_length
  · intro hinbox
    rw [← hworkers, runsInProgress, List.countP_eq_length]
    intro worker hworker
    exact hpool.isRunning hquiet hinbox hworker
  · rw [← hcapacity]
    exact Nat.le_of_add_right_le hpool.fits
  · intro hsenders
    rw [← hcapacity]
    exact hpool.length_inbox hquiet hsenders

/-- The fixed order of actions stops exactly where nothing can happen. -/
theorem quiet_of_next?_eq_none (hnext : pool.next? setup = none) : pool.Quiet setup := by
  unfold next? at hnext
  split at hnext
  · contradiction
  · next hsenders =>
    intro action
    cases action with
    | worker index move =>
      cases hworker : pool.workers[index]? with
      | none => rw [inner, hworker]; rfl
      | some worker =>
        have hmem : (worker, index) ∈ pool.workers.zipIdx :=
          List.mem_zipIdx_iff_getElem?.mpr hworker
        have hmoves := List.findSome?_eq_none_iff.mp hnext (worker, index) hmem
        have hmove : move ∈ moves := by cases move <;> decide
        rw [inner, hworker]
        exact List.findSome?_eq_none_iff.mp hmoves move hmove
    | sender index =>
      by_cases hindex : index < pool.senders.length
      · exact List.findSome?_eq_none_iff.mp hsenders index (List.mem_range.mpr hindex)
      · rw [inner, senderMove, List.getElem?_eq_none (Nat.le_of_not_lt hindex)]
        rfl

/-- Stops after a failure, over a link that answers after ten seconds. -/
def slowSetup : Setup Unit where
  terms := ⟨"", Span.ofSeconds 30, fun _ ↦ .stop "", fun k ↦ ⟨Ulid.ofNat k⟩, .usual⟩
  link := fun _ _ ↦ (⟨.ok (.success 200 []), Span.ofSeconds 10⟩, ())
  clock := fun _ ↦ ⟨0, 0⟩

/-- The only worker runs one payload, four are queued and one submission waits. -/
def crowdedHistory : List Action :=
  let submit (k : Nat) : Action := .outer (.submit ⟨⟨Ulid.ofNat k⟩, "{}".toUTF8.toList⟩)
  let worker (move : Move) : Action := .inner (.worker 0 move)
  [submit 1, worker .look, submit 2, worker .take, submit 3, submit 4, worker .work, submit 5,
    submit 6]

theorem pool_is_fifo_and_work_conserving_crowded :
    ∃ pool, perform slowSetup crowdedHistory (start 0 ()) = some pool ∧
      (∀ action ∈ crowdedHistory, action.stopsPool = false) ∧ pool.Quiet slowSetup ∧
      pool.runsInProgress = 1 ∧ pool.inbox.length = 4 ∧ pool.senders.length = 1 ∧
      entered slowSetup crowdedHistory (start 0 ()) =
        started slowSetup crowdedHistory (start 0 ()) ++ pool.inbox := by
  have hany : ((perform slowSetup crowdedHistory (start 0 ())).any fun pool ↦
      (pool.next? slowSetup).isNone && decide (pool.inbox.length = 4) &&
        decide (pool.senders.length = 1)) = true := by decide +kernel
  obtain ⟨pool, hperform, hpool⟩ := (Option.any_eq_true _ _).mp hany
  obtain ⟨hpool, hsenders⟩ := Bool.and_eq_true_iff.mp hpool
  obtain ⟨hnext, hinbox⟩ := Bool.and_eq_true_iff.mp hpool
  have hinbox := of_decide_eq_true hinbox
  have hsenders := of_decide_eq_true hsenders
  have hgoes : ∀ action ∈ crowdedHistory, action.stopsPool = false := by
    simp [crowdedHistory, Action.stopsPool]
  have hquiet := quiet_of_next?_eq_none (Option.isNone_iff_eq_none.mp hnext)
  obtain ⟨horder, hload⟩ := pool_is_fifo_and_work_conserving slowSetup 0 () crowdedHistory pool
    hperform hgoes
  have hqueued : pool.inbox ≠ [] := by
    intro hempty
    rw [hempty] at hinbox
    contradiction
  exact ⟨pool, hperform, hgoes, hquiet, (hload hquiet).2.1 hqueued, hinbox, hsenders, horder⟩

end Pool
end Courier
