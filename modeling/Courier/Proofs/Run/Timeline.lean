import Courier.Proofs.Clock
import Courier.Run.Basic

/-!
# Timelines

When the calls of a run begin and end and where the run stops, from what the link does at each call.
Calls are counted from zero, and the attempt of call `k` has the number `k + 1`.  A run is not
mentioned here; `Courier.Proofs.Run.Course` shows that runs keep to their timelines.
-/

namespace Courier

structure Timeline where
  terms : Terms
  origin : Moment
  /-- What the link does at each call. -/
  steps : Nat → Step

namespace Timeline

def deadline (t : Timeline) : Moment := t.terms.clockRange.after t.origin t.terms.timeout

/-- What the strategy says to a reply at the end of a call. -/
def decision (t : Timeline) (k : Nat) (ended : Moment) (reply : Reply) : Decision :=
  t.terms.decide ⟨k + 1, ended - t.origin, some reply⟩

/-- The wait that the strategy asks for at the end of a call, if it does. -/
def delay (t : Timeline) (k : Nat) (ended : Moment) : Span :=
  match (t.steps k).answer with
  | .ok reply =>
    match t.decision k ended reply with
    | .retry delay _ => delay
    | .stop _ => 0
  | .error _ => 0

/-- No single wait is longer than thirty years. -/
def callStart (t : Timeline) : Nat → Moment
  | 0 => t.origin
  | k + 1 =>
    let ended := t.callStart k + Span.ceilMillis (t.steps k).latency
    ended + Span.ceilMillis (min (t.delay k ended) Span.thirtyYears)

def callEnd (t : Timeline) (k : Nat) : Moment :=
  t.callStart k + Span.ceilMillis (t.steps k).latency

def reply? (t : Timeline) (k : Nat) : Option Reply := (t.steps k).answer.toOption

/-- The last reply before a call. -/
def lastReply (t : Timeline) : Nat → Option Reply
  | 0 => none
  | k + 1 => t.reply? k

def record? (t : Timeline) (k : Nat) : Option Record :=
  (t.reply? k).map fun reply ↦
    Record.ofReply (t.terms.attemptId (k + 1)) (k + 1) reply (t.callEnd k - t.callStart k)

def calls (t : Timeline) (request : Request) (count : Nat) : List (Moment × Request) :=
  (List.range count).map fun k ↦ (t.callStart k, request)

def records (t : Timeline) (count : Nat) : List Record := (List.range count).filterMap t.record?

/-- How and when a run ends that ends with call `k`; otherwise call `k + 1` follows. -/
def stop? (t : Timeline) (k : Nat) : Option (Ending × Moment) :=
  let ended := t.callEnd k
  let timedOut (last : Option Reply) : Ending :=
    .timedOut t.terms.timeout (k + 1) (last.map Reply.summary)
  if t.deadline ≤ ended then some (timedOut (t.lastReply k), Span.ceilMillis t.deadline)
  else
    match (t.steps k).answer with
    | .error error => some (.fatal error, ended)
    | .ok (.success _ body) => some (.completed (Utf8.lossy body), ended)
    | .ok reply =>
      match t.decision k ended reply with
      | .stop _ => some (.exhausted reply.summary, ended)
      | .retry delay _ =>
        if t.deadline ≤ ended + delay then some (timedOut (some reply), ended)
        else if t.deadline ≤ t.callStart (k + 1) then
          some (timedOut (some reply), Span.ceilMillis t.deadline)
        else none

/-- The number of calls that end before the deadline, among those up to call `k`. -/
def answered (t : Timeline) (k : Nat) : Nat := if t.deadline ≤ t.callEnd k then k else k + 1

/-- The run does not end with any call before call `k`. -/
def Reaches (t : Timeline) (k : Nat) : Prop := ∀ j < k, t.stop? j = none

/-- Call `k` fails and is followed by a wait that seems to end in time. -/
structure Waits (t : Timeline) (k : Nat) (reply : Reply) (delay : Span) : Prop where
  answer : (t.steps k).answer = .ok reply
  failure : reply.isFailure = true
  decision : ∃ reason, t.decision k (t.callEnd k) reply = .retry delay reason
  short : t.callEnd k + delay < t.deadline

variable {t : Timeline} {k m : Nat} {request : Request} {reply : Reply} {delay : Span}

/-! ## Order in time -/

theorem callStart_succ (t : Timeline) (k : Nat) : t.callStart (k + 1) =
    t.callEnd k + Span.ceilMillis (min (t.delay k (t.callEnd k)) Span.thirtyYears) := rfl

theorem callStart_le_callEnd (t : Timeline) (k : Nat) : t.callStart k ≤ t.callEnd k :=
  Nat.le_add_right _ _

theorem callEnd_le_callStart_succ (t : Timeline) (k : Nat) : t.callEnd k ≤ t.callStart (k + 1) :=
  Nat.le_add_right _ _

theorem callStart_mono (t : Timeline) : Monotone t.callStart :=
  monotone_nat_of_le_succ fun k ↦
    (t.callStart_le_callEnd k).trans (t.callEnd_le_callStart_succ k)

theorem callEnd_mono (t : Timeline) : Monotone t.callEnd :=
  monotone_nat_of_le_succ fun k ↦
    (t.callEnd_le_callStart_succ k).trans (t.callStart_le_callEnd (k + 1))

theorem isWhole_callEnd_of (hstart : Span.IsWhole (t.callStart k)) :
    Span.IsWhole (t.callEnd k) :=
  Span.isWhole_add hstart (Span.isWhole_ceilMillis _)

theorem isWhole_callStart (horigin : Span.IsWhole t.origin) (k : Nat) :
    Span.IsWhole (t.callStart k) := by
  induction k with
  | zero => exact horigin
  | succ k ih => exact Span.isWhole_add (isWhole_callEnd_of ih) (Span.isWhole_ceilMillis _)

theorem isWhole_callEnd (horigin : Span.IsWhole t.origin) (k : Nat) :
    Span.IsWhole (t.callEnd k) :=
  isWhole_callEnd_of (isWhole_callStart horigin k)

/-! ## What has been taken down -/

theorem length_calls : (t.calls request m).length = m := by simp [calls]

theorem calls_succ (t : Timeline) (request : Request) (k : Nat) :
    t.calls request (k + 1) = t.calls request k ++ [(t.callStart k, request)] := by
  simp [calls, List.range_succ]

theorem records_succ (t : Timeline) (k : Nat) :
    t.records (k + 1) = t.records k ++ (t.record? k).toList := by
  rw [records, records, List.range_succ, List.filterMap_append, List.append_cancel_left_eq]
  cases hrecord : t.record? k with
  | none => exact List.filterMap_cons_none hrecord
  | some record => exact List.filterMap_cons_some hrecord

theorem reply?_of_ok (hanswer : (t.steps k).answer = .ok reply) : t.reply? k = some reply := by
  rw [reply?, hanswer]
  rfl

theorem records_succ_of_ok (hanswer : (t.steps k).answer = .ok reply) :
    t.records (k + 1) = t.records k ++
      [Record.ofReply (t.terms.attemptId (k + 1)) (k + 1) reply (t.callEnd k - t.callStart k)] := by
  rw [records_succ, record?, reply?_of_ok hanswer]
  rfl

theorem records_succ_of_error {error : String} (hanswer : (t.steps k).answer = .error error) :
    t.records (k + 1) = t.records k := by
  rw [records_succ, record?, reply?, hanswer]
  exact List.append_nil _

/-! ## Stops -/

theorem Waits.delay_eq (hwaits : t.Waits k reply delay) : t.delay k (t.callEnd k) = delay := by
  obtain ⟨reason, hdecision⟩ := hwaits.decision
  simp only [Timeline.delay, hwaits.answer, hdecision]

theorem Waits.early (hwaits : t.Waits k reply delay) : t.callEnd k < t.deadline :=
  lt_of_le_of_lt (Nat.le_add_right _ _) hwaits.short

theorem stop?_of_late (hlate : t.deadline ≤ t.callEnd k) : t.stop? k =
    some (.timedOut t.terms.timeout (k + 1) ((t.lastReply k).map Reply.summary),
      Span.ceilMillis t.deadline) :=
  if_pos hlate

theorem stop?_of_error {error : String} (hearly : t.callEnd k < t.deadline)
    (hanswer : (t.steps k).answer = .error error) :
    t.stop? k = some (.fatal error, t.callEnd k) := by
  simp only [stop?, not_le.mpr hearly, if_false, hanswer]

theorem stop?_of_success {status : Nat} {body : Bytes} (hearly : t.callEnd k < t.deadline)
    (hanswer : (t.steps k).answer = .ok (.success status body)) :
    t.stop? k = some (.completed (Utf8.lossy body), t.callEnd k) := by
  simp only [stop?, not_le.mpr hearly, if_false, hanswer]

section Failure

variable {reason : String} (hanswer : (t.steps k).answer = .ok reply)
  (hfailure : reply.isFailure = true)
include hanswer hfailure

theorem stop?_of_stop (hearly : t.callEnd k < t.deadline)
    (hdecision : t.decision k (t.callEnd k) reply = .stop reason) :
    t.stop? k = some (.exhausted reply.summary, t.callEnd k) := by
  cases reply with
  | success => contradiction
  | _ => simp only [stop?, not_le.mpr hearly, if_false, hanswer, hdecision]

theorem stop?_of_long (hearly : t.callEnd k < t.deadline)
    (hdecision : t.decision k (t.callEnd k) reply = .retry delay reason)
    (hlong : t.deadline ≤ t.callEnd k + delay) :
    t.stop? k =
      some (.timedOut t.terms.timeout (k + 1) (some reply.summary), t.callEnd k) := by
  cases reply with
  | success => contradiction
  | _ =>
    simp only [stop?, not_le.mpr hearly, if_false, hanswer, hdecision, hlong, if_true]
    rfl

end Failure

theorem Waits.stop?_eq (hwaits : t.Waits k reply delay) : t.stop? k =
    if t.deadline ≤ t.callStart (k + 1) then
      some (.timedOut t.terms.timeout (k + 1) (some reply.summary), Span.ceilMillis t.deadline)
    else none := by
  obtain ⟨reason, hdecision⟩ := hwaits.decision
  have hfailure := hwaits.failure
  have hanswer := hwaits.answer
  cases reply with
  | success => contradiction
  | _ =>
    simp only [stop?, not_le.mpr hwaits.early, not_le.mpr hwaits.short, if_false, hanswer,
      hdecision]
    rfl

/-- What can come of call `k`: each way to stop there, and going on to the next call. -/
inductive Outcome (t : Timeline) (k : Nat) : Option (Ending × Moment) → Prop
  | late (hlate : t.deadline ≤ t.callEnd k) : Outcome t k
      (some (.timedOut t.terms.timeout (k + 1) ((t.lastReply k).map Reply.summary),
        Span.ceilMillis t.deadline))
  | error {error : String} (hearly : t.callEnd k < t.deadline)
      (hanswer : (t.steps k).answer = .error error) :
      Outcome t k (some (.fatal error, t.callEnd k))
  | success {status : Nat} {body : Bytes} (hearly : t.callEnd k < t.deadline)
      (hanswer : (t.steps k).answer = .ok (.success status body)) :
      Outcome t k (some (.completed (Utf8.lossy body), t.callEnd k))
  | stop {reply : Reply} {reason : String} (hearly : t.callEnd k < t.deadline)
      (hanswer : (t.steps k).answer = .ok reply) (hfailure : reply.isFailure = true)
      (hdecision : t.decision k (t.callEnd k) reply = .stop reason) :
      Outcome t k (some (.exhausted reply.summary, t.callEnd k))
  | long {reply : Reply} {delay : Span} {reason : String} (hearly : t.callEnd k < t.deadline)
      (hanswer : (t.steps k).answer = .ok reply) (hfailure : reply.isFailure = true)
      (hdecision : t.decision k (t.callEnd k) reply = .retry delay reason)
      (hlong : t.deadline ≤ t.callEnd k + delay) :
      Outcome t k
        (some (.timedOut t.terms.timeout (k + 1) (some reply.summary), t.callEnd k))
  | overslept {reply : Reply} {delay : Span} (hwaits : t.Waits k reply delay)
      (hlate : t.deadline ≤ t.callStart (k + 1)) :
      Outcome t k (some (.timedOut t.terms.timeout (k + 1) (some reply.summary),
        Span.ceilMillis t.deadline))
  | next {reply : Reply} {delay : Span} (hwaits : t.Waits k reply delay)
      (hearly : t.callStart (k + 1) < t.deadline) : Outcome t k none

theorem outcome (t : Timeline) (k : Nat) : t.Outcome k (t.stop? k) := by
  rcases le_or_gt t.deadline (t.callEnd k) with hlate | hearly
  · rw [stop?_of_late hlate]
    exact .late hlate
  cases hanswer : (t.steps k).answer with
  | error error =>
    rw [stop?_of_error hearly hanswer]
    exact .error hearly hanswer
  | ok reply =>
    cases hfailure : reply.isFailure with
    | false =>
      cases reply with
      | success status body =>
        rw [stop?_of_success hearly hanswer]
        exact .success hearly hanswer
      | _ => contradiction
    | true =>
      cases hdecision : t.decision k (t.callEnd k) reply with
      | stop reason =>
        rw [stop?_of_stop hanswer hfailure hearly hdecision]
        exact .stop hearly hanswer hfailure hdecision
      | retry delay reason =>
        rcases le_or_gt t.deadline (t.callEnd k + delay) with hlong | hshort
        · rw [stop?_of_long hanswer hfailure hearly hdecision hlong]
          exact .long hearly hanswer hfailure hdecision hlong
        · have hwaits : t.Waits k reply delay := ⟨hanswer, hfailure, ⟨reason, hdecision⟩, hshort⟩
          rw [hwaits.stop?_eq]
          split
          · next hlate => exact .overslept hwaits hlate
          · next hnext => exact .next hwaits (not_le.mp hnext)

theorem stop?_eq_none_iff : t.stop? k = none ↔
    ∃ reply delay, t.Waits k reply delay ∧ t.callStart (k + 1) < t.deadline := by
  constructor
  · intro hnone
    have houtcome := t.outcome k
    rw [hnone] at houtcome
    cases houtcome with
    | next hwaits hearly => exact ⟨_, _, hwaits, hearly⟩
  · rintro ⟨reply, delay, hwaits, hearly⟩
    rw [hwaits.stop?_eq, if_neg (not_le.mpr hearly)]

/-- A stop is at the end of the call or at the deadline. -/
theorem finishedAt_of_stop {ending : Ending} {finishedAt : Moment}
    (hstop : t.stop? k = some (ending, finishedAt)) :
    finishedAt = Span.ceilMillis t.deadline ∨ finishedAt = t.callEnd k := by
  have houtcome := t.outcome k
  rw [hstop] at houtcome
  cases houtcome with
  | late | overslept => exact .inl rfl
  | _ => exact .inr rfl

/-- A stop in the wait after a call is at the deadline. -/
theorem Waits.finishedAt_of_stop (hwaits : t.Waits k reply delay) {ending : Ending}
    {finishedAt : Moment} (hstop : t.stop? k = some (ending, finishedAt)) :
    finishedAt = Span.ceilMillis t.deadline := by
  rw [hwaits.stop?_eq] at hstop
  split at hstop
  · cases hstop
    rfl
  · contradiction

theorem Reaches.succ (hreach : t.Reaches k) (hnone : t.stop? k = none) : t.Reaches (k + 1) := by
  intro j hj
  rcases Nat.lt_succ_iff_lt_or_eq.mp hj with hj | rfl
  · exact hreach j hj
  · exact hnone

/-- A call that is reached after another begins before the deadline. -/
theorem Reaches.callStart_lt (hreach : t.Reaches (k + 1)) : t.callStart (k + 1) < t.deadline := by
  obtain ⟨_, _, _, hearly⟩ := stop?_eq_none_iff.mp (hreach k (Nat.lt_succ_self k))
  exact hearly

/-- There is at most one stop. -/
theorem Reaches.eq_of_stop (hreach : t.Reaches k) (hm : t.Reaches m)
    (hstop : (t.stop? k).isSome = true) (hstop' : (t.stop? m).isSome = true) : k = m := by
  rcases lt_trichotomy k m with hlt | heq | hgt
  · rw [hm k hlt] at hstop
    contradiction
  · exact heq
  · rw [hreach m hgt] at hstop'
    contradiction

end Timeline

end Courier
