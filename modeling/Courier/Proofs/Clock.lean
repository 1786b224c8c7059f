import Courier.Run.Watch
import Mathlib.Order.Lattice

/-!
# The clock

The clock stands at whole milliseconds only.  Rounding up to one is the same as waiting for the first
of them, so a wait that starts at one takes the rounded length, and a moment of the clock has reached
a deadline as soon as it has reached the rounded one.
-/

namespace Courier

namespace Span

def IsWhole (s : Span) : Prop := s % 1000000 = 0

theorem isWhole_zero : IsWhole 0 := rfl

theorem isWhole_ceilMillis (s : Span) : IsWhole (ceilMillis s) := Nat.mul_mod_left _ _

theorem isWhole_add {s t : Span} (hs : IsWhole s) (ht : IsWhole t) : IsWhole (s + t) := by
  unfold IsWhole at *
  lia

theorem le_ceilMillis (s : Span) : s ≤ ceilMillis s := by
  unfold ceilMillis
  lia

theorem ceilMillis_le_iff {s now : Span} (hnow : IsWhole now) : ceilMillis s ≤ now ↔ s ≤ now := by
  unfold IsWhole at hnow
  unfold ceilMillis
  lia

theorem ceilMillis_of_isWhole {s : Span} (hs : IsWhole s) : ceilMillis s = s :=
  le_antisymm ((ceilMillis_le_iff hs).mpr le_rfl) (le_ceilMillis s)

theorem ceilMillis_add {now : Span} (hnow : IsWhole now) (s : Span) :
    ceilMillis (now + s) = now + ceilMillis s := by
  unfold IsWhole at hnow
  unfold ceilMillis
  lia

end Span

/-- The next stop of the clock is the rounded moment of the earliest alarm. -/
theorem nextMoment_spec {alarms : List Moment} {moment : Moment}
    (h : nextMoment alarms = some moment) :
    (∃ alarm ∈ alarms, moment = Span.ceilMillis alarm) ∧
      ∀ alarm ∈ alarms, moment ≤ Span.ceilMillis alarm := by
  induction alarms generalizing moment with
  | nil => contradiction
  | cons alarm rest ih =>
    unfold nextMoment at h
    split at h
    · next hrest =>
      cases h
      have hnil : rest = [] := by
        cases rest with
        | nil => rfl
        | cons other rest =>
          unfold nextMoment at hrest
          split at hrest <;> contradiction
      subst hnil
      simp
    · next other hrest =>
      cases h
      obtain ⟨⟨found, hfound, hother⟩, hleast⟩ := ih hrest
      constructor
      · rcases le_total (Span.ceilMillis alarm) other with hle | hle
        · exact ⟨alarm, List.mem_cons_self, min_eq_left hle⟩
        · exact ⟨found, List.mem_cons_of_mem _ hfound, (min_eq_right hle).trans hother⟩
      · intro candidate hcandidate
        rcases List.mem_cons.mp hcandidate with rfl | hcandidate
        · exact min_le_left _ _
        · exact le_trans (min_le_right _ _) (hleast candidate hcandidate)

theorem nextMoment_eq_none_iff {alarms : List Moment} : nextMoment alarms = none ↔ alarms = [] := by
  cases alarms with
  | nil => simp [nextMoment]
  | cons alarm rest =>
    unfold nextMoment
    split <;> simp

theorem isWhole_nextMoment {alarms : List Moment} {moment : Moment}
    (h : nextMoment alarms = some moment) : Span.IsWhole moment := by
  obtain ⟨⟨alarm, _, rfl⟩, _⟩ := nextMoment_spec h
  exact Span.isWhole_ceilMillis alarm

end Courier
