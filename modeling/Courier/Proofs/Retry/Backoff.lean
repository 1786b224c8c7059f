import Courier.Proofs.Run.Attempts
import Courier.Proofs.Time.Seconds

/-!
# Waits between attempts

The wait after an attempt is reckoned in binary64 numbers of seconds, capped there, and turned back
into a span only if it is below the cap.  Whatever the policy, what is turned back can be, and no
wait is longer than the cap.  Under a policy that can be used the waits do not become shorter from
attempt to attempt.  Where the coefficient is two and both intervals are whole seconds they are
exact, with one exception: no wait at all becomes the longest one when the power overflows.
-/

namespace Courier

/-- The span nearest to a number of seconds.  There is none for a negative number, for `2 ^ 64`
seconds or more, and for what is no finite number. -/
def Span.nearest? : Binary64 → Option Span
  | .finite negative m =>
    if (negative = true ∧ m.place ≠ 0) ∨ 2 ^ 64 * Binary64.scale ≤ m.units then none
    else some (ofMagnitude m)
  | _ => none

namespace Policy

open Binary64

variable {policy checked : Policy} {maximum : Span} {seconds x : Binary64} {a b : Magnitude}
  {m n : Nat}

/-! ## The cap -/

/-- The number of seconds that is turned back into a span, where the cap does not stand instead: the
given one, or zero if that is greater. -/
def belowCap? (maximum : Span) (seconds : Binary64) : Option Binary64 :=
  if ¬ seconds.isFinite ∨ maximum.inSeconds.atMost seconds then none
  else if less (.finite false Magnitude.zero) seconds then some seconds
  else some (.finite false Magnitude.zero)

theorem ofMagnitude_zero : Span.ofMagnitude Magnitude.zero = 0 := by
  have hround := roundHalfEven_mul_self 0 scale_pos
  rw [Nat.zero_mul] at hround
  rw [Span.ofMagnitude, Magnitude.units_zero, Nat.zero_mul, hround]

theorem capped_of_not_isFinite (hfinite : seconds.isFinite = false) :
    capped maximum seconds = maximum := by
  cases seconds with
  | nan => rfl
  | infinite negative => rfl
  | finite negative m => contradiction

theorem capped_of_atMost (hcap : maximum.inSeconds.atMost (.finite false a) = true) :
    capped maximum (.finite false a) = maximum := by
  rw [capped, if_pos hcap]

theorem capped_of_below (hcap : ¬ maximum.inSeconds.atMost (.finite false a) = true) :
    capped maximum (.finite false a) = Span.ofMagnitude a := by
  rw [capped, if_neg hcap, if_neg Bool.false_ne_true]

/-- Either the cap stands, or a magnitude is turned back into a span that is not longer. -/
theorem capped_cases (maximum : Span) (seconds : Binary64) :
    belowCap? maximum seconds = none ∧ capped maximum seconds = maximum ∨
      ∃ m, belowCap? maximum seconds = some (.finite false m) ∧
        capped maximum seconds = Span.ofMagnitude m ∧ Span.ofMagnitude m ≤ maximum := by
  by_cases hfinite : seconds.isFinite = true
  · obtain ⟨negative, m, rfl⟩ := exists_of_isFinite hfinite
    by_cases hcap : maximum.inSeconds.atMost (.finite negative m) = true
    · left
      rw [belowCap?, if_pos (.inr hcap), capped, if_pos hcap]
      exact ⟨rfl, rfl⟩
    right
    rw [belowCap?, if_neg (by simp [isFinite, hcap])]
    cases negative with
    | true =>
      have hzero : less (.finite false Magnitude.zero) (.finite true m) = false := by
        simp [less, rank, Magnitude.zero]
      rw [hzero, capped, if_neg hcap, if_pos rfl, ← ofMagnitude_zero]
      refine ⟨Magnitude.zero, rfl, rfl, ?_⟩
      rw [ofMagnitude_zero]
      exact Nat.zero_le _
    | false =>
      refine ⟨m, ?_, capped_of_below hcap, Span.ofMagnitude_le_of_not_atMost hcap⟩
      split
      · rfl
      · next hzero =>
        have hplace : m = Magnitude.zero := by
          apply Magnitude.ext
          simpa [less, rank, Magnitude.zero] using hzero
        rw [hplace]
  · left
    rw [Bool.not_eq_true] at hfinite
    rw [belowCap?, if_pos (.inl (by simp [hfinite])), capped_of_not_isFinite hfinite]
    exact ⟨rfl, rfl⟩

theorem capped_le (maximum : Span) (seconds : Binary64) : capped maximum seconds ≤ maximum := by
  rcases capped_cases maximum seconds with ⟨_, hcap⟩ | ⟨m, _, hbelow, hle⟩
  · exact hcap.le
  · exact hbelow.trans_le hle

theorem capped_mono (hplace : a.place ≤ b.place) :
    capped maximum (.finite false a) ≤ capped maximum (.finite false b) := by
  by_cases hcap : maximum.inSeconds.atMost (.finite false b) = true
  · rw [capped_of_atMost hcap]
    exact capped_le maximum (.finite false a)
  · have hbelow : ¬ maximum.inSeconds.atMost (.finite false a) = true := fun h ↦
      hcap (atMost_trans h (finite_atMost_iff.mpr hplace))
    rw [capped_of_below hcap, capped_of_below hbelow]
    exact Span.ofMagnitude_mono hplace

/-! ## What is turned back -/

theorem units_lt_of_ofMagnitude_le (hle : Span.ofMagnitude a ≤ Span.longest) :
    a.units < 2 ^ 64 * scale := by
  by_contra hlarge
  have hquotient : 2 ^ 64 * 1000000000 ≤ a.units * 1000000000 / scale := by
    apply (Nat.le_div_iff_mul_le scale_pos).mpr
    rw [Nat.mul_right_comm]
    exact Nat.mul_le_mul_right _ (not_lt.mp hlarge)
  have hround : a.units * 1000000000 / scale ≤ Span.ofMagnitude a := div_le_roundHalfEven _ _
  have hlongest : Span.longest < 2 ^ 64 * 1000000000 := by decide
  exact absurd (hquotient.trans (hround.trans hle)) (not_le.mpr hlongest)

theorem less_of_units_lt {k : Nat} (hk : ofNat k = .finite false b) (hunits : b.units = k * scale)
    (hless : a.units < k * scale) : less (.finite false a) (ofNat k) = true := by
  have hplace : a.place < b.place := by
    by_contra hle
    have := Magnitude.units_le_units (not_lt.mp hle)
    omega
  rw [hk]
  simpa [less, rank] using hplace

theorem nearest?_of_ofMagnitude_le (hle : Span.ofMagnitude a ≤ Span.longest) :
    Span.nearest? (.finite false a) = some (Span.ofMagnitude a) := by
  rw [Span.nearest?, if_neg]
  have := units_lt_of_ofMagnitude_le hle
  simp
  omega

/-- Whatever the policy, no wait is longer than the cap; where it is not the cap itself, it is the
span nearest to a finite number of seconds that is not negative and less than `2 ^ 64`. -/
theorem backoff_is_total_and_capped (policy : Policy) (hmaximum : policy.maximum ≤ Span.longest)
    (n : Nat) : policy.backoff n ≤ policy.maximum ∧
      (belowCap? policy.maximum (policy.rawBackoff n) = none →
        policy.backoff n = policy.maximum) ∧
      ∀ seconds, belowCap? policy.maximum (policy.rawBackoff n) = some seconds →
        seconds.isFinite = true ∧ atMost (.finite false Magnitude.zero) seconds = true ∧
          seconds.less (ofNat (2 ^ 64)) = true ∧
          Span.nearest? seconds = some (policy.backoff n) := by
  refine ⟨capped_le _ _, ?_, ?_⟩
  · intro hnone
    rcases capped_cases policy.maximum (policy.rawBackoff n) with ⟨_, hcap⟩ | ⟨m, hsome, _⟩
    · exact hcap
    · rw [hnone] at hsome
      contradiction
  · intro seconds hseconds
    rcases capped_cases policy.maximum (policy.rawBackoff n) with
      ⟨hnone, _⟩ | ⟨m, hsome, hbelow, hle⟩
    · rw [hnone] at hseconds
      contradiction
    · cases hsome.symm.trans hseconds
      obtain ⟨b, hb, hunits⟩ :=
        exists_ofNat_mul_two_pow (show 1 < 2 * binade by decide) (show 64 ≤ 971 by decide)
      rw [Nat.one_mul] at hb hunits
      have hlongest := hle.trans hmaximum
      refine ⟨rfl, ?_, ?_, ?_⟩
      · exact finite_atMost_iff.mpr (Nat.zero_le _)
      · exact less_of_units_lt hb hunits (units_lt_of_ofMagnitude_le hlongest)
      · rw [nearest?_of_ofMagnitude_le hlongest, backoff, hbelow]

/-- Both intervals are rounded when they become seconds, and the power is one although the
coefficient is no number. -/
def rough : Policy where
  attempts := 0
  initial := Span.ofSeconds (2 ^ 53 + 1)
  coefficient := .nan
  maximum := Span.ofSeconds (2 ^ 53 + 3) + 999999999

theorem backoff_is_total_and_capped_rough : ∃ seconds, rough.maximum ≤ Span.longest ∧
    belowCap? rough.maximum (rough.rawBackoff 0) = some seconds ∧
      seconds.less (ofNat (2 ^ 64)) = true ∧ Span.nearest? seconds = some (rough.backoff 0) ∧
      rough.backoff 0 = Span.ofSeconds (2 ^ 53) ∧ rough.backoff 0 ≤ rough.maximum ∧
      belowCap? rough.maximum (rough.rawBackoff 2) = none ∧
      rough.backoff 2 = rough.maximum := by
  have hmaximum : rough.maximum ≤ Span.longest := by decide +kernel
  have hbelow : belowCap? rough.maximum (rough.rawBackoff 0) = some (ofNat (2 ^ 53)) := by
    decide +kernel
  have hnone : belowCap? rough.maximum (rough.rawBackoff 2) = none := by decide +kernel
  obtain ⟨hle, _, hsome⟩ := backoff_is_total_and_capped rough hmaximum 0
  obtain ⟨_, _, hless, hnearest⟩ := hsome _ hbelow
  obtain ⟨_, hcap, _⟩ := backoff_is_total_and_capped rough hmaximum 2
  have hbackoff : rough.backoff 0 = Span.ofSeconds (2 ^ 53) := by decide +kernel
  exact ⟨_, hmaximum, hbelow, hless, hnearest, hbackoff, hle, hnone, hcap hnone⟩

/-! ## Order -/

theorem one_atMost_of_check (hcheck : policy.check = .ok checked) :
    one.atMost policy.coefficient = true := by
  unfold check at hcheck
  split at hcheck
  · contradiction
  split at hcheck
  · contradiction
  · next hcoefficient =>
    rw [not_or, not_not] at hcoefficient
    obtain ⟨hfinite, hless⟩ := hcoefficient
    obtain ⟨negative, a, hfinite⟩ := exists_of_isFinite hfinite
    obtain ⟨unit, hone, _⟩ := exists_one_eq
    rw [hfinite, hone] at hless ⊢
    simpa [less, atMost, rank] using hless

/-- A product with a greater power is not smaller, unless it is no finite number. -/
theorem capped_mul_mono (hx : x = .infinite false ∨ ∃ a, x = .finite false a) {p q : Binary64}
    (hp : one.atMost p = true) (hpq : p.atMost q = true) :
    capped maximum (x.mul p) ≤ capped maximum (x.mul q) := by
  by_cases hfinite : (x.mul q).isFinite = true
  · obtain ⟨hx', hq'⟩ := isFinite_of_mul hfinite
    rcases hx with rfl | ⟨a, rfl⟩
    · cases hx'
    rcases eq_of_one_atMost (atMost_trans hp hpq) with rfl | ⟨c, rfl, _⟩
    · cases hq'
    obtain ⟨b, rfl, hplace⟩ := exists_of_atMost_finite hp hpq
    obtain ⟨negative, d, hd⟩ := exists_of_isFinite hfinite
    rw [finite_mul_finite] at hd
    have hcross : a.units * b.units * scale ≤ a.units * c.units * scale :=
      Nat.mul_le_mul_right _ (Nat.mul_le_mul_left _ (Magnitude.units_le_units hplace))
    obtain ⟨e, he, hle⟩ := exists_ofQuotient_eq (q := false) scale_pos scale_pos hcross hd
    obtain ⟨rfl, _⟩ := ofQuotient_eq_finite_iff.mp hd
    rw [finite_mul_finite, finite_mul_finite, he, hd]
    exact capped_mono hle
  · rw [Bool.not_eq_true] at hfinite
    rw [capped_of_not_isFinite hfinite]
    exact capped_le maximum _

/-- Under a policy that can be used the waits do not become shorter from attempt to attempt. -/
theorem backoff_keeps_order (hcheck : policy.check = .ok checked) (hle : m ≤ n) :
    checked.backoff m ≤ checked.backoff n := by
  have hbase := one_atMost_of_check hcheck
  obtain ⟨rfl, _⟩ := check_eq_ok hcheck
  have hexponent : min (m - 1) (Numeral.greatest 31) ≤ min (n - 1) (Numeral.greatest 31) :=
    min_le_min_right _ (Nat.sub_le_sub_right hle 1)
  exact capped_mul_mono checked.initial.inSeconds_cases (one_atMost_power hbase _)
    (power_atMost hbase hexponent)

/-- The coefficient is one and three tenths, up to rounding. -/
def gentle : Policy :=
  ⟨40, Span.ofMillis 150, ofBits 0x3FF4CCCCCCCCCCCD, Span.longest⟩

/-- From the attempt 32 on to the next, the exponent carries through all its bits. -/
theorem backoff_keeps_order_gentle : gentle.check = .ok gentle ∧
    gentle.backoff 32 = 510899150512 ∧ gentle.backoff 33 = 664168895665 ∧
    gentle.backoff 32 ≤ gentle.backoff 33 := by
  have hcheck : gentle.check = .ok gentle := by
    apply check_of_valid <;> decide +kernel
  refine ⟨hcheck, ?_, ?_, backoff_keeps_order hcheck (by decide)⟩ <;> decide +kernel

/-! ## Doubling -/

/-- Exact whole seconds are capped as natural numbers. -/
theorem capped_ofNat {k : Nat} (hk : k < 2 * binade)
    (hn : ceiling ≤ n ∨ ∃ a, ofNat n = .finite false a ∧ a.units = n * scale) :
    capped (Span.ofSeconds k) (ofNat n) = Span.ofSeconds (min n k) := by
  rcases hn with hn | ⟨a, ha, hunits⟩
  · have hless : 2 * binade < ceiling := two_pow_lt_ceiling_iff.mpr (show 53 < 1024 by decide)
    rw [ofNat_eq_infinite hn, capped_of_not_isFinite rfl, min_eq_right (by omega)]
  obtain ⟨c, hc, hcunits⟩ := exists_ofNat_of_lt hk
  have hcap : (Span.ofSeconds k).inSeconds.atMost (.finite false a) = true ↔ k ≤ n := by
    rw [Span.inSeconds_ofSeconds]
    constructor
    · intro hle
      rw [hc, finite_atMost_iff] at hle
      have := Magnitude.units_le_units hle
      rw [hcunits, hunits] at this
      exact Nat.le_of_mul_le_mul_right this scale_pos
    · intro hle
      rw [← ha]
      exact ofNat_atMost hle
  rw [ha]
  rcases Nat.lt_or_ge n k with hless | hge
  · rw [capped_of_below (fun h ↦ absurd (hcap.mp h) (not_le.mpr hless)),
      Span.ofMagnitude_of_units_eq hunits, min_eq_left hless.le]
  · rw [capped_of_atMost (hcap.mpr hge), min_eq_right hge]

theorem capped_doubled {i k e : Nat} (hpos : 0 < i) (hi : i < 2 * binade) (hk : k < 2 * binade) :
    capped (Span.ofSeconds k) ((ofNat i).mul (ofNat (2 ^ e))) =
      Span.ofSeconds (min (i * 2 ^ e) k) := by
  have hmul := ofNat_mul_two_pow hpos hi 0 e
  rw [Nat.pow_zero, Nat.mul_one, Nat.zero_add] at hmul
  rw [hmul]
  apply capped_ofNat hk
  exact (Nat.lt_or_ge (i * 2 ^ e) ceiling).symm.imp_right (exists_ofNat_eq_of_lt hi)

/-- Nothing stays nothing as long as the power is finite. -/
theorem capped_nothing {k e : Nat} (hk : k < 2 * binade) (he : 2 ^ e < ceiling) :
    capped (Span.ofSeconds k) ((ofNat 0).mul (ofNat (2 ^ e))) = 0 := by
  have hunits : Magnitude.zero.units = 0 * scale := by rw [Magnitude.units_zero, Nat.zero_mul]
  rw [← Nat.one_mul (2 ^ e)] at he ⊢
  obtain ⟨b, hb, hbunits⟩ := exists_ofNat_eq_of_lt (by decide) he
  have hcapped := capped_ofNat hk (.inr ⟨_, ofNat_zero, hunits⟩)
  rw [ofNat_zero, hb, mul_of_units_eq hunits hbunits, Nat.zero_mul, hcapped, Nat.zero_min]
  rfl

theorem capped_nothing_infinite {k e : Nat} (he : ceiling ≤ 2 ^ e) :
    capped (Span.ofSeconds k) ((ofNat 0).mul (ofNat (2 ^ e))) = Span.ofSeconds k := by
  rw [ofNat_eq_infinite he, ofNat_zero, mul, if_pos Magnitude.units_zero]
  rfl

/-- Under a policy that doubles the waits and has whole seconds as intervals, the waits are exact.
Only where there is nothing to be doubled, the cap takes its place once the power is infinite. -/
theorem backoff_doubles {i k : Nat} (hcoefficient : policy.coefficient = ofNat 2)
    (hinitial : policy.initial = Span.ofSeconds i) (hmaximum : policy.maximum = Span.ofSeconds k)
    (hi : i < 2 ^ 53) (hk : k < 2 ^ 53) (n : Nat) :
    policy.backoff n =
      if i = 0 ∧ 1024 < n then Span.ofSeconds k
      else Span.ofSeconds (min (i * 2 ^ (n - 1)) k) := by
  have hlimit : 1024 < Numeral.greatest 31 := by decide
  have hsignificand : 2 ^ 53 = 2 * binade := rfl
  rw [hsignificand] at hi hk
  rw [backoff, rawBackoff, hcoefficient, hinitial, hmaximum, Span.inSeconds_ofSeconds, power_two]
  generalize Numeral.greatest 31 = limit at hlimit
  rcases Nat.eq_zero_or_pos i with rfl | hpos
  · rcases Nat.lt_or_ge 1024 n with hn | hn
    · have hhigh : ¬ 2 ^ min (n - 1) limit < ceiling := by
        rw [two_pow_lt_ceiling_iff]
        omega
      rw [capped_nothing_infinite (not_lt.mp hhigh), if_pos ⟨rfl, hn⟩]
    · have hlow : 2 ^ min (n - 1) limit < ceiling := by
        rw [two_pow_lt_ceiling_iff]
        omega
      rw [capped_nothing hk hlow, if_neg (by omega), Nat.zero_mul, Nat.zero_min]
      rfl
  · rw [capped_doubled hpos hi hk, if_neg (by omega)]
    congr 1
    rcases Nat.le_total (n - 1) limit with hle | hge
    · rw [min_eq_left hle]
    -- Past the limit of the exponent both powers are far above the cap.
    · have hlarge (e : Nat) (he : limit ≤ e) : k ≤ i * 2 ^ e := by
        calc k
          _ ≤ 2 ^ 53 := hk.le
          _ ≤ 2 ^ e := Nat.pow_le_pow_right (by decide) (by omega)
          _ ≤ i * 2 ^ e := Nat.le_mul_of_pos_left _ hpos
      rw [min_eq_right hge, min_eq_right (hlarge _ le_rfl), min_eq_right (hlarge _ hge)]

/-- The wait after the attempt 52 is the last one below the cap. -/
def steep : Policy := ⟨60, Span.ofSeconds 3, ofNat 2, Span.ofSeconds (2 ^ 53 - 1)⟩

/-- There is never anything to wait for. -/
def idle : Policy := ⟨2000, 0, ofNat 2, Span.ofSeconds 100⟩

theorem backoff_doubles_steep : steep.check = .ok steep ∧
    steep.backoff 52 = Span.ofSeconds (3 * 2 ^ 51) ∧
    steep.backoff 53 = Span.ofSeconds (2 ^ 53 - 1) ∧ idle.backoff 1024 = Span.ofSeconds 0 ∧
    idle.backoff 1025 = Span.ofSeconds 100 := by
  have hcheck : steep.check = .ok steep := by
    apply check_of_valid <;> decide +kernel
  have hsteep : steep.coefficient = ofNat 2 := by rw [steep]
  have hidle : idle.coefficient = ofNat 2 := by rw [idle]
  have hnothing : idle.initial = Span.ofSeconds 0 := rfl
  have hbackoff := backoff_doubles hsteep rfl rfl (by decide) (by decide)
  have hwaits := backoff_doubles hidle hnothing rfl (by decide) (by decide)
  refine ⟨hcheck, hbackoff 52, hbackoff 53, ?_, ?_⟩
  · rw [hwaits, if_neg (by decide), Nat.zero_mul, Nat.zero_min]
  · rw [hwaits, if_pos (by decide)]

/-- The wait is not the least of zero times a power of two and the cap. -/
theorem backoff_doubles_fails_for_idle : idle.check = .ok idle ∧ idle.coefficient = ofNat 2 ∧
    idle.initial = Span.ofSeconds 0 ∧ idle.maximum = Span.ofSeconds 100 ∧
    idle.backoff 1025 = Span.ofSeconds 100 ∧
    idle.backoff 1025 ≠ Span.ofSeconds (min (0 * 2 ^ (1025 - 1)) 100) := by
  have hcheck : idle.check = .ok idle := by
    apply check_of_valid <;> decide +kernel
  have hbackoff : idle.backoff 1025 = Span.ofSeconds 100 := by decide +kernel
  refine ⟨hcheck, by rw [idle], rfl, rfl, hbackoff, ?_⟩
  rw [hbackoff, Nat.zero_mul]
  decide

end Policy

end Courier
