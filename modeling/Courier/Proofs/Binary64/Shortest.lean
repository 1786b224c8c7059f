import Courier.Proofs.Binary64.Nearest

/-!
# Bounds of shortest decimals

Among the decimals with seventeen digits there is always one that rounds to a given positive
magnitude.  So the shortest decimal of a magnitude rounds to this magnitude; it has at most
seventeen digits, an exponent of at most four figures, and does not lie above the greatest value.
-/

namespace Courier

/-- The bounds within which the decimals of all magnitudes lie. -/
structure Decimal.IsShort (d : Decimal) : Prop where
  digits_ne_zero : d.digits ≠ 0
  digits_le : d.digits ≤ 10 ^ 17
  exponent_le : d.exponent.natAbs ≤ 2000

namespace Decimal

theorem trim_digits (fuel : Nat) {d : Decimal} (hd : d.digits ≠ 0) :
    (trim fuel d).digits ≠ 0 ∧ (trim fuel d).digits ≤ d.digits := by
  induction fuel generalizing d with
  | zero => exact ⟨hd, le_rfl⟩
  | succ fuel ih =>
    unfold trim
    split
    · next hzero =>
      have hless : d.digits / 10 ≠ 0 := by omega
      obtain ⟨hne, hle⟩ := @ih ⟨d.digits / 10, d.exponent + 1⟩ hless
      exact ⟨hne, hle.trans (Nat.div_le_self _ _)⟩
    · exact ⟨hd, le_rfl⟩

theorem trim_exponent (fuel : Nat) (d : Decimal) :
    d.exponent ≤ (trim fuel d).exponent ∧ (trim fuel d).exponent ≤ d.exponent + fuel := by
  induction fuel generalizing d with
  | zero => exact ⟨le_rfl, by simp [trim]⟩
  | succ fuel ih =>
    unfold trim
    split
    · obtain ⟨hlow, hhigh⟩ := ih ⟨d.digits / 10, d.exponent + 1⟩
      dsimp only at hlow hhigh
      push_cast
      constructor <;> omega
    · exact ⟨le_rfl, by push_cast; omega⟩

/-- A decimal as a quotient of natural numbers. -/
def numerator (d : Decimal) : Nat := d.digits * 10 ^ d.exponent.toNat

def denominator (d : Decimal) : Nat := 10 ^ (-d.exponent).toNat

theorem denominator_pos (d : Decimal) : 0 < d.denominator := Nat.pow_pos (by decide)

/-- Dropping a zero gives the same quotient. -/
theorem exists_drop (digits : Nat) (exponent : Int) : ∃ c > 0,
    numerator ⟨10 * digits, exponent⟩ = c * numerator ⟨digits, exponent + 1⟩ ∧
      denominator ⟨10 * digits, exponent⟩ = c * denominator ⟨digits, exponent + 1⟩ := by
  unfold numerator denominator
  dsimp only
  rcases Int.lt_or_le exponent 0 with hneg | hnonneg
  · have hnone : exponent.toNat = 0 := by omega
    have hnext : (exponent + 1).toNat = 0 := by omega
    have hless : (-exponent).toNat = (-(exponent + 1)).toNat + 1 := by omega
    refine ⟨10, by decide, ?_, ?_⟩
    · rw [hnone, hnext, Nat.mul_assoc]
    · rw [hless, Nat.pow_succ, Nat.mul_comm]
  · have hmore : (exponent + 1).toNat = exponent.toNat + 1 := by omega
    have hnone : (-exponent).toNat = 0 := by omega
    have hnext : (-(exponent + 1)).toNat = 0 := by omega
    refine ⟨1, by decide, ?_, ?_⟩
    · rw [hmore, Nat.pow_succ]
      ring
    · rw [hnone, hnext, Nat.one_mul]

end Decimal

namespace Magnitude

variable {m : Magnitude} {tie : Tie} {exponent : Int} {n : Nat}

/-! ## Decimals that round to a magnitude -/

/-- The decimal rounds to the magnitude. -/
def RoundsFrom (m : Magnitude) (d : Decimal) : Prop :=
  m.attracts (4 * Binary64.scale * d.numerator) d.denominator = true

theorem RoundsFrom.digits_pos {d : Decimal} (hd : m.RoundsFrom d) (hm : m.place ≠ 0) :
    0 < d.digits := by
  have hpos := pos_of_attracts hm d.denominator_pos hd
  exact Nat.pos_of_mul_pos_right (Nat.pos_of_mul_pos_left hpos)

/-- However the decimal is written as a quotient, it is rounded to the magnitude. -/
theorem RoundsFrom.roundedPlace_eq {d : Decimal} (hd : m.RoundsFrom d) {num den : Nat}
    (hden : 0 < den) (hcross : num * d.denominator = Binary64.scale * d.numerator * den) :
    Binary64.roundedPlace num den = m.place := by
  have hdenominator : 0 < 4 * d.denominator := Nat.mul_pos (by decide) d.denominator_pos
  rw [← roundedPlace_of_attracts d.denominator_pos hd]
  apply Binary64.roundedPlace_eq_of_cross hden hdenominator
  rw [Nat.mul_left_comm, hcross, Nat.mul_assoc 4, Nat.mul_assoc 4]

theorem RoundsFrom.trim {d : Decimal} (hd : m.RoundsFrom d) (fuel : Nat) :
    m.RoundsFrom (Decimal.trim fuel d) := by
  induction fuel generalizing d with
  | zero => exact hd
  | succ fuel ih =>
    unfold Decimal.trim
    split
    · next hzero =>
      apply ih
      have hdigits : 10 * (d.digits / 10) = d.digits :=
        Nat.mul_div_cancel' (Nat.dvd_of_mod_eq_zero hzero)
      obtain ⟨c, hc, hnumerator, hdenominator⟩ := Decimal.exists_drop (d.digits / 10) d.exponent
      rw [hdigits] at hnumerator hdenominator
      unfold RoundsFrom at hd ⊢
      rw [hnumerator, hdenominator, Nat.mul_left_comm, attracts_mul hc] at hd
      exact hd
    · exact hd

/-- The grid point rounds to the magnitude and is one of its neighbours on the grid. -/
theorem roundsFrom_of_onGrid (hn : m.onGrid tie exponent = some n) :
    m.RoundsFrom ⟨n, exponent⟩ ∧ n ≤ 4 * m.units * 10 ^ (-exponent).toNat /
      (4 * Binary64.scale * 10 ^ exponent.toNat) + 1 := by
  unfold RoundsFrom Decimal.numerator Decimal.denominator
  unfold onGrid at hn
  dsimp only [Nat.pow_eq] at hn ⊢
  rw [Nat.mul_left_comm]
  generalize 10 ^ (-exponent).toNat = unit at hn ⊢
  generalize 4 * m.units * unit = value at hn ⊢
  generalize 4 * Binary64.scale * 10 ^ exponent.toNat = step at hn ⊢
  split at hn
  · next hfirst hsecond =>
    cases hn
    rcases roundHalf_cases tie value step with hround | hround <;> rw [hround]
    · exact ⟨hfirst, Nat.le_succ _⟩
    · exact ⟨hsecond, le_rfl⟩
  · next hfirst _ =>
    cases hn
    exact ⟨hfirst, Nat.le_succ _⟩
  · next _ hsecond =>
    cases hn
    exact ⟨hsecond, le_rfl⟩
  · contradiction

/-- On a grid that is finer than the interval is wide one of the neighbours lies in it. -/
theorem exists_onGrid_eq (tie : Tie) (hm : m.place ≠ 0)
    (hfine : 4 * Binary64.scale * 10 ^ exponent.toNat <
      (m.reachDown + m.reachUp) * 10 ^ (-exponent).toNat) :
    ∃ n, m.onGrid tie exponent = some n := by
  have hstep : 0 < 4 * Binary64.scale * 10 ^ exponent.toNat :=
    Nat.mul_pos (Nat.mul_pos (by decide) Binary64.scale_pos) (Nat.pow_pos (by decide))
  have hunit : 0 < 10 ^ (-exponent).toNat := Nat.pow_pos (by decide)
  unfold onGrid
  dsimp only [Nat.pow_eq]
  generalize 4 * Binary64.scale * 10 ^ exponent.toNat = step at hfine hstep ⊢
  generalize 10 ^ (-exponent).toNat = unit at hfine hunit ⊢
  have hreach : 0 < m.reachUp * unit :=
    Nat.mul_pos (Nat.mul_pos (by decide) (Nat.two_pow_pos _)) hunit
  have hbelow := Nat.div_mul_le_self (4 * m.units * unit) step
  have habove := Nat.lt_mul_div_succ (4 * m.units * unit) hstep
  generalize hgrid : 4 * m.units * unit / step = below at hbelow habove ⊢
  rw [Nat.mul_comm step, Nat.add_mul, Nat.one_mul] at habove
  rw [Nat.add_mul] at hfine
  have hneighbour : m.attracts (below * step) unit = true ∨
      m.attracts ((below + 1) * step) unit = true := by
    rcases Nat.lt_or_ge (4 * m.units * unit) (below * step + m.reachDown * unit) with hnear | hfar
    · exact .inl (attracts_of_lt hm hnear (by omega))
    · right
      rw [Nat.add_mul, Nat.one_mul]
      exact attracts_of_lt hm (by omega) (by omega)
  split
  · exact ⟨_, rfl⟩
  · exact ⟨_, rfl⟩
  · exact ⟨_, rfl⟩
  · next hfirst hsecond =>
    rw [hfirst, hsecond] at hneighbour
    simp at hneighbour

/-! ## The decimal exponent -/

theorem exists_units_lt (m : Magnitude) : ∃ k ≤ 704, m.units < 10 ^ k := by
  have hplace : m.place < 2 ^ 64 := m.place_lt.trans (by decide)
  have hspacing : m.spacing ≤ 2046 := by
    have hdiv : m.place / binade < 2047 := by
      apply (Nat.div_lt_iff_lt_mul (by decide)).mpr
      exact m.place_lt
    unfold spacing
    omega
  obtain ⟨k, hk, hmore⟩ : ∃ k ≤ 704, m.spacing + 64 ≤ 3 * k := ⟨704, le_rfl, by omega⟩
  refine ⟨k, hk, ?_⟩
  calc m.units
    _ ≤ m.place * 2 ^ m.spacing := Nat.mul_le_mul_right _ (Nat.sub_le _ _)
    _ < 2 ^ 64 * 2 ^ m.spacing := Nat.mul_lt_mul_of_pos_right hplace (Nat.two_pow_pos _)
    _ = 2 ^ (m.spacing + 64) := by rw [← Nat.pow_add, Nat.add_comm]
    _ ≤ 2 ^ (3 * k) := Nat.pow_le_pow_right (by decide) hmore
    _ = 8 ^ k := Nat.pow_mul 2 3 k
    _ ≤ 10 ^ k := Nat.pow_le_pow_left (by decide) k

/-- Digits of the magnitude, scaled by a power of ten so that it is a natural number. -/
def decimalLength (m : Magnitude) (shift : Nat) : Nat :=
  (Nat.toDigits 10 (m.units * Nat.pow 10 shift / Binary64.scale)).length

theorem exists_decimalExponent_eq (m : Magnitude) :
    ∃ shift : Nat, shift ≤ 400 ∧ Binary64.scale ≤ 10 ^ shift ∧
      m.decimalExponent = m.decimalLength shift - shift := by
  obtain ⟨shift, hshift⟩ : ∃ shift, shift = 400 := ⟨400, rfl⟩
  have hscale : Binary64.scale ≤ 10 ^ shift := by
    rw [hshift]
    decide +kernel
  have hcast : ((400 : Nat) : Int) = 400 := rfl
  refine ⟨shift, hshift.le, hscale, ?_⟩
  rw [decimalExponent, decimalLength, ← hcast, ← hshift]

theorem decimalLength_le (m : Magnitude) (shift : Nat) : m.decimalLength shift ≤ 705 + shift := by
  obtain ⟨k, hk, hunits⟩ := m.exists_units_lt
  apply (Nat.length_toDigits_le_iff (by decide) (by omega)).mpr
  calc m.units * Nat.pow 10 shift / Binary64.scale
    _ ≤ m.units * Nat.pow 10 shift := Nat.div_le_self _ _
    _ < 10 ^ k * Nat.pow 10 shift := Nat.mul_lt_mul_of_pos_right hunits (Nat.pow_pos (by decide))
    _ = 10 ^ (k + shift) := (Nat.pow_add 10 k shift).symm
    _ ≤ 10 ^ (705 + shift) := Nat.pow_le_pow_right (by decide) (by omega)

theorem units_mul_lt (m : Magnitude) (shift : Nat) :
    m.units * 10 ^ shift < Binary64.scale * 10 ^ m.decimalLength shift := by
  rw [Nat.mul_comm Binary64.scale]
  apply (Nat.div_lt_iff_lt_mul Binary64.scale_pos).mp
  exact (Nat.length_toDigits_le_iff (by decide) Nat.length_toDigits_pos).mp le_rfl

/-- On a grid with so many digits the magnitude lies below the power of ten of as many digits. -/
theorem below_lt (m : Magnitude) (shift digits : Nat) (exponent : Int)
    (hexponent : exponent = m.decimalLength shift - shift - digits) :
    4 * m.units * 10 ^ (-exponent).toNat / (4 * Binary64.scale * 10 ^ exponent.toNat) <
      10 ^ digits := by
  have hscale := Binary64.scale_pos
  have hlength := m.units_mul_lt shift
  generalize m.decimalLength shift = length at hexponent hlength
  generalize Binary64.scale = scale at hscale hlength ⊢
  apply (Nat.div_lt_iff_lt_mul (by positivity)).mpr
  have hpowers : shift + digits + exponent.toNat = length + (-exponent).toNat := by omega
  have hcommon : 0 < 10 ^ (-exponent).toNat * 4 := by positivity
  apply lt_of_mul_lt_mul_right _ (Nat.zero_le (10 ^ shift))
  calc 4 * m.units * 10 ^ (-exponent).toNat * 10 ^ shift
    _ = m.units * 10 ^ shift * (10 ^ (-exponent).toNat * 4) := by ring
    _ < scale * 10 ^ length * (10 ^ (-exponent).toNat * 4) :=
      Nat.mul_lt_mul_of_pos_right hlength hcommon
    _ = 4 * scale * 10 ^ (length + (-exponent).toNat) := by ring
    _ = 4 * scale * 10 ^ (shift + digits + exponent.toNat) := by rw [hpowers]
    _ = 10 ^ digits * (4 * scale * 10 ^ exponent.toNat) * 10 ^ shift := by ring

/-- The first digit is not zero. -/
theorem le_units_mul (hm : m.place ≠ 0) {shift : Nat} (hscale : Binary64.scale ≤ 10 ^ shift) :
    Binary64.scale * 10 ^ (m.decimalLength shift - 1) ≤ m.units * 10 ^ shift := by
  have hunits : 1 ≤ m.units := (Nat.one_le_two_pow).trans (two_pow_spacing_le_units hm)
  have hpositive : 1 ≤ m.units * 10 ^ shift / Binary64.scale := by
    apply (Nat.le_div_iff_mul_le Binary64.scale_pos).mpr
    rw [Nat.one_mul]
    exact hscale.trans (Nat.le_mul_of_pos_left _ hunits)
  have hdigits : 10 ^ (m.decimalLength shift - 1) ≤ m.units * 10 ^ shift / Binary64.scale := by
    rcases Nat.eq_zero_or_pos (m.decimalLength shift - 1) with hzero | hpos
    · rwa [hzero]
    · apply Nat.le_of_not_lt
      intro hless
      have hle := (Nat.length_toDigits_le_iff (by decide) hpos).mpr hless
      change m.decimalLength shift ≤ m.decimalLength shift - 1 at hle
      omega
  rw [Nat.mul_comm]
  exact (Nat.le_div_iff_mul_le Binary64.scale_pos).mp hdigits

theorem units_lt_reach (m : Magnitude) : 4 * m.units < (m.reachDown + m.reachUp) * 10 ^ 16 := by
  have hstep : 0 < 2 ^ m.spacing := Nat.two_pow_pos _
  have hbinade : binade = 4503599627370496 := rfl
  obtain ⟨significand, _, hunits, hhigh, _⟩ := m.exists_units_eq
  rw [reachUp_eq]
  rcases m.reachDown_cases with ⟨hreach, _⟩ | ⟨hreach, _, hborder⟩
  · have hless : significand * 2 ^ m.spacing < 2 * binade * 2 ^ m.spacing :=
      Nat.mul_lt_mul_of_pos_right hhigh hstep
    rw [hreach, hunits]
    rw [hbinade] at hless
    omega
  · rw [hreach, hborder, hbinade]
    omega

/-- The grid with seventeen digits is fine enough. -/
theorem step_lt_reach (hm : m.place ≠ 0) (hexponent : exponent = m.decimalExponent - 17) :
    4 * Binary64.scale * 10 ^ exponent.toNat <
      (m.reachDown + m.reachUp) * 10 ^ (-exponent).toNat := by
  obtain ⟨shift, _, hscale, hlength⟩ := m.exists_decimalExponent_eq
  have hdigits := le_units_mul hm hscale
  have hpositive : 0 < m.decimalLength shift := Nat.length_toDigits_pos
  have hreach := m.units_lt_reach
  generalize m.decimalLength shift = length at hlength hdigits hpositive
  generalize Binary64.scale = scale at hscale hdigits ⊢
  generalize m.reachDown + m.reachUp = reach at hreach ⊢
  have hpowers : exponent.toNat + (shift + 16) = length - 1 + (-exponent).toNat := by omega
  have hunit : 0 < 10 ^ (-exponent).toNat * 10 ^ shift := by positivity
  apply lt_of_mul_lt_mul_right _ (Nat.zero_le (10 ^ (shift + 16)))
  calc 4 * scale * 10 ^ exponent.toNat * 10 ^ (shift + 16)
    _ = 4 * scale * 10 ^ (exponent.toNat + (shift + 16)) := by rw [Nat.mul_assoc, ← Nat.pow_add]
    _ = 4 * (scale * 10 ^ (length - 1)) * 10 ^ (-exponent).toNat := by
      rw [hpowers, Nat.pow_add]
      ring
    _ ≤ 4 * (m.units * 10 ^ shift) * 10 ^ (-exponent).toNat :=
      Nat.mul_le_mul_right _ (Nat.mul_le_mul_left 4 hdigits)
    _ = 4 * m.units * (10 ^ (-exponent).toNat * 10 ^ shift) := by ring
    _ < reach * 10 ^ 16 * (10 ^ (-exponent).toNat * 10 ^ shift) :=
      Nat.mul_lt_mul_of_pos_right hreach hunit
    _ = reach * 10 ^ (-exponent).toNat * 10 ^ (shift + 16) := by
      rw [Nat.pow_add]
      ring

/-! ## The shortest decimal -/

/-- Every grid that is tried gives a short decimal. -/
theorem isShort_of_onGrid (hm : m.place ≠ 0) {digits : Nat} (hdigits : digits ≤ 17)
    (hn : m.onGrid tie (m.decimalExponent - digits) = some n) :
    (Decimal.trim 20 ⟨n, m.decimalExponent - digits⟩).IsShort := by
  obtain ⟨hrounds, hle⟩ := roundsFrom_of_onGrid hn
  have hne : n ≠ 0 := (hrounds.digits_pos hm).ne'
  obtain ⟨shift, hshift, _, hexponent⟩ := m.exists_decimalExponent_eq
  have hlength := m.decimalLength_le shift
  have hbelow := m.below_lt shift digits (m.decimalExponent - digits)
    (by rw [hexponent])
  have hpower : 10 ^ digits ≤ 10 ^ 17 := Nat.pow_le_pow_right (by decide) hdigits
  obtain ⟨hdigits_ne, hdigits_le⟩ :=
    Decimal.trim_digits 20 (d := ⟨n, m.decimalExponent - digits⟩) hne
  obtain ⟨hlow, hhigh⟩ := Decimal.trim_exponent 20 ⟨n, m.decimalExponent - digits⟩
  have hn_le : n ≤ 10 ^ 17 := hle.trans (le_trans hbelow hpower)
  refine ⟨hdigits_ne, hdigits_le.trans hn_le, ?_⟩
  generalize (Decimal.trim 20 ⟨n, m.decimalExponent - digits⟩).exponent = e at hlow hhigh ⊢
  dsimp only at hlow hhigh
  omega

/-- If some grid up to the last one has a point, the first such grid gives the result. -/
theorem shortestFrom_eq (top : Int) (fuel : Nat) {digits : Nat} (hdigits : digits + fuel = 17)
    (hlast : ∃ n, m.onGrid tie (top - (17 : Nat)) = some n) :
    ∃ count : Nat, count ≤ 17 ∧ ∃ n, m.onGrid tie (top - count) = some n ∧
      m.shortestFrom tie top (fuel + 1) digits = Decimal.trim 20 ⟨n, top - count⟩ := by
  induction fuel generalizing digits with
  | zero =>
    obtain ⟨n, hn⟩ := hlast
    rw [Nat.add_zero] at hdigits
    rw [hdigits, shortestFrom, hn]
    exact ⟨17, le_rfl, n, hn, rfl⟩
  | succ fuel ih =>
    rw [shortestFrom]
    split
    · next hn => exact ⟨digits, by omega, _, hn, rfl⟩
    · exact ih (by omega)

/-- The shortest decimal of a positive magnitude is short and rounds to it. -/
theorem shortest_spec (tie : Tie) (hm : m.place ≠ 0) :
    (m.shortest tie).IsShort ∧ m.RoundsFrom (m.shortest tie) := by
  obtain ⟨count, hcount, n, hn, hshortest⟩ := shortestFrom_eq m.decimalExponent 16 rfl
    (exists_onGrid_eq tie hm (step_lt_reach hm rfl))
  rw [shortest, if_neg hm, hshortest]
  exact ⟨isShort_of_onGrid hm hcount hn, (roundsFrom_of_onGrid hn).1.trim 20⟩

theorem shortest_of_zero (tie : Tie) (hm : m.place = 0) : m.shortest tie = ⟨0, 0⟩ := if_pos hm

/-! ## The greatest value -/

/-- The greatest finite value. -/
def greatest : Magnitude := ⟨magnitudes - 1, by decide⟩

theorem reachUp_le_reachUp {a b : Magnitude} (hplace : a.place ≤ b.place) :
    a.reachUp ≤ b.reachUp := by
  apply Nat.mul_le_mul_left
  apply Nat.pow_le_pow_right (by decide)
  exact Nat.sub_le_sub_right (Nat.div_le_div_right hplace) 1

/-- Values that round to a magnitude do not lie above the greatest value, unless the magnitude is
this value. -/
theorem units_add_reachUp_le (hm : m ≠ greatest) :
    4 * m.units + m.reachUp ≤ 4 * greatest.units := by
  let below : Magnitude := ⟨magnitudes - 2, by decide⟩
  have hplace : m.place ≤ below.place := by
    have hlt := m.place_lt
    have hne : m.place ≠ greatest.place := fun hsame ↦ hm (ext hsame)
    change m.place ≤ magnitudes - 2
    change m.place ≠ magnitudes - 1 at hne
    omega
  calc 4 * m.units + m.reachUp
    _ ≤ 4 * below.units + below.reachUp :=
      Nat.add_le_add (Nat.mul_le_mul_left 4 (units_le_units hplace)) (reachUp_le_reachUp hplace)
    _ ≤ 4 * greatest.units := by decide +kernel

/-- No shortest decimal lies above the greatest value. -/
theorem shortest_le_greatest (hm : m.place ≠ 0) :
    Binary64.scale * (m.shortest .toEven).numerator ≤
      greatest.units * (m.shortest .toEven).denominator := by
  by_cases hgreatest : m = greatest
  · have hshortest : greatest.shortest .toEven = ⟨17976931348623157, 292⟩ := by decide +kernel
    rw [hgreatest, hshortest]
    decide +kernel
  · obtain ⟨_, hrounds⟩ := shortest_spec .toEven hm
    obtain ⟨_, hhigh, _⟩ := bounds_of_attracts hrounds
    generalize m.shortest .toEven = d at hhigh ⊢
    apply Nat.le_of_mul_le_mul_left _ (show 0 < 4 by decide)
    calc 4 * (Binary64.scale * d.numerator)
      _ = 4 * Binary64.scale * d.numerator := (Nat.mul_assoc _ _ _).symm
      _ ≤ 4 * m.units * d.denominator + m.reachUp * d.denominator := hhigh
      _ = (4 * m.units + m.reachUp) * d.denominator := (Nat.add_mul _ _ _).symm
      _ ≤ 4 * greatest.units * d.denominator :=
        Nat.mul_le_mul_right _ (units_add_reachUp_le hgreatest)
      _ = 4 * (greatest.units * d.denominator) := Nat.mul_assoc _ _ _

end Magnitude
end Courier
