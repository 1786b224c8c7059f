import Courier.Proofs.Binary64.Rounding

/-!
# Powers by repeated squaring

Every product on the way to a power is rounded, and different exponents lead over different
products.  Still a power does not fall when its exponent grows.  All that is needed of the rounding
is that it keeps order: what was multiplied up from the lower bits of an exponent never exceeds the
square that stands for the next bit, so a carry leads upwards.  Infinity is above all other numbers,
and numbers from one upwards have no product that is no number.

Products with powers of two are exact as long as they are finite.
-/

namespace Courier

theorem Magnitude.units_zero : Magnitude.zero.units = 0 := by decide

namespace Binary64

variable {x y z x' y' result result' square base : Binary64} {negative p : Bool}
  {a b a' b' : Magnitude} {num den num' den' : Nat}

/-! ## Order -/

theorem atMost_iff : x.atMost y = true ↔
    ∃ i j, x.rank = some i ∧ y.rank = some j ∧ i ≤ j := by
  unfold atMost
  split
  · next i j hx hy => simp [hx, hy]
  · next hnone =>
    constructor
    · intro h
      contradiction
    · rintro ⟨i, j, hx, hy, _⟩
      exact absurd hy (hnone i j hx)

theorem atMost_trans (hxy : x.atMost y = true) (hyz : y.atMost z = true) : x.atMost z = true := by
  obtain ⟨i, j, hx, hy, hij⟩ := atMost_iff.mp hxy
  obtain ⟨j', k, hy', hz, hjk⟩ := atMost_iff.mp hyz
  cases hy.symm.trans hy'
  exact atMost_iff.mpr ⟨i, k, hx, hz, hij.trans hjk⟩

theorem atMost_right (hxy : x.atMost y = true) : y.atMost y = true := by
  obtain ⟨_, j, _, hy, _⟩ := atMost_iff.mp hxy
  exact atMost_iff.mpr ⟨j, j, hy, hy, le_rfl⟩

theorem finite_atMost_iff :
    (finite false a).atMost (finite false b) = true ↔ a.place ≤ b.place := by
  change decide ((a.place : Int) ≤ (b.place : Int)) = true ↔ a.place ≤ b.place
  rw [decide_eq_true_eq, Int.ofNat_le]

/-- Infinity is above every number. -/
theorem atMost_infinite (hx : x.atMost x = true) : x.atMost (infinite false) = true := by
  obtain ⟨i, _, hi, _, _⟩ := atMost_iff.mp hx
  refine atMost_iff.mpr ⟨i, magnitudes, hi, rfl, ?_⟩
  cases x with
  | nan => contradiction
  | infinite negative => cases hi; split <;> omega
  | finite negative a =>
    have hplace := a.place_lt
    cases hi
    split <;> omega

theorem rank_ofQuotient (num den : Nat) :
    (ofQuotient false num den).rank = some (min (roundedPlace num den : Int) magnitudes) := by
  unfold ofQuotient
  split
  · next hplace =>
    have hle : (roundedPlace num den : Int) ≤ magnitudes := Int.ofNat_le.mpr hplace.le
    rw [min_eq_left hle]
    rfl
  · next hplace =>
    have hle : (magnitudes : Int) ≤ roundedPlace num den := Int.ofNat_le.mpr (not_lt.mp hplace)
    rw [min_eq_right hle]
    rfl

theorem ofQuotient_cases (num den : Nat) : ofQuotient false num den = infinite false ∨
    ∃ a, ofQuotient false num den = finite false a := by
  unfold ofQuotient
  split
  · exact .inr ⟨_, rfl⟩
  · exact .inl rfl

/-- Rounding keeps the order of quotients, also past the greatest finite value. -/
theorem ofQuotient_atMost (hden : 0 < den) (hden' : 0 < den') (hcross : num * den' ≤ num' * den) :
    (ofQuotient false num den).atMost (ofQuotient false num' den') = true := by
  have hplace := roundedPlace_mono hden hden' hcross
  refine atMost_iff.mpr ⟨_, _, rank_ofQuotient num den, rank_ofQuotient num' den', ?_⟩
  exact min_le_min_right _ (Int.ofNat_le.mpr hplace)

theorem ofQuotient_units (negative : Bool) (a : Magnitude) (hden : 0 < den) :
    ofQuotient negative (a.units * den) den = finite negative a :=
  ofQuotient_eq_finite_iff.mpr ⟨rfl, a.roundedPlace_units hden⟩

theorem ofQuotient_units_one (negative : Bool) (a : Magnitude) :
    ofQuotient negative a.units 1 = finite negative a := by
  have h := ofQuotient_units negative a Nat.one_pos
  rwa [Nat.mul_one] at h

/-- What is not below a positive value is infinity or a greater value. -/
theorem eq_of_finite_atMost (ha : 0 < a.place) (hx : (finite false a).atMost x = true) :
    x = infinite false ∨ ∃ b, x = finite false b ∧ a.place ≤ b.place := by
  obtain ⟨_, j, ⟨⟩, hj, hle⟩ := atMost_iff.mp hx
  change (a.place : Int) ≤ j at hle
  cases x with
  | nan => contradiction
  | infinite negative =>
    cases negative with
    | false => exact .inl rfl
    | true =>
      cases hj
      simp only [if_true] at hle
      omega
  | finite negative b =>
    cases negative with
    | false =>
      cases hj
      exact .inr ⟨b, rfl, Int.ofNat_le.mp hle⟩
    | true =>
      cases hj
      simp only [if_true] at hle
      omega

/-! ## Numbers from one upwards -/

theorem one_atMost_one : one.atMost one = true := by
  obtain ⟨unit, hone, _⟩ := exists_one_eq
  rw [hone]
  exact finite_atMost_iff.mpr le_rfl

theorem eq_of_one_atMost (hx : one.atMost x = true) :
    x = infinite false ∨ ∃ a, x = finite false a ∧ scale ≤ a.units := by
  obtain ⟨unit, hone, hunits, hplace⟩ := exists_one_eq
  rw [hone] at hx
  refine (eq_of_finite_atMost hplace hx).imp_right ?_
  rintro ⟨a, rfl, hle⟩
  exact ⟨a, rfl, hunits ▸ Magnitude.units_le_units hle⟩

theorem one_mul (x : Binary64) : one.mul x = x := by
  obtain ⟨unit, hone, hunits, _⟩ := exists_one_eq
  rw [hone]
  cases x with
  | nan => rfl
  | infinite negative =>
    rw [mul, if_neg (hunits ▸ scale_pos.ne'), Bool.false_bne]
  | finite negative a =>
    rw [mul, hunits, Nat.mul_comm, ofQuotient_units _ a scale_pos, Bool.false_bne]

theorem infinite_mul (hy : one.atMost y = true) : (infinite false).mul y = infinite false := by
  rcases eq_of_one_atMost hy with rfl | ⟨b, rfl, hb⟩
  · rfl
  · rw [mul, if_neg (scale_pos.trans_le hb).ne', Bool.false_bne]

theorem finite_mul_infinite (ha : 0 < a.units) :
    (finite false a).mul (infinite false) = infinite false := by
  rw [mul, if_neg ha.ne', Bool.false_bne]

theorem finite_mul_finite (a b : Magnitude) :
    (finite false a).mul (finite false b) = ofQuotient false (a.units * b.units) scale := rfl

theorem finite_mul_atMost (ha : a.place ≤ a'.place) (hb : b.place ≤ b'.place) :
    ((finite false a).mul (finite false b)).atMost ((finite false a').mul (finite false b')) =
      true := by
  rw [finite_mul_finite, finite_mul_finite]
  apply ofQuotient_atMost scale_pos scale_pos
  apply Nat.mul_le_mul_right
  exact Nat.mul_le_mul (Magnitude.units_le_units ha) (Magnitude.units_le_units hb)

theorem exists_of_atMost_finite (hx : one.atMost x = true)
    (hle : x.atMost (finite false b) = true) : ∃ a, x = finite false a ∧ a.place ≤ b.place := by
  rcases eq_of_one_atMost hx with rfl | ⟨a, rfl, _⟩
  · have hplace : (magnitudes : Int) ≤ b.place := of_decide_eq_true hle
    exact absurd b.place_lt (not_lt.mpr (Int.ofNat_le.mp hplace))
  · exact ⟨a, rfl, finite_atMost_iff.mp hle⟩

theorem one_atMost_mul (hx : one.atMost x = true) (hy : one.atMost y = true) :
    one.atMost (x.mul y) = true := by
  rcases eq_of_one_atMost hx with rfl | ⟨a, rfl, ha⟩
  · rw [infinite_mul hy]
    exact atMost_infinite one_atMost_one
  rcases eq_of_one_atMost hy with rfl | ⟨b, rfl, hb⟩
  · rw [finite_mul_infinite (scale_pos.trans_le ha)]
    exact atMost_infinite one_atMost_one
  obtain ⟨unit, hone, hunits, _⟩ := exists_one_eq
  rw [hone, ← ofQuotient_units false unit scale_pos, hunits, finite_mul_finite]
  apply ofQuotient_atMost scale_pos scale_pos
  exact Nat.mul_le_mul_right _ (Nat.mul_le_mul ha hb)

/-- Products of numbers from one upwards keep the order of their factors. -/
theorem mul_atMost_mul (hx : one.atMost x = true) (hy : one.atMost y = true)
    (hxx' : x.atMost x' = true) (hyy' : y.atMost y' = true) :
    (x.mul y).atMost (x'.mul y') = true := by
  have hbound := atMost_infinite (atMost_right (one_atMost_mul hx hy))
  rcases eq_of_one_atMost (atMost_trans hx hxx') with rfl | ⟨a', rfl, ha'⟩
  · rwa [infinite_mul (atMost_trans hy hyy')]
  rcases eq_of_one_atMost (atMost_trans hy hyy') with rfl | ⟨b', rfl, _⟩
  · rwa [finite_mul_infinite (scale_pos.trans_le ha')]
  obtain ⟨a, rfl, haa'⟩ := exists_of_atMost_finite hx hxx'
  obtain ⟨b, rfl, hbb'⟩ := exists_of_atMost_finite hy hyy'
  exact finite_mul_atMost haa' hbb'

/-! ## Repeated squaring -/

theorem powerLoop_zero (bits : Nat) (result square : Binary64) :
    powerLoop bits result square 0 = result := by
  cases bits with
  | zero => rfl
  | succ bits => rfl

theorem powerLoop_succ (bits : Nat) (result square : Binary64) (exponent : Nat) :
    powerLoop (bits + 1) result square exponent =
      powerLoop bits (if exponent % 2 = 1 then result.mul square else result)
        (square.mul square) (exponent / 2) := by
  rw [powerLoop]
  split
  · next hlast => rw [hlast, powerLoop_zero]
  · rfl

/-- A greater value to start with leads to no smaller power. -/
theorem powerLoop_atMost {bits more exponent : Nat} (hbits : exponent < bits)
    (hmore : exponent < more) (hone : one.atMost result = true) (hsquare : one.atMost square = true)
    (hle : result.atMost result' = true) :
    (powerLoop bits result square exponent).atMost (powerLoop more result' square exponent) =
      true := by
  induction bits generalizing more result result' square exponent with
  | zero => contradiction
  | succ bits ih =>
    rcases Nat.eq_zero_or_pos exponent with rfl | hpos
    · rwa [powerLoop_zero, powerLoop_zero]
    obtain ⟨more, rfl⟩ := Nat.exists_eq_succ_of_ne_zero (Nat.ne_zero_of_lt hmore)
    rw [powerLoop_succ, powerLoop_succ]
    apply ih (by omega) (by omega) _ (one_atMost_mul hsquare hsquare)
    · split
      · exact mul_atMost_mul hone hsquare hle (atMost_right hsquare)
      · exact hle
    · split
      · exact one_atMost_mul hone hsquare
      · exact hone

/-- What the lower bits have led to is at most the square for the next bit, so that a power does not
fall when a carry exchanges the one for the other. -/
theorem powerLoop_atMost_succ {bits more exponent : Nat} (hbits : exponent < bits)
    (hmore : exponent + 1 < more) (hone : one.atMost result = true)
    (hle : result.atMost square = true) :
    (powerLoop bits result square exponent).atMost (powerLoop more one square (exponent + 1)) =
      true := by
  induction bits generalizing more result square exponent with
  | zero => contradiction
  | succ bits ih =>
    have hsquare := atMost_trans hone hle
    have hnext := one_atMost_mul hsquare hsquare
    obtain ⟨more, rfl⟩ := Nat.exists_eq_succ_of_ne_zero (Nat.ne_zero_of_lt hmore)
    rw [powerLoop_succ, powerLoop_succ]
    rcases Nat.mod_two_eq_zero_or_one exponent with heven | hodd
    · have hhalf : (exponent + 1) / 2 = exponent / 2 := by omega
      rw [if_neg (by omega), if_pos (by omega), one_mul, hhalf]
      rcases Nat.eq_zero_or_pos exponent with rfl | hpos
      · rw [Nat.zero_div, powerLoop_zero, powerLoop_zero]
        exact hle
      · exact powerLoop_atMost (by omega) (by omega) hone hnext hle
    · have hhalf : (exponent + 1) / 2 = exponent / 2 + 1 := by omega
      rw [if_pos hodd, if_neg (by omega), hhalf]
      apply ih (by omega) (by omega) (one_atMost_mul hone hsquare)
      exact mul_atMost_mul hone hsquare hle (atMost_right hsquare)

/-- Powers do not fall when the exponent grows. -/
theorem power_atMost {m n : Nat} (hbase : one.atMost base = true) (hle : m ≤ n) :
    (base.power m).atMost (base.power n) = true := by
  induction n, hle using Nat.le_induction with
  | base => exact powerLoop_atMost (by omega) (by omega) one_atMost_one hbase one_atMost_one
  | succ n _ ih =>
    apply atMost_trans ih
    exact powerLoop_atMost_succ (by omega) (by omega) one_atMost_one hbase

theorem one_atMost_power (hbase : one.atMost base = true) (n : Nat) :
    one.atMost (base.power n) = true := by
  have hle := power_atMost hbase n.zero_le
  rwa [power, powerLoop_zero] at hle

/-! ## Powers of two -/

theorem ofNat_atMost {n k : Nat} (hle : n ≤ k) : (ofNat n).atMost (ofNat k) = true := by
  unfold ofNat
  apply ofQuotient_atMost Nat.one_pos Nat.one_pos
  exact Nat.mul_le_mul_right _ (Nat.mul_le_mul_right _ hle)

theorem one_atMost_ofNat {n : Nat} (hn : 0 < n) : one.atMost (ofNat n) = true := by
  unfold one
  exact ofNat_atMost hn

/-- The least natural number behind all finite values. -/
def ceiling : Nat := Nat.pow 2 1024

theorem exists_ceiling_eq : ∃ top, top = 971 ∧ ceiling = 2 * binade * 2 ^ top :=
  ⟨971, rfl, by decide +kernel⟩

theorem two_pow_lt_ceiling_iff {e : Nat} : 2 ^ e < ceiling ↔ e < 1024 := by
  obtain ⟨top, htop, hceiling⟩ := exists_ceiling_eq
  have hsignificand : 2 * binade = 2 ^ 53 := rfl
  rw [hceiling, hsignificand, ← Nat.pow_add, Nat.pow_lt_pow_iff_right (by decide)]
  omega

theorem ofNat_zero : ofNat 0 = finite false Magnitude.zero := by
  have hexact := ofQuotient_units_one false Magnitude.zero
  rw [Magnitude.units_zero] at hexact
  rw [ofNat, Nat.zero_mul, hexact]

/-- Natural numbers that fit in the significand are exact. -/
theorem exists_ofNat_of_lt {n : Nat} (hn : n < 2 * binade) :
    ∃ a, ofNat n = finite false a ∧ a.units = n * scale := by
  have h := exists_ofNat_mul_two_pow hn (Nat.zero_le 971)
  rwa [Nat.pow_zero, Nat.mul_one] at h

theorem roundedPlace_ceiling : roundedPlace (ceiling * scale) 1 = magnitudes := by decide +kernel

theorem ofNat_eq_infinite {n : Nat} (hn : ceiling ≤ n) : ofNat n = infinite false := by
  have hplace : magnitudes ≤ roundedPlace (n * scale) 1 := by
    rw [← roundedPlace_ceiling]
    apply roundedPlace_mono Nat.one_pos Nat.one_pos
    exact Nat.mul_le_mul_right _ (Nat.mul_le_mul_right _ hn)
  rw [ofNat, ofQuotient, dif_neg (not_lt.mpr hplace)]

/-- A finite natural number is exact if what is left without its powers of two fits in the
significand. -/
theorem exists_ofNat_eq_of_lt {g e : Nat} (hg : g < 2 * binade) (hlt : g * 2 ^ e < ceiling) :
    ∃ a, ofNat (g * 2 ^ e) = finite false a ∧ a.units = g * 2 ^ e * scale := by
  obtain ⟨top, htop, hceiling⟩ := exists_ceiling_eq
  rcases Nat.le_total e top with hle | hge
  · exact exists_ofNat_mul_two_pow hg (hle.trans htop.le)
  · obtain ⟨more, rfl⟩ := Nat.exists_eq_add_of_le hge
    have hsplit : g * 2 ^ (top + more) = g * 2 ^ more * 2 ^ top := by ring
    rw [hsplit, hceiling] at hlt
    rw [hsplit]
    exact exists_ofNat_mul_two_pow (Nat.lt_of_mul_lt_mul_right hlt) htop.le

/-- The product of exact numbers is rounded once. -/
theorem mul_of_units_eq {n k : Nat} (ha : a.units = n * scale) (hb : b.units = k * scale) :
    (finite false a).mul (finite false b) = ofNat (n * k) := by
  have hplace : roundedPlace (n * scale * (k * scale)) scale = roundedPlace (n * k * scale) 1 := by
    apply roundedPlace_eq_of_cross scale_pos Nat.one_pos
    ring
  rw [finite_mul_finite, ha, hb, ofNat, ofQuotient, ofQuotient]
  simp only [hplace]

/-- A number below the ceiling keeps its digits when it is multiplied by a power of two, unless the
product is behind the ceiling. -/
theorem ofNat_mul_two_pow {g : Nat} (hpos : 0 < g) (hg : g < 2 * binade) (k e : Nat) :
    (ofNat (g * 2 ^ k)).mul (ofNat (2 ^ e)) = ofNat (g * 2 ^ (k + e)) := by
  have hsplit : g * 2 ^ (k + e) = g * 2 ^ k * 2 ^ e := by ring
  have hleft : 0 < g * 2 ^ k := Nat.mul_pos hpos (Nat.two_pow_pos k)
  rw [hsplit]
  rcases Nat.lt_or_ge (g * 2 ^ k) ceiling with hlow | hhigh
  · obtain ⟨a, ha, haunits⟩ := exists_ofNat_eq_of_lt hg hlow
    rcases Nat.lt_or_ge (2 ^ e) ceiling with hlow' | hhigh'
    · rw [← Nat.one_mul (2 ^ e)] at hlow' ⊢
      obtain ⟨b, hb, hbunits⟩ := exists_ofNat_eq_of_lt (by decide) hlow'
      rw [ha, hb, mul_of_units_eq haunits hbunits]
    · rw [ofNat_eq_infinite hhigh', ha, finite_mul_infinite, ofNat_eq_infinite]
      · exact hhigh'.trans (Nat.le_mul_of_pos_left _ hleft)
      · rw [haunits]
        exact Nat.mul_pos hleft scale_pos
  · have hone := one_atMost_ofNat (Nat.two_pow_pos e)
    rw [ofNat_eq_infinite hhigh, infinite_mul hone, ofNat_eq_infinite]
    exact hhigh.trans (Nat.le_mul_of_pos_right _ (Nat.two_pow_pos e))

theorem powerLoop_two_pow {bits exponent : Nat} (hbits : exponent < bits) (k e : Nat) :
    powerLoop bits (ofNat (2 ^ k)) (ofNat (2 ^ e)) exponent = ofNat (2 ^ (k + e * exponent)) := by
  have hmul (k e : Nat) : (ofNat (2 ^ k)).mul (ofNat (2 ^ e)) = ofNat (2 ^ (k + e)) := by
    have h := ofNat_mul_two_pow Nat.one_pos (by decide) k e
    rwa [Nat.one_mul, Nat.one_mul] at h
  induction bits generalizing k e exponent with
  | zero => contradiction
  | succ bits ih =>
    rcases Nat.eq_zero_or_pos exponent with rfl | hpos
    · rw [powerLoop_zero, Nat.mul_zero, Nat.add_zero]
    rw [powerLoop_succ, hmul, hmul]
    rcases Nat.mod_two_eq_zero_or_one exponent with heven | hodd
    · rw [if_neg (by omega), ih (by omega)]
      congr 2
      rw [← Nat.two_mul, Nat.mul_comm 2, Nat.mul_assoc]
      congr 2
      omega
    · rw [if_pos hodd, ih (by omega)]
      congr 2
      have hhalf : exponent = 1 + 2 * (exponent / 2) := by omega
      conv_rhs => rw [hhalf]
      ring

/-- Powers of two are exact up to infinity. -/
theorem power_two (n : Nat) : (ofNat 2).power n = ofNat (2 ^ n) := by
  have hloop := powerLoop_two_pow n.lt_succ_self 0 1
  rwa [Nat.zero_add, Nat.one_mul] at hloop

end Binary64

end Courier
