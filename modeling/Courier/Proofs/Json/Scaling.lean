import Courier.Proofs.Json.Reread

/-!
# Scaling by powers of ten

A number that was written is scaled to a finite number when it is read: dividing by a power of ten
leads to no greater value, and multiplying by one does not pass the greatest value, since no
shortest decimal lies above it.  If the digits and the power of ten are exact, only the result of
the scaling is rounded, and this leads back to the number that was written.
-/

namespace Courier.Json

open Binary64 Reader

namespace Reader

variable {value : Binary64} {exponent : Int} {significand : Nat}

/-! ## Dividing -/

theorem exists_powerOfTen_eq {e k : Nat} (he : e ≤ k) (hfinite : (powerOfTen k).isFinite = true) :
    ∃ b, powerOfTen e = .finite false b ∧ scale ≤ b.units := by
  have hlarge : Nat.pow 10 e ≤ Nat.pow 10 k := Nat.pow_le_pow_right (by decide) he
  obtain ⟨p, a, ha⟩ := exists_of_isFinite hfinite
  obtain ⟨b, hb, _⟩ := exists_ofNat_eq hlarge ha
  exact ⟨b, hb, scale_le_units (Nat.pow_pos (by decide)) hb⟩

theorem isFinite_powerOfTen : (powerOfTen 308).isFinite = true := by decide +kernel

/-- Dividing by powers of ten, in however many steps, leads to a finite number. -/
theorem exists_scaleTen_of_neg (fuel : Nat) (hfinite : value.isFinite = true)
    (hneg : exponent < 0) :
    ∃ p a, scaleTen fuel value exponent = some (.finite p a) := by
  obtain ⟨p, a, rfl⟩ := exists_of_isFinite hfinite
  induction fuel generalizing p a exponent with
  | zero => exact ⟨p, a, rfl⟩
  | succ fuel ih =>
    have hnonneg : ¬ 0 ≤ exponent := not_le.mpr hneg
    unfold scaleTen
    split
    · next hsmall =>
      obtain ⟨b, hb, hone⟩ := exists_powerOfTen_eq hsmall isFinite_powerOfTen
      obtain ⟨c, hc⟩ := exists_div_eq (p := p) (a := a) (q := false) hone
      rw [hb, hc]
      exact ⟨_, c, rfl⟩
    split
    · exact ⟨p, a, rfl⟩
    · obtain ⟨b, hb, hone⟩ := exists_powerOfTen_eq le_rfl isFinite_powerOfTen
      obtain ⟨c, hc⟩ := exists_div_eq (p := p) (a := a) (q := false) hone
      rw [hb, hc]
      exact ih (by omega) _ c (by rfl)

/-! ## Multiplying -/

/-- The greatest value, as a natural number. -/
def summit : Nat := Magnitude.greatest.units / scale

/-- A whole decimal that does not lie above the greatest value. -/
theorem product_le_summit {n e : Nat}
    (hmost : scale * Decimal.numerator ⟨n, e⟩ ≤
      Magnitude.greatest.units * Decimal.denominator ⟨n, e⟩) : n * 10 ^ e ≤ summit := by
  unfold Decimal.numerator Decimal.denominator at hmost
  unfold summit
  dsimp only at hmost
  generalize Magnitude.greatest.units = units at hmost ⊢
  rw [Int.toNat_natCast, Int.toNat_neg_natCast, Nat.pow_zero, Nat.mul_one,
    Nat.mul_comm scale] at hmost
  exact (Nat.le_div_iff_mul_le scale_pos).mpr hmost

theorem exists_scaleTen_of_nonneg (fuel : Nat) (hnonneg : 0 ≤ exponent)
    (hexponent : exponent.natAbs ≤ 308)
    (hfinite : (value.mul (powerOfTen exponent.natAbs)).isFinite = true) :
    ∃ p a, scaleTen (fuel + 1) value exponent = some (.finite p a) := by
  obtain ⟨p, a, hproduct⟩ := exists_of_isFinite hfinite
  refine ⟨p, a, ?_⟩
  rw [scaleTen, if_pos hexponent, if_pos hnonneg]
  dsimp only
  rw [if_pos hfinite, hproduct]

theorem isFinite_mul_powerOfTen {n n' e k : Nat} (hn : n ≤ n') (he : e ≤ k)
    (hfinite : ((ofNat n').mul (powerOfTen k)).isFinite = true) :
    ((ofNat n).mul (powerOfTen e)).isFinite = true :=
  isFinite_ofNat_mul hn (Nat.pow_le_pow_right (by decide) he) hfinite

theorem lt_of_product_le {n e k : Nat} (hn : 0 < n) (hproduct : n * 10 ^ e ≤ summit)
    (hk : summit < 10 ^ k) : e < k := by
  apply (Nat.pow_lt_pow_iff_right (show 1 < 10 by decide)).mp
  exact ((Nat.le_mul_of_pos_left _ hn).trans hproduct).trans_lt hk

/-- A product that does not lie above the greatest value is finite, although both factors and the
product are rounded. -/
theorem isFinite_product {n e : Nat} (hn : 0 < n) (hword : n ≤ 10 ^ 17)
    (hproduct : n * 10 ^ e ≤ summit) :
    e ≤ 308 ∧ ((ofNat n).mul (powerOfTen e)).isFinite = true := by
  have he : e < 309 := lt_of_product_le hn hproduct (by decide +kernel)
  refine ⟨Nat.le_of_lt_succ he, ?_⟩
  rcases Nat.lt_or_ge e 292 with hsmall | hlarge
  · exact isFinite_mul_powerOfTen hword (Nat.le_of_lt_succ hsmall) (by decide +kernel)
  · -- From here on the digits are fewer, so that the greatest factor depends on the power.
    have hchecked : ∀ e ∈ List.range' 292 17,
        ((ofNat (summit / 10 ^ e)).mul (powerOfTen e)).isFinite = true := by decide +kernel
    have hfactor : n ≤ summit / 10 ^ e :=
      (Nat.le_div_iff_mul_le (Nat.pow_pos (by decide))).mpr hproduct
    exact isFinite_mul_powerOfTen hfactor le_rfl (hchecked e (List.mem_range'_1.mpr ⟨hlarge, he⟩))

/-! ## Written numbers -/

theorem exists_scaled {fuel : Nat} (negative : Bool)
    (hscaled : ∃ p a, scaleTen fuel (ofNat significand) exponent = some (.finite p a))
    (hfuel : fuel = exponent.natAbs / 308 + 1) :
    ∃ found, (scaled negative significand exponent []).toOption.map Prod.fst = some found := by
  obtain ⟨p, a, hscaled⟩ := hscaled
  refine ⟨.real negative a, ?_⟩
  rw [scaled, ← hfuel, hscaled]
  rfl

theorem isFinite_ofNat (hword : significand ≤ 10 ^ 17) : (ofNat significand).isFinite = true := by
  have hgreatest : (ofNat (10 ^ 17)).isFinite = true := by decide +kernel
  obtain ⟨p, b, hb⟩ := exists_of_isFinite hgreatest
  obtain ⟨a, ha, _⟩ := exists_ofNat_eq hword hb
  rw [ha]
  rfl

/-- What is divided has at most seventeen digits, what is multiplied is as it was written. -/
theorem taken_cases {d : Decimal} (hd : d.digits ≤ 10 ^ 17) :
    (taken d).exponent < 0 ∧ (taken d).digits ≤ 10 ^ 17 ∨ 0 ≤ d.exponent ∧ taken d = d := by
  unfold taken
  split
  · next hwhole =>
    exact .inl ⟨(by decide : (-1 : Int) < 0), mul_pow_le (by omega)⟩
  · rcases Int.lt_or_le d.exponent 0 with hneg | hnonneg
    · exact .inl ⟨hneg, hd⟩
    · exact .inr ⟨hnonneg, rfl⟩

/-- Every number is written as a number that can be read. -/
theorem exists_number_reread (n : Number) : ∃ found, n.reread = some found := by
  cases n with
  | integer n => exact ⟨.integer n, rfl⟩
  | real negative m =>
    unfold Number.reread
    dsimp only
    rcases eq_or_ne m.place 0 with hzero | hm
    · rw [Magnitude.shortest_of_zero .toEven hzero]
      have hneg : (-1 : Int) < 0 := by decide
      have hnothing := exists_scaleTen_of_neg 1 (isFinite_ofNat (Nat.zero_le _)) hneg
      exact exists_scaled negative hnothing rfl
    have hmost := Magnitude.shortest_le_greatest hm
    obtain ⟨hshort, _⟩ := Magnitude.shortest_spec .toEven hm
    generalize m.shortest .toEven = d at hmost hshort ⊢
    rcases taken_cases hshort.digits_le with ⟨hneg, hword⟩ | ⟨hnonneg, htaken⟩
    · exact exists_scaled negative (exists_scaleTen_of_neg _ (isFinite_ofNat hword) hneg) rfl
    · rw [htaken]
      obtain ⟨n, exponent⟩ := d
      obtain ⟨e, rfl⟩ := Int.eq_ofNat_of_zero_le hnonneg
      obtain ⟨he, hfinite⟩ := isFinite_product (Nat.pos_of_ne_zero hshort.digits_ne_zero)
        hshort.digits_le (product_le_summit hmost)
      exact exists_scaled negative (exists_scaleTen_of_nonneg _ (Int.natCast_nonneg e) he hfinite)
        rfl

/-! ## Exact significands -/

/-- The zero behind the point changes nothing. -/
theorem roundsFrom_taken {m : Magnitude} {d : Decimal} (hd : m.RoundsFrom d) :
    m.RoundsFrom (taken d) := by
  unfold taken
  split
  · next hwhole =>
    obtain ⟨n, exponent⟩ := d
    obtain ⟨e, rfl⟩ := Int.eq_ofNat_of_zero_le hwhole.1
    have hten : 0 < 10 := by decide
    unfold Magnitude.RoundsFrom Decimal.numerator Decimal.denominator at hd ⊢
    rw [← Magnitude.attracts_mul hten] at hd
    have hnumerator : 4 * scale * (n * 10 ^ (e + 1) * 1) = 10 * (4 * scale * (n * 10 ^ e)) := by
      ring
    dsimp only at hd ⊢
    rw [Int.toNat_natCast, Int.toNat_neg_natCast, Nat.pow_zero, ← hnumerator] at hd
    exact hd
  · exact hd

/-- If the significand and the power of ten are exact, scaling rounds only once. -/
theorem scaleTen_of_exact {m : Magnitude} {d : Decimal} (fuel : Nat) (hd : m.RoundsFrom d)
    (hdigits : d.digits < 2 * binade) (hexponent : d.exponent.natAbs ≤ 22) :
    scaleTen (fuel + 1) (ofNat d.digits) d.exponent = some (.finite false m) := by
  obtain ⟨n, exponent⟩ := d
  dsimp only at hdigits hexponent ⊢
  obtain ⟨a, ha, haunits⟩ := exists_ofNat_mul_two_pow hdigits (Nat.zero_le 971)
  rw [Nat.pow_zero, Nat.mul_one] at ha haunits
  obtain ⟨b, hb, hbunits⟩ : ∃ b, powerOfTen exponent.natAbs = .finite false b ∧
      b.units = 10 ^ exponent.natAbs * scale := by
    have hpower : 10 ^ exponent.natAbs = 5 ^ exponent.natAbs * 2 ^ exponent.natAbs :=
      Nat.mul_pow 5 2 _
    have hfive : 5 ^ exponent.natAbs < 2 * binade :=
      (Nat.pow_le_pow_right (by decide) hexponent).trans_lt (by decide)
    rw [powerOfTen, Nat.pow_eq, hpower]
    exact exists_ofNat_mul_two_pow hfive (by omega)
  rw [scaleTen, if_pos (hexponent.trans (by decide)), ha, hb]
  split
  · next hnonneg =>
    obtain ⟨e, rfl⟩ := Int.eq_ofNat_of_zero_le hnonneg
    have hproduct : (Binary64.finite false a).mul (.finite false b) = .finite false m := by
      apply ofQuotient_eq_finite_iff.mpr
      refine ⟨rfl, hd.roundedPlace_eq scale_pos ?_⟩
      unfold Decimal.numerator Decimal.denominator
      dsimp only
      rw [haunits, hbunits, Int.toNat_natCast, Int.toNat_neg_natCast, Int.natAbs_natCast]
      ring
    rw [hproduct]
    rfl
  · next hneg =>
    obtain ⟨e, rfl⟩ := Int.exists_eq_neg_ofNat (Int.le_of_not_le hneg)
    have hpositive : 0 < b.units := by
      rw [hbunits]
      exact Nat.mul_pos (Nat.pow_pos (by decide)) scale_pos
    congr 1
    rw [div, if_neg hpositive.ne']
    apply ofQuotient_eq_finite_iff.mpr
    refine ⟨rfl, hd.roundedPlace_eq hpositive ?_⟩
    unfold Decimal.numerator Decimal.denominator
    dsimp only
    rw [haunits, hbunits, Int.neg_neg, Int.toNat_natCast, Int.toNat_neg_natCast, Int.natAbs_neg,
      Int.natAbs_natCast]
    ring

/-! ## Written values -/

theorem exists_forall₂ {α β : Type} {p : α → β → Prop} {l : List α}
    (hsome : ∀ a ∈ l, ∃ b, p a b) : ∃ found, List.Forall₂ p l found := by
  induction l with
  | nil => exact ⟨[], .nil⟩
  | cons a l ih =>
    obtain ⟨b, hb⟩ := hsome a List.mem_cons_self
    obtain ⟨found, hfound⟩ := ih fun a ha ↦ hsome a (List.mem_cons_of_mem _ ha)
    exact ⟨b :: found, .cons hb hfound⟩

end Reader

/-- A real number is modest if the digits that are written for it make up less than `2 ^ 53` and
are scaled by no more than twenty-two places. -/
def Modest : Number → Prop
  | .integer _ => True
  | .real _ m =>
    let d := taken (m.shortest .toEven)
    d.digits < 2 * binade ∧ d.exponent.natAbs ≤ 22

instance : DecidablePred Modest
  | .integer _ => .isTrue trivial
  | .real _ _ => inferInstanceAs (Decidable (_ ∧ _))

/-- Modest numbers are read as they were written. -/
theorem Modest.steady {n : Number} (hmodest : Modest n) : Steady n := by
  cases n with
  | integer n => rfl
  | real negative m =>
    rcases eq_or_ne m.place 0 with hzero | hm
    · have hnothing : ∀ negative, (scaled negative 0 (-1) []).toOption.map Prod.fst =
          some (.real negative Magnitude.zero) := by decide +kernel
      have hsame : m = Magnitude.zero := Magnitude.ext hzero
      rw [hsame]
      exact hnothing negative
    · obtain ⟨hdigits, hexponent⟩ := hmodest
      obtain ⟨_, hrounds⟩ := Magnitude.shortest_spec .toEven hm
      unfold Steady Number.reread scaled
      dsimp only
      rw [scaleTen_of_exact _ (roundsFrom_taken hrounds) hdigits hexponent]
      rfl

/-- Every value is written as a value that can be read. -/
theorem Fits.exists_reread {room : Nat} {v : Json} (hfits : Fits room v) :
    ∃ w, v.reread = some w := by
  induction hfits with
  | null => exact ⟨_, rfl⟩
  | bool => exact ⟨_, rfl⟩
  | string => exact ⟨_, rfl⟩
  | integer => exact ⟨_, rfl⟩
  | real _ negative m =>
    obtain ⟨found, hfound⟩ := exists_number_reread (.real negative m)
    exact ⟨.number found, Option.map_eq_some_iff.mpr ⟨found, hfound, rfl⟩⟩
  | array _ ih =>
    obtain ⟨found, hfound⟩ := exists_forall₂ ih
    exact ⟨.array found, Option.map_eq_some_iff.mpr ⟨found, rereadItems_eq_some.mpr hfound, rfl⟩⟩
  | @object _ members _ ih =>
    have hsome : ∀ m ∈ members, ∃ found, MemberReread m found := by
      intro m hm
      obtain ⟨w, hw⟩ := ih m hm
      exact ⟨(m.1, w), rfl, hw⟩
    obtain ⟨found, hfound⟩ := exists_forall₂ hsome
    exact ⟨.object found, Option.map_eq_some_iff.mpr ⟨found, rereadMembers_eq_some.mpr hfound, rfl⟩⟩

end Courier.Json
