import Courier.Binary64.Arithmetic
import Mathlib.Algebra.Order.Ring.Nat
import Mathlib.Data.Nat.Log
import Mathlib.Tactic.Positivity
import Mathlib.Tactic.Ring

/-!
# The order of rounded values

Rounding keeps the order of exact values and moves no value that is representable.  So the exact
values of magnitudes stand in the order of their places, a product of smaller factors is finite if
the product of greater ones is, and dividing by one or more leads to no greater value.
-/

namespace Courier

variable {num den num' den' : Nat}

/-! ## Nearest natural numbers -/

theorem roundHalfEven_mul_add (whole : Nat) {rest : Nat} (hrest : rest < den) :
    roundHalfEven (whole * den + rest) den =
      if 2 * rest < den then whole
      else if den < 2 * rest then whole + 1
      else whole + whole % 2 := by
  have hden : 0 < den := Nat.zero_lt_of_lt hrest
  unfold roundHalfEven roundHalf Tie.step
  dsimp only
  rw [Nat.mul_add_mod_of_lt hrest, Nat.mul_comm whole, Nat.mul_add_div hden,
    Nat.div_eq_of_lt hrest, Nat.add_zero]

theorem roundHalfEven_mul_self (n : Nat) (hden : 0 < den) : roundHalfEven (n * den) den = n := by
  have hround := roundHalfEven_mul_add n hden
  rwa [Nat.add_zero, if_pos (by omega)] at hround

/-- The whole part or the next natural number. -/
theorem roundHalf_cases (tie : Tie) (num den : Nat) :
    roundHalf tie num den = num / den ∨ roundHalf tie num den = num / den + 1 := by
  unfold roundHalf Tie.step
  dsimp only
  split
  · exact .inl rfl
  · split
    · exact .inr rfl
    · cases tie with
      | toEven =>
        have := Nat.mod_two_eq_zero_or_one (num / den)
        dsimp only
        omega
      | upward => exact .inr rfl

theorem div_le_roundHalfEven (num den : Nat) : num / den ≤ roundHalfEven num den := by
  have hcases := roundHalf_cases .toEven num den
  unfold roundHalfEven
  omega

theorem roundHalfEven_le_succ (num den : Nat) : roundHalfEven num den ≤ num / den + 1 := by
  have hcases := roundHalf_cases .toEven num den
  unfold roundHalfEven
  omega

theorem div_le_div_of_cross (hden : 0 < den) (hden' : 0 < den')
    (hcross : num * den' ≤ num' * den) : num / den ≤ num' / den' := by
  apply (Nat.le_div_iff_mul_le hden').mpr
  apply Nat.le_of_mul_le_mul_right _ hden
  calc num / den * den' * den
    _ = num / den * den * den' := by ring
    _ ≤ num * den' := Nat.mul_le_mul_right _ (Nat.div_mul_le_self num den)
    _ ≤ num' * den := hcross

/-- Of two quotients with the same whole part, the rests are compared. -/
theorem mod_cross_le (hcross : num * den' ≤ num' * den) (hsame : num / den = num' / den') :
    num % den * den' ≤ num' % den' * den := by
  have hnum : num * den' = num / den * den * den' + num % den * den' := by
    rw [← Nat.add_mul, Nat.div_add_mod']
  have hnum' : num' * den = num / den * den * den' + num' % den' * den := by
    rw [hsame, Nat.mul_right_comm, ← Nat.add_mul, Nat.div_add_mod']
  omega

/-- A natural number is the nearest one if it is at most a half away, and less if it is odd. -/
theorem roundHalfEven_eq {n : Nat} (hden : 0 < den) (hlow : 2 * (n * den) ≤ 2 * num + den)
    (hhigh : 2 * num ≤ 2 * (n * den) + den)
    (hodd : n % 2 = 1 → 2 * (n * den) < 2 * num + den ∧ 2 * num < 2 * (n * den) + den) :
    roundHalfEven num den = n := by
  rcases Nat.lt_or_ge num (n * den) with hbelow | habove
  · obtain ⟨whole, rfl⟩ : ∃ whole, n = whole + 1 := by
      apply Nat.exists_eq_add_of_le'
      exact Nat.pos_of_ne_zero fun hzero ↦ by simp [hzero] at hbelow
    obtain ⟨rest, rfl⟩ : ∃ rest, num = whole * den + rest := by
      apply Nat.exists_eq_add_of_le
      rw [Nat.add_mul, Nat.one_mul] at hlow
      omega
    rw [Nat.add_mul, Nat.one_mul] at hbelow hlow hodd
    rw [roundHalfEven_mul_add _ (by omega)]
    split_ifs <;> omega
  · obtain ⟨rest, rfl⟩ := Nat.exists_eq_add_of_le habove
    rw [roundHalfEven_mul_add _ (by omega)]
    split_ifs <;> omega

/-- Rounding to natural numbers keeps the order of quotients. -/
theorem roundHalfEven_mono (hden : 0 < den) (hden' : 0 < den')
    (hcross : num * den' ≤ num' * den) : roundHalfEven num den ≤ roundHalfEven num' den' := by
  rcases (div_le_div_of_cross hden hden' hcross).lt_or_eq with hlt | hsame
  · calc roundHalfEven num den
      _ ≤ num / den + 1 := roundHalfEven_le_succ num den
      _ ≤ num' / den' := hlt
      _ ≤ roundHalfEven num' den' := div_le_roundHalfEven num' den'
  · have hrest := mod_cross_le hcross hsame
    have hparity := Nat.mod_lt (num' / den') (show 0 < 2 by decide)
    have hdouble : 2 * (num % den) * den' ≤ 2 * (num' % den') * den := by
      rw [Nat.mul_assoc, Nat.mul_assoc]
      exact Nat.mul_le_mul_left 2 hrest
    -- A rest of at least a half is at least a half in the other denominator.
    have hhalf (h : den ≤ 2 * (num % den)) : den' ≤ 2 * (num' % den') := by
      apply Nat.le_of_mul_le_mul_left _ hden
      rw [Nat.mul_comm den (2 * _)]
      exact (Nat.mul_le_mul_right den' h).trans hdouble
    have hmore (h : den < 2 * (num % den)) : den' < 2 * (num' % den') := by
      apply Nat.lt_of_mul_lt_mul_left (a := den)
      rw [Nat.mul_comm den (2 * _)]
      exact (Nat.mul_lt_mul_of_pos_right h hden').trans_le hdouble
    unfold roundHalfEven roundHalf Tie.step
    dsimp only
    rw [hsame]
    split_ifs <;> omega

/-- What is less than half a step above a natural number is not rounded upwards. -/
theorem roundHalfEven_le {num den n : Nat} (hden : 0 < den) (hlow : 2 * num < (2 * n + 1) * den) :
    roundHalfEven num den ≤ n := by
  rcases Nat.lt_or_ge num (n * den) with hless | hge
  · calc roundHalfEven num den
      _ ≤ roundHalfEven (n * den) den :=
        roundHalfEven_mono hden hden (Nat.mul_le_mul_right _ hless.le)
      _ = n := roundHalfEven_mul_self n hden
  · obtain ⟨rest, rfl⟩ := Nat.exists_eq_add_of_le hge
    have hrest : 2 * rest < den := by
      have : (2 * n + 1) * den = 2 * (n * den) + den := by ring
      omega
    rw [roundHalfEven_mul_add n (by omega), if_pos hrest]

/-! ## Nearest places -/

namespace Binary64

theorem binade_pos : 0 < binade := by decide

-- The exponent is hidden so that the power is never worked out.
theorem exists_scale_eq : ∃ bits, bits = 1074 ∧ scale = 2 ^ bits := ⟨1074, rfl, by decide +kernel⟩

theorem scale_pos : 0 < scale := by
  obtain ⟨bits, _, hscale⟩ := exists_scale_eq
  rw [hscale]
  exact Nat.two_pow_pos bits

theorem log2_mono {n m : Nat} (hle : n ≤ m) : n.log2 ≤ m.log2 := by
  rw [Nat.log2_eq_log_two, Nat.log2_eq_log_two]
  exact Nat.log_mono_right hle

/-- The values of one spacing end with its second binade. -/
theorem roundedPlace_le (hden : 0 < den) :
    roundedPlace num den ≤ ((num / den).log2 - 52) * binade + 2 * binade := by
  unfold roundedPlace
  dsimp only
  apply Nat.add_le_add_left
  generalize hspacing : (num / den).log2 - 52 = spacing
  have hstep : 0 < den * Nat.pow 2 spacing := Nat.mul_pos hden (Nat.two_pow_pos _)
  have hwhole : num / den < 2 * binade * Nat.pow 2 spacing := by
    calc num / den
      _ < 2 ^ ((num / den).log2 + 1) := Nat.lt_log2_self
      _ ≤ 2 ^ (53 + spacing) := Nat.pow_le_pow_right (by decide) (by omega)
      _ = 2 * binade * Nat.pow 2 spacing := Nat.pow_add 2 53 spacing
  have hnum : num ≤ 2 * binade * (den * Nat.pow 2 spacing) := by
    rw [Nat.mul_left_comm, Nat.mul_comm den]
    exact ((Nat.div_lt_iff_lt_mul hden).mp hwhole).le
  calc roundHalfEven num (den * Nat.pow 2 spacing)
    _ ≤ roundHalfEven (2 * binade * (den * Nat.pow 2 spacing)) (den * Nat.pow 2 spacing) :=
      roundHalfEven_mono hstep hstep (Nat.mul_le_mul_right _ hnum)
    _ = 2 * binade := roundHalfEven_mul_self _ hstep

/-- The values of one spacing begin with its first binade, unless it is the least spacing. -/
theorem le_roundedPlace (hden : 0 < den) (hspacing : 0 < (num / den).log2 - 52) :
    ((num / den).log2 - 52) * binade + binade ≤ roundedPlace num den := by
  have hne : num / den ≠ 0 := by
    intro hzero
    rw [hzero, Nat.log2_zero] at hspacing
    omega
  have hlow := Nat.log2_self_le hne
  unfold roundedPlace
  dsimp only
  apply Nat.add_le_add_left
  generalize hlog : (num / den).log2 - 52 = spacing at hspacing ⊢
  have hstep : 0 < den * Nat.pow 2 spacing := Nat.mul_pos hden (Nat.two_pow_pos _)
  have hwhole : binade * Nat.pow 2 spacing ≤ num / den := by
    calc binade * Nat.pow 2 spacing
      _ = 2 ^ (52 + spacing) := (Nat.pow_add 2 52 spacing).symm
      _ = 2 ^ (num / den).log2 := by congr 1; omega
      _ ≤ num / den := hlow
  calc binade
    _ ≤ num / (den * Nat.pow 2 spacing) := by
      apply (Nat.le_div_iff_mul_le hstep).mpr
      rw [Nat.mul_left_comm, Nat.mul_comm den]
      exact (Nat.le_div_iff_mul_le hden).mp hwhole
    _ ≤ roundHalfEven num (den * Nat.pow 2 spacing) := div_le_roundHalfEven _ _

theorem log2_sub_eq {n spacing : Nat} (hhigh : n < 2 * binade * 2 ^ spacing)
    (hlow : spacing = 0 ∨ binade * 2 ^ spacing ≤ n) : n.log2 - 52 = spacing := by
  rcases Nat.eq_zero_or_pos n with rfl | hpos
  · have hstep : 0 < binade * 2 ^ spacing := Nat.mul_pos binade_pos (Nat.two_pow_pos _)
    rw [Nat.log2_zero]
    omega
  have hless : n.log2 < 53 + spacing := by
    rw [Nat.log2_lt hpos.ne', Nat.pow_add]
    exact hhigh
  rcases hlow with rfl | hlow
  · omega
  · have hle : 52 + spacing ≤ n.log2 := by
      rw [Nat.le_log2 hpos.ne', Nat.pow_add]
      exact hlow
    omega

/-- Rounding keeps the order of quotients. -/
theorem roundedPlace_mono (hden : 0 < den) (hden' : 0 < den') (hcross : num * den' ≤ num' * den) :
    roundedPlace num den ≤ roundedPlace num' den' := by
  have hspacing : (num / den).log2 - 52 ≤ (num' / den').log2 - 52 :=
    Nat.sub_le_sub_right (log2_mono (div_le_div_of_cross hden hden' hcross)) 52
  rcases hspacing.lt_or_eq with hlt | hsame
  · calc roundedPlace num den
      _ ≤ ((num / den).log2 - 52) * binade + 2 * binade := roundedPlace_le hden
      _ = ((num / den).log2 - 52 + 1) * binade + binade := by ring
      _ ≤ ((num' / den').log2 - 52) * binade + binade :=
        Nat.add_le_add_right (Nat.mul_le_mul_right _ hlt) _
      _ ≤ roundedPlace num' den' := le_roundedPlace hden' (Nat.zero_lt_of_lt hlt)
  · unfold roundedPlace
    dsimp only
    rw [hsame]
    apply Nat.add_le_add_left
    have hstep : 0 < Nat.pow 2 ((num' / den').log2 - 52) := Nat.two_pow_pos _
    apply roundHalfEven_mono (Nat.mul_pos hden hstep) (Nat.mul_pos hden' hstep)
    rw [← Nat.mul_assoc, ← Nat.mul_assoc]
    exact Nat.mul_le_mul_right _ hcross

/-- Equal quotients are rounded alike. -/
theorem roundedPlace_eq_of_cross (hden : 0 < den) (hden' : 0 < den')
    (hcross : num * den' = num' * den) : roundedPlace num den = roundedPlace num' den' :=
  (roundedPlace_mono hden hden' hcross.le).antisymm (roundedPlace_mono hden' hden hcross.ge)

end Binary64

namespace Magnitude

open Binary64

variable {m a b : Magnitude}

/-- The significand, and how its size goes with the spacing. -/
theorem exists_units_eq (m : Magnitude) :
    ∃ significand, m.place = m.spacing * binade + significand ∧
      m.units = significand * 2 ^ m.spacing ∧ significand < 2 * binade ∧
        (m.spacing = 0 ∨ binade ≤ significand) := by
  have hsplit := Nat.div_add_mod m.place binade
  have hmod := Nat.mod_lt m.place binade_pos
  have hspacing : m.spacing = m.place / binade - 1 := rfl
  have hle : m.spacing * binade ≤ m.place := by
    rw [hspacing, Nat.sub_mul, Nat.mul_comm, Nat.one_mul]
    omega
  refine ⟨m.place - m.spacing * binade, (Nat.add_sub_cancel' hle).symm, rfl, ?_, ?_⟩
  · rw [hspacing, Nat.sub_mul, Nat.mul_comm, Nat.one_mul]
    omega
  · rw [hspacing, Nat.sub_mul, Nat.mul_comm, Nat.one_mul]
    rcases Nat.eq_zero_or_pos (m.place / binade) with hzero | hpos
    · exact .inl (by omega)
    · have : binade ≤ binade * (m.place / binade) := Nat.le_mul_of_pos_right _ hpos
      omega

theorem log2_units (m : Magnitude) : m.units.log2 - 52 = m.spacing := by
  obtain ⟨significand, _, hunits, hhigh, hlow⟩ := m.exists_units_eq
  rw [hunits]
  apply log2_sub_eq
  · exact Nat.mul_lt_mul_of_pos_right hhigh (Nat.two_pow_pos _)
  · exact hlow.imp_right fun hle ↦ Nat.mul_le_mul_right _ hle

/-- A representable value is rounded to itself. -/
theorem roundedPlace_units (m : Magnitude) (hden : 0 < den) :
    roundedPlace (m.units * den) den = m.place := by
  obtain ⟨significand, hplace, hunits, _, _⟩ := m.exists_units_eq
  unfold roundedPlace
  dsimp only
  rw [Nat.mul_div_cancel _ hden, m.log2_units, hplace, hunits, Nat.mul_assoc, Nat.mul_comm _ den]
  congr 1
  exact roundHalfEven_mul_self _ (Nat.mul_pos hden (Nat.two_pow_pos _))

/-- Less than half a step to the next value is rounded away. -/
theorem roundedPlace_units_add (m : Magnitude) {rest : Nat}
    (hrest : 2 * rest < 2 ^ m.spacing) : roundedPlace (m.units + rest) 1 = m.place := by
  obtain ⟨significand, hplace, hunits, hhigh, hlow⟩ := m.exists_units_eq
  have hspacing : (m.units + rest).log2 - 52 = m.spacing := by
    apply log2_sub_eq
    · calc m.units + rest
        _ < significand * 2 ^ m.spacing + 2 ^ m.spacing := by omega
        _ = (significand + 1) * 2 ^ m.spacing := by ring
        _ ≤ 2 * binade * 2 ^ m.spacing := Nat.mul_le_mul_right _ hhigh
    · refine hlow.imp_right fun hlow ↦ ?_
      rw [hunits]
      exact (Nat.mul_le_mul_right _ hlow).trans (Nat.le_add_right _ _)
  unfold roundedPlace
  dsimp only
  rw [Nat.div_one, hspacing, Nat.one_mul, hunits, Nat.pow_eq,
    roundHalfEven_mul_add significand (by omega), if_pos hrest, hplace]

theorem ext {a b : Magnitude} (hplace : a.place = b.place) : a = b := by
  cases a; cases b; cases hplace; rfl

/-- The exact values stand in the order of the places. -/
theorem units_le_units (hplace : a.place ≤ b.place) : a.units ≤ b.units := by
  by_contra hless
  have hback : b.place ≤ a.place := by
    rw [← b.roundedPlace_units Nat.one_pos, ← a.roundedPlace_units Nat.one_pos]
    apply roundedPlace_mono Nat.one_pos Nat.one_pos
    omega
  have hsame : a = b := ext (hplace.antisymm hback)
  exact hless (hsame ▸ le_rfl)

/-- The double of a value is a value, one binade further at most. -/
theorem exists_units_eq_double (m : Magnitude) (hroom : m.place + binade < magnitudes) :
    ∃ twice : Magnitude, twice.units = 2 * m.units ∧ twice.place ≤ m.place + binade := by
  have hunits : m.units = (m.place - m.spacing * binade) * 2 ^ m.spacing := rfl
  rcases Nat.lt_or_ge m.place binade with hsmall | hlarge
  · have hspacing : m.spacing = 0 := by
      rw [spacing, Nat.div_eq_of_lt hsmall]
    let twice : Magnitude := ⟨2 * m.place, by omega⟩
    have htwice : twice.spacing = 0 := by
      have hdiv : 2 * m.place / binade < 2 := (Nat.div_lt_iff_lt_mul binade_pos).mpr (by omega)
      change 2 * m.place / binade - 1 = 0
      omega
    refine ⟨twice, ?_, by change 2 * m.place ≤ _; omega⟩
    rw [hunits, hspacing, units, htwice, Nat.zero_mul]
    change 2 * m.place * 1 = 2 * (m.place * 1)
    omega
  · let twice : Magnitude := ⟨m.place + binade, hroom⟩
    have hspacing : twice.spacing = m.spacing + 1 := by
      have hdiv : 0 < m.place / binade := Nat.div_pos hlarge binade_pos
      change (m.place + binade) / binade - 1 = m.place / binade - 1 + 1
      rw [Nat.add_div_right _ binade_pos]
      omega
    refine ⟨twice, ?_, le_rfl⟩
    rw [hunits, units, hspacing, Nat.add_mul, Nat.one_mul]
    change (m.place + binade - (m.spacing * binade + binade)) * 2 ^ (m.spacing + 1) = _
    rw [Nat.add_sub_add_right, Nat.pow_succ]
    ring

/-- What is left of a value without its powers of two fits in the significand. -/
theorem exists_units_eq_mul_two_pow {g e : Nat} (hg : g < 2 * binade) (he : e ≤ 2045) :
    ∃ m : Magnitude, m.units = g * 2 ^ e := by
  suffices hplace : ∃ m : Magnitude, m.units = g * 2 ^ e ∧ m.place < (e + 2) * binade from
    hplace.imp fun _ h ↦ h.1
  have hbinade := binade_pos
  induction e with
  | zero =>
    have hspacing : g / binade - 1 = 0 := by
      have hdiv : g / binade < 2 := (Nat.div_lt_iff_lt_mul hbinade).mpr hg
      omega
    refine ⟨⟨g, hg.trans (by decide)⟩, ?_, by simpa using hg⟩
    rw [units, spacing, hspacing, Nat.zero_mul]
    rfl
  | succ e ih =>
    obtain ⟨m, hunits, hplace⟩ := ih (by omega)
    have hnext : m.place + binade < (e + 1 + 2) * binade := by
      rw [Nat.add_right_comm, Nat.add_mul _ 1, Nat.one_mul]
      omega
    have hroom : m.place + binade < magnitudes :=
      hnext.trans_le (Nat.mul_le_mul_right _ (by omega))
    obtain ⟨twice, htwice, hle⟩ := m.exists_units_eq_double hroom
    refine ⟨twice, ?_, hle.trans_lt hnext⟩
    rw [htwice, hunits, Nat.pow_succ]
    ring

end Magnitude

/-! ## Finite results -/

namespace Binary64

variable {x y : Binary64} {negative p q : Bool} {a b : Magnitude} {n k n' k' : Nat}

theorem ofQuotient_eq_finite_iff : ofQuotient negative num den = .finite p a ↔
    negative = p ∧ roundedPlace num den = a.place := by
  unfold ofQuotient
  split
  · next hplace =>
    constructor
    · intro h
      cases h
      exact ⟨rfl, rfl⟩
    · rintro ⟨rfl, hsame⟩
      exact congrArg _ (Magnitude.ext hsame)
  · next hplace =>
    constructor
    · intro h
      cases h
    · rintro ⟨-, hsame⟩
      exact absurd (hsame.trans_lt a.place_lt) hplace

theorem exists_of_isFinite (hfinite : x.isFinite = true) : ∃ p a, x = .finite p a := by
  cases x with
  | finite p a => exact ⟨p, a, rfl⟩
  | nan => contradiction
  | infinite => contradiction

/-- A quotient that is not greater than one with a finite result has a finite result. -/
theorem exists_ofQuotient_eq (hden : 0 < den) (hden' : 0 < den') (hcross : num' * den ≤ num * den')
    (hfinite : ofQuotient negative num den = .finite p b) :
    ∃ a, ofQuotient q num' den' = .finite q a ∧ a.place ≤ b.place := by
  obtain ⟨_, hplace⟩ := ofQuotient_eq_finite_iff.mp hfinite
  have hle : roundedPlace num' den' ≤ b.place := by
    rw [← hplace]
    exact roundedPlace_mono hden' hden hcross
  exact ⟨⟨roundedPlace num' den', hle.trans_lt b.place_lt⟩, ofQuotient_eq_finite_iff.mpr ⟨rfl, rfl⟩,
    hle⟩

theorem exists_ofNat_eq (hle : n ≤ k) (hfinite : ofNat k = .finite p b) :
    ∃ a, ofNat n = .finite false a ∧ a.units ≤ b.units := by
  obtain ⟨a, ha, hplace⟩ : ∃ a, ofNat n = .finite false a ∧ a.place ≤ b.place := by
    apply exists_ofQuotient_eq Nat.one_pos Nat.one_pos _ hfinite
    exact Nat.mul_le_mul_right _ (Nat.mul_le_mul_right _ hle)
  exact ⟨a, ha, Magnitude.units_le_units hplace⟩

/-- A natural number is exact if what is left without its powers of two fits in the significand. -/
theorem exists_ofNat_mul_two_pow {g e : Nat} (hg : g < 2 * binade) (he : e ≤ 971) :
    ∃ a, ofNat (g * 2 ^ e) = .finite false a ∧ a.units = g * 2 ^ e * scale := by
  obtain ⟨bits, hbits, hscale⟩ := exists_scale_eq
  obtain ⟨a, ha⟩ := Magnitude.exists_units_eq_mul_two_pow hg (show e + bits ≤ 2045 by omega)
  have hunits : a.units = g * 2 ^ e * scale := by
    rw [ha, hscale, Nat.pow_add, Nat.mul_assoc]
  refine ⟨a, ofQuotient_eq_finite_iff.mpr ⟨rfl, ?_⟩, hunits⟩
  rw [← hunits, ← a.roundedPlace_units Nat.one_pos, Nat.mul_one]

theorem exists_one_eq : ∃ unit, one = .finite false unit ∧ unit.units = scale ∧ 0 < unit.place :=
  ⟨⟨1023 * binade, by decide⟩, by decide +kernel⟩

theorem scale_le_units (hn : 0 < n) (hfinite : ofNat n = .finite p a) : scale ≤ a.units := by
  obtain ⟨unit, hone, hunits, _⟩ := exists_one_eq
  obtain ⟨b, hb, hle⟩ := exists_ofNat_eq hn hfinite
  cases hone.symm.trans hb
  exact hunits ▸ hle

theorem isFinite_of_mul (hfinite : (x.mul y).isFinite = true) :
    x.isFinite = true ∧ y.isFinite = true := by
  unfold mul at hfinite
  split at hfinite
  · exact ⟨rfl, rfl⟩
  · split at hfinite <;> contradiction
  · split at hfinite <;> contradiction
  · contradiction
  · contradiction

/-- A product of natural numbers is finite if a product of greater ones is. -/
theorem isFinite_ofNat_mul (hn : n ≤ n') (hk : k ≤ k')
    (hfinite : ((ofNat n').mul (ofNat k')).isFinite = true) :
    ((ofNat n).mul (ofNat k)).isFinite = true := by
  obtain ⟨hfirst, hsecond⟩ := isFinite_of_mul hfinite
  obtain ⟨p, b, hb⟩ := exists_of_isFinite hfirst
  obtain ⟨q, d, hd⟩ := exists_of_isFinite hsecond
  obtain ⟨a, ha, hab⟩ := exists_ofNat_eq hn hb
  obtain ⟨c, hc, hcd⟩ := exists_ofNat_eq hk hd
  rw [hb, hd] at hfinite
  obtain ⟨r, e, he⟩ := exists_of_isFinite hfinite
  have hcross : a.units * c.units * scale ≤ b.units * d.units * scale :=
    Nat.mul_le_mul_right _ (Nat.mul_le_mul hab hcd)
  obtain ⟨f, hf, _⟩ := exists_ofQuotient_eq (q := false != false) scale_pos scale_pos hcross he
  rw [ha, hc, mul, hf]
  rfl

/-- Dividing by one or more leads to no greater value. -/
theorem exists_div_eq (hone : scale ≤ b.units) :
    ∃ c, (finite p a).div (finite q b) = .finite (p != q) c := by
  have hb : 0 < b.units := Nat.lt_of_lt_of_le scale_pos hone
  have hself : ofQuotient p (a.units * scale) scale = .finite p a :=
    ofQuotient_eq_finite_iff.mpr ⟨rfl, a.roundedPlace_units scale_pos⟩
  obtain ⟨c, hc, _⟩ := exists_ofQuotient_eq (q := p != q) scale_pos hb
    (Nat.mul_le_mul_left (a.units * scale) hone) hself
  refine ⟨c, ?_⟩
  rw [div, if_neg hb.ne', hc]

end Binary64

end Courier
