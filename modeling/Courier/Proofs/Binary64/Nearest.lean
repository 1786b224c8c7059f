import Courier.Binary64.Shortest
import Courier.Proofs.Binary64.Rounding

/-!
# Values that round to a magnitude

The interval around a magnitude reaches half way to its neighbours.  All values in it are rounded to
this magnitude.
-/

namespace Courier.Magnitude

open Binary64

variable {m : Magnitude} {x y : Nat}

/-! ## The interval -/

theorem two_pow_spacing_le_units (hm : m.place ≠ 0) : 2 ^ m.spacing ≤ m.units := by
  obtain ⟨significand, hplace, hunits, _, hlow⟩ := m.exists_units_eq
  have hbinade := binade_pos
  have hfirst : 0 < significand := by
    rcases hlow with hzero | hlow
    · rw [hzero, Nat.zero_mul, Nat.zero_add] at hplace
      omega
    · omega
  rw [hunits]
  exact Nat.le_mul_of_pos_left _ hfirst

theorem reachUp_eq (m : Magnitude) : m.reachUp = 2 * 2 ^ m.spacing := rfl

/-- Below the first value of a spacing the values stand twice as close. -/
theorem reachDown_cases (m : Magnitude) :
    m.reachDown = 2 * 2 ^ m.spacing ∧ (m.spacing = 0 ∨ (binade + 1) * 2 ^ m.spacing ≤ m.units) ∨
      m.reachDown = 2 ^ m.spacing ∧ m.spacing ≠ 0 ∧ m.units = binade * 2 ^ m.spacing := by
  obtain ⟨significand, hplace, hunits, hhigh, hlow⟩ := m.exists_units_eq
  have hbinade : binade = 4503599627370496 := rfl
  rw [hbinade] at hhigh hlow
  unfold reachDown
  split
  · next hfirst =>
    right
    rw [hplace, hbinade] at hfirst
    have hsignificand : significand = binade := by omega
    exact ⟨rfl, by omega, by rw [hunits, hsignificand]⟩
  · next hlater =>
    left
    rw [hplace, hbinade] at hlater
    refine ⟨rfl, ?_⟩
    rcases Nat.eq_zero_or_pos m.spacing with hzero | hpos
    · exact .inl hzero
    · right
      rw [hunits]
      exact Nat.mul_le_mul_right _ (by omega)

theorem reachDown_le (m : Magnitude) : m.reachDown ≤ 2 * 2 ^ m.spacing := by
  rcases m.reachDown_cases with ⟨heq, _⟩ | ⟨heq, _⟩
  · exact heq.le
  · rw [heq]
    exact Nat.le_mul_of_pos_left _ (by decide)

theorem bounds_of_attracts (hattracts : m.attracts x y = true) :
    4 * m.units * y ≤ x + m.reachDown * y ∧ x ≤ 4 * m.units * y + m.reachUp * y ∧
      (m.place % 2 = 1 →
        4 * m.units * y < x + m.reachDown * y ∧ x < 4 * m.units * y + m.reachUp * y) := by
  unfold attracts at hattracts
  dsimp only at hattracts
  rw [Nat.sub_mul, Nat.add_mul] at hattracts
  split at hattracts
  · obtain ⟨hlow, hhigh⟩ := of_decide_eq_true hattracts
    omega
  · obtain ⟨hlow, hhigh⟩ := of_decide_eq_true hattracts
    omega

/-- Zero rounds to no positive magnitude. -/
theorem pos_of_attracts (hm : m.place ≠ 0) (hy : 0 < y) (hattracts : m.attracts x y = true) :
    0 < x := by
  have hunits := two_pow_spacing_le_units hm
  have hpositive : 0 < m.units * y := Nat.mul_pos ((Nat.two_pow_pos _).trans_le hunits) hy
  have hreach : m.reachDown * y ≤ 2 * (m.units * y) := by
    rw [← Nat.mul_assoc]
    exact Nat.mul_le_mul_right _ (m.reachDown_le.trans (Nat.mul_le_mul_left 2 hunits))
  obtain ⟨hlow, _⟩ := bounds_of_attracts hattracts
  rw [Nat.mul_assoc] at hlow
  omega

/-- The inside of the interval. -/
theorem attracts_of_lt (hm : m.place ≠ 0) (hlow : 4 * m.units * y < x + m.reachDown * y)
    (hhigh : x < 4 * m.units * y + m.reachUp * y) : m.attracts x y = true := by
  have hunits := two_pow_spacing_le_units hm
  have hreach := m.reachDown_le
  have hsub : m.reachDown * y ≤ 4 * m.units * y := Nat.mul_le_mul_right _ (by omega)
  unfold attracts
  dsimp only
  rw [Nat.sub_mul, Nat.add_mul]
  split
  · exact decide_eq_true (by omega)
  · exact decide_eq_true (by omega)

/-- The interval holds quotients, in whatever terms they are written. -/
theorem attracts_mul {c : Nat} (hc : 0 < c) : m.attracts (c * x) (c * y) = m.attracts x y := by
  unfold attracts
  dsimp only
  rw [Nat.mul_left_comm _ c, Nat.mul_left_comm _ c]
  simp only [Nat.mul_le_mul_left_iff hc, Nat.mul_lt_mul_left hc]

/-! ## Rounding -/

/-- A quotient is rounded to a value of the spacing in which it lies if it is at most half a step
away. -/
theorem roundedPlace_of_near {spacing significand : Nat} (hy : 0 < y)
    (hbefore : spacing = 0 ∨ binade * 2 ^ spacing * (4 * y) ≤ x)
    (hbehind : x < 2 * binade * 2 ^ spacing * (4 * y))
    (hlow : 4 * (significand * 2 ^ spacing) * y ≤ x + 2 * 2 ^ spacing * y)
    (hhigh : x ≤ 4 * (significand * 2 ^ spacing) * y + 2 * 2 ^ spacing * y)
    (hodd : significand % 2 = 1 →
      4 * (significand * 2 ^ spacing) * y < x + 2 * 2 ^ spacing * y ∧
        x < 4 * (significand * 2 ^ spacing) * y + 2 * 2 ^ spacing * y) :
    roundedPlace x (4 * y) = spacing * binade + significand := by
  have hden : 0 < 4 * y := Nat.mul_pos (by decide) hy
  have hspacing : (x / (4 * y)).log2 - 52 = spacing := by
    apply log2_sub_eq
    · exact (Nat.div_lt_iff_lt_mul hden).mpr hbehind
    · exact hbefore.imp_right (Nat.le_div_iff_mul_le hden).mpr
  have hvalue : 4 * (significand * 2 ^ spacing) * y = significand * (4 * y * 2 ^ spacing) := by ring
  have hhalf : 2 * (2 * 2 ^ spacing * y) = 4 * y * 2 ^ spacing := by ring
  unfold roundedPlace
  dsimp only
  rw [hspacing]
  congr 1
  rw [hvalue] at hlow hhigh hodd
  apply roundHalfEven_eq (Nat.mul_pos hden (Nat.two_pow_pos _))
  · change 2 * (significand * (4 * y * 2 ^ spacing)) ≤ 2 * x + 4 * y * 2 ^ spacing
    omega
  · change 2 * x ≤ 2 * (significand * (4 * y * 2 ^ spacing)) + 4 * y * 2 ^ spacing
    omega
  · intro h
    change 2 * (significand * (4 * y * 2 ^ spacing)) < 2 * x + 4 * y * 2 ^ spacing ∧
      2 * x < 2 * (significand * (4 * y * 2 ^ spacing)) + 4 * y * 2 ^ spacing
    have := hodd h
    omega

/-- Below the first value of a spacing the quotient lies in the spacing before. -/
theorem roundedPlace_of_below {spacing : Nat} (hy : 0 < y)
    (hlow : 4 * (binade * 2 ^ (spacing + 1)) * y ≤ x + 2 ^ (spacing + 1) * y)
    (hbelow : x < 4 * (binade * 2 ^ (spacing + 1)) * y) :
    roundedPlace x (4 * y) = (spacing + 1) * binade + binade := by
  have hvalue : 4 * (binade * 2 ^ (spacing + 1)) * y = 8 * (binade * (2 ^ spacing * y)) := by ring
  have hsame : 4 * (2 * binade * 2 ^ spacing) * y = 8 * (binade * (2 ^ spacing * y)) := by ring
  have hlast : 2 * binade * 2 ^ spacing * (4 * y) = 8 * (binade * (2 ^ spacing * y)) := by ring
  have hfirst : binade * 2 ^ spacing * (4 * y) = 4 * (binade * (2 ^ spacing * y)) := by ring
  have hreach : 2 ^ (spacing + 1) * y = 2 * 2 ^ spacing * y := by ring
  have hstep : 2 * 2 ^ spacing * y ≤ 4 * (binade * (2 ^ spacing * y)) := by
    rw [Nat.mul_assoc]
    exact Nat.mul_le_mul (by decide) (Nat.le_mul_of_pos_left _ binade_pos)
  rw [hvalue, hreach] at hlow
  rw [hvalue] at hbelow
  have hnear : roundedPlace x (4 * y) = spacing * binade + 2 * binade := by
    apply roundedPlace_of_near hy
    · rw [hfirst]
      omega
    · rwa [hlast]
    · rwa [hsame]
    · rw [hsame]
      exact hbelow.le.trans (Nat.le_add_right _ _)
    · omega
  rw [hnear]
  ring

/-- What a magnitude attracts is rounded to it. -/
theorem roundedPlace_of_attracts (hy : 0 < y) (hattracts : m.attracts x y = true) :
    roundedPlace x (4 * y) = m.place := by
  obtain ⟨significand, hplace, hunits, hsize, hfirst⟩ := m.exists_units_eq
  obtain ⟨hlow, hhigh, hodd⟩ := bounds_of_attracts hattracts
  rw [reachUp_eq, hunits] at hhigh hodd
  rw [hunits] at hlow
  have hparity : significand % 2 = 1 → m.place % 2 = 1 := by
    have hbinade : binade = 4503599627370496 := rfl
    rw [hplace, hbinade]
    omega
  have hstep : 0 < 2 * 2 ^ m.spacing * y :=
    Nat.mul_pos (Nat.mul_pos (by decide) (Nat.two_pow_pos _)) hy
  have hbehind : x < 2 * binade * 2 ^ m.spacing * (4 * y) := by
    calc x
      _ ≤ 4 * (significand * 2 ^ m.spacing) * y + 2 * 2 ^ m.spacing * y := hhigh
      _ < 4 * (significand * 2 ^ m.spacing) * y + 2 * (2 * 2 ^ m.spacing * y) := by omega
      _ = (significand + 1) * 2 ^ m.spacing * (4 * y) := by ring
      _ ≤ 2 * binade * 2 ^ m.spacing * (4 * y) :=
        Nat.mul_le_mul_right _ (Nat.mul_le_mul_right _ hsize)
  rw [hplace]
  rcases m.reachDown_cases with ⟨hreach, hinner⟩ | ⟨hreach, hne, hborder⟩
  · rw [hreach] at hlow hodd
    apply roundedPlace_of_near hy _ hbehind hlow hhigh fun h ↦ hodd (hparity h)
    refine hinner.imp_right fun hinner ↦ ?_
    have hvalue : (binade + 1) * 2 ^ m.spacing * (4 * y) ≤
        4 * (significand * 2 ^ m.spacing) * y := by
      calc (binade + 1) * 2 ^ m.spacing * (4 * y)
        _ ≤ m.units * (4 * y) := Nat.mul_le_mul_right _ hinner
        _ = 4 * (significand * 2 ^ m.spacing) * y := by rw [hunits]; ring
    have hsplit : (binade + 1) * 2 ^ m.spacing * (4 * y) =
        binade * 2 ^ m.spacing * (4 * y) + 2 * (2 * 2 ^ m.spacing * y) := by ring
    omega
  · have hsignificand : significand = binade :=
      Nat.eq_of_mul_eq_mul_right (Nat.two_pow_pos _) (hunits.symm.trans hborder)
    rw [hsignificand] at hlow hhigh hodd hparity ⊢
    rcases Nat.lt_or_ge x (4 * (binade * 2 ^ m.spacing) * y) with hbelow | habove
    · obtain ⟨spacing, hspacing⟩ := Nat.exists_eq_succ_of_ne_zero hne
      rw [hreach, hspacing] at hlow
      rw [hspacing] at hbelow ⊢
      exact roundedPlace_of_below hy hlow hbelow
    · apply roundedPlace_of_near hy _ hbehind (habove.trans (Nat.le_add_right _ _)) hhigh
        fun h ↦ ⟨by omega, (hodd (hparity h)).2⟩
      right
      have hvalue : binade * 2 ^ m.spacing * (4 * y) = 4 * (binade * 2 ^ m.spacing) * y := by ring
      exact hvalue.trans_le habove

end Courier.Magnitude
