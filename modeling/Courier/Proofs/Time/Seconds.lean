import Courier.Proofs.Binary64.Power
import Courier.Time.Seconds

/-!
# Spans as seconds and back

A span becomes a number of seconds in three roundings: of the whole seconds, of the fraction, and
of their sum.  Still no number of seconds below the one that a span has become is as much as half a
nanosecond longer than the span.  While the whole seconds are exact, only the fraction is off, and
it is rounded on a grid much finer than a nanosecond.  Where they are not, numbers stand two seconds
apart and more, and the fraction does not count.  So the nearest span to such a number is not
longer.
-/

namespace Courier

namespace Span

open Binary64

variable {s : Span} {m : Magnitude}

/-- A fraction of a second is less than a second and less than half a nanosecond off. -/
theorem exists_fraction (s : Span) :
    ∃ f, (ofNat s.subsecond).div (ofNat 1000000000) = finite false f ∧ f.units < scale ∧
      2 * (f.units * 1000000000) < (2 * s.subsecond + 1) * scale := by
  have hsubsecond : s.subsecond < 1000000000 := Nat.mod_lt _ (by decide)
  generalize s.subsecond = r at hsubsecond
  have hbinade : binade = 4503599627370496 := rfl
  obtain ⟨last, hlast, hscale⟩ : ∃ last, last = 1022 ∧ scale = binade * 2 ^ last := by
    obtain ⟨bits, hbits, hscale⟩ := exists_scale_eq
    obtain ⟨last, rfl⟩ : ∃ last, bits = 52 + last := ⟨1022, hbits⟩
    exact ⟨last, by omega, hscale.trans (Nat.pow_add 2 52 last)⟩
  -- The value above the fraction on a grid of `2 ^ 52` steps to the second.
  obtain ⟨count, hcount⟩ : ∃ count, count = r * binade / 1000000000 + 1 := ⟨_, rfl⟩
  have hless : count < binade := by
    rw [hbinade] at hcount ⊢
    omega
  have habove : r * binade ≤ count * 1000000000 := by
    rw [hbinade] at hcount ⊢
    omega
  have hnear : count * 1000000000 ≤ r * binade + 1000000000 := by
    rw [hbinade] at hcount ⊢
    omega
  obtain ⟨g, hg⟩ := Magnitude.exists_units_eq_mul_two_pow (show count < 2 * binade by omega)
    (show last ≤ 2045 by omega)
  obtain ⟨a, ha, haunits⟩ := exists_ofNat_of_lt (show r < 2 * binade by omega)
  obtain ⟨b, hb, hbunits⟩ := exists_ofNat_of_lt (show 1000000000 < 2 * binade by decide)
  have hb0 : 0 < b.units := by
    rw [hbunits]
    exact Nat.mul_pos (by decide) scale_pos
  have hcross : a.units * scale * 1 ≤ g.units * b.units := by
    rw [haunits, hbunits, hg, Nat.mul_one]
    calc r * scale * scale
      _ = r * binade * (2 ^ last * scale) := by rw [hscale]; ring
      _ ≤ count * 1000000000 * (2 ^ last * scale) := Nat.mul_le_mul_right _ habove
      _ = count * 2 ^ last * (1000000000 * scale) := by ring
  obtain ⟨f, hf, hplace⟩ :=
    exists_ofQuotient_eq (q := false) Nat.one_pos hb0 hcross (ofQuotient_units_one false g)
  have hle : f.units ≤ count * 2 ^ last := hg ▸ Magnitude.units_le_units hplace
  refine ⟨f, ?_, ?_, ?_⟩
  · rw [ha, hb, div, if_neg hb0.ne']
    exact hf
  · calc f.units
      _ ≤ count * 2 ^ last := hle
      _ < binade * 2 ^ last := Nat.mul_lt_mul_of_pos_right hless (Nat.two_pow_pos _)
      _ = scale := hscale.symm
  · calc 2 * (f.units * 1000000000)
      _ ≤ 2 * (count * 2 ^ last * 1000000000) :=
        Nat.mul_le_mul_left 2 (Nat.mul_le_mul_right _ hle)
      _ = 2 * (count * 1000000000) * 2 ^ last := by ring
      _ ≤ 2 * (r * binade + 1000000000) * 2 ^ last :=
        Nat.mul_le_mul_right _ (Nat.mul_le_mul_left 2 hnear)
      _ < (2 * (r * binade) + binade) * 2 ^ last :=
        Nat.mul_lt_mul_of_pos_right (by omega) (Nat.two_pow_pos _)
      _ = (2 * r + 1) * scale := by rw [hscale]; ring

/-- The whole seconds are exact as long as they fit in the significand. -/
theorem exists_inSeconds_of_small (hsmall : s.seconds < 2 * binade) :
    ∃ f, s.inSeconds = ofQuotient false (s.seconds * scale + f) 1 ∧
      2 * (f * 1000000000) < (2 * s.subsecond + 1) * scale := by
  obtain ⟨f, hf, _, hnear⟩ := s.exists_fraction
  obtain ⟨a, ha, haunits⟩ := exists_ofNat_of_lt hsmall
  refine ⟨f.units, ?_, hnear⟩
  rw [inSeconds, ha, hf, ← haunits]
  rfl

/-- Where numbers stand two seconds apart or more, a fraction of a second does not count. -/
theorem inSeconds_of_large (hlarge : 2 * binade ≤ s.seconds) : s.inSeconds = ofNat s.seconds := by
  obtain ⟨f, hf, hless, _⟩ := s.exists_fraction
  rw [inSeconds, hf]
  have hone : one.atMost (ofNat s.seconds) = true :=
    one_atMost_ofNat (Nat.lt_of_lt_of_le (by decide) hlarge)
  rcases eq_of_one_atMost hone with hwhole | ⟨a, hwhole, _⟩
  · rw [hwhole]
    rfl
  · obtain ⟨bits, hbits, hscale⟩ := exists_scale_eq
    have hunits : 2 ^ (53 + bits) ≤ a.units := by
      obtain ⟨b, hb, hbunits⟩ :=
        exists_ofNat_mul_two_pow (show binade < 2 * binade by decide) (show 1 ≤ 971 by decide)
      have hle : (ofNat (binade * 2 ^ 1)).atMost (ofNat s.seconds) = true := ofNat_atMost (by omega)
      rw [hb, hwhole, finite_atMost_iff] at hle
      calc 2 ^ (53 + bits)
        _ = binade * 2 ^ 1 * scale := by rw [Nat.pow_add, hscale]; rfl
        _ = b.units := hbunits.symm
        _ ≤ a.units := Magnitude.units_le_units hle
    have hspacing : bits + 1 ≤ a.spacing := by
      have hne : a.units ≠ 0 := ((Nat.two_pow_pos _).trans_le hunits).ne'
      have hlog := (Nat.le_log2 hne).mpr hunits
      have := a.log2_units
      omega
    have hrest : 2 * f.units < 2 ^ a.spacing := by
      calc 2 * f.units
        _ < 2 * 2 ^ bits := by rw [← hscale]; omega
        _ = 2 ^ (bits + 1) := by ring
        _ ≤ 2 ^ a.spacing := Nat.pow_le_pow_right (by decide) hspacing
    rw [hwhole]
    exact ofQuotient_eq_finite_iff.mpr ⟨rfl, a.roundedPlace_units_add hrest⟩

theorem inSeconds_cases (s : Span) :
    s.inSeconds = infinite false ∨ ∃ a, s.inSeconds = finite false a := by
  rcases Nat.lt_or_ge s.seconds (2 * binade) with hsmall | hlarge
  · obtain ⟨f, hseconds, _⟩ := exists_inSeconds_of_small hsmall
    rw [hseconds]
    exact ofQuotient_cases _ _
  · rw [inSeconds_of_large hlarge]
    exact ofQuotient_cases _ _

theorem units_lt_of_not_atMost (hbelow : ¬ s.inSeconds.atMost (finite false m) = true) :
    2 * (m.units * 1000000000) < (2 * s + 1) * scale := by
  have hsplit : s.seconds * 1000000000 + s.subsecond = s := Nat.div_add_mod' s 1000000000
  rcases Nat.lt_or_ge s.seconds (2 * binade) with hsmall | hlarge
  · obtain ⟨f, hseconds, hnear⟩ := exists_inSeconds_of_small hsmall
    have hless : m.units < s.seconds * scale + f := by
      by_contra hle
      apply hbelow
      rw [hseconds, ← ofQuotient_units_one false m]
      exact ofQuotient_atMost Nat.one_pos Nat.one_pos (by omega)
    calc 2 * (m.units * 1000000000)
      _ ≤ 2 * ((s.seconds * scale + f) * 1000000000) :=
        Nat.mul_le_mul_left 2 (Nat.mul_le_mul_right _ hless.le)
      _ = 2 * (s.seconds * 1000000000) * scale + 2 * (f * 1000000000) := by ring
      _ < 2 * (s.seconds * 1000000000) * scale + (2 * s.subsecond + 1) * scale :=
        Nat.add_lt_add_left hnear _
      _ = (2 * (s.seconds * 1000000000 + s.subsecond) + 1) * scale := by ring
      _ = (2 * s + 1) * scale := by rw [hsplit]
  · have hless : m.units < s.seconds * scale := by
      by_contra hle
      apply hbelow
      rw [inSeconds_of_large hlarge, ← ofQuotient_units_one false m]
      exact ofQuotient_atMost Nat.one_pos Nat.one_pos (by omega)
    calc 2 * (m.units * 1000000000)
      _ < 2 * (s.seconds * scale * 1000000000) := by omega
      _ = 2 * (s.seconds * 1000000000) * scale := by ring
      _ ≤ (2 * s + 1) * scale := Nat.mul_le_mul_right _ (by omega)

/-- What is below a span in seconds is, as a span, not longer. -/
theorem ofMagnitude_le_of_not_atMost (hbelow : ¬ s.inSeconds.atMost (finite false m) = true) :
    ofMagnitude m ≤ s :=
  roundHalfEven_le scale_pos (units_lt_of_not_atMost hbelow)

theorem ofMagnitude_mono {a b : Magnitude} (hplace : a.place ≤ b.place) :
    ofMagnitude a ≤ ofMagnitude b := by
  apply roundHalfEven_mono scale_pos scale_pos
  exact Nat.mul_le_mul_right _ (Nat.mul_le_mul_right _ (Magnitude.units_le_units hplace))

/-! ## Whole seconds -/

theorem inSeconds_ofSeconds (n : Nat) : (ofSeconds n).inSeconds = ofNat n := by
  have hseconds : (ofSeconds n).seconds = n := Nat.mul_div_cancel n (by decide)
  have hsubsecond : (ofSeconds n).subsecond = 0 := Nat.mul_mod_left n 1000000000
  have hzero : (ofNat 0).div (ofNat 1000000000) = finite false Magnitude.zero := by decide +kernel
  rw [inSeconds, hseconds, hsubsecond, hzero]
  rcases ofQuotient_cases (n * scale) 1 with hn | ⟨a, hn⟩
  · rw [ofNat, hn]
    rfl
  · have hsum : (finite false a).addNonneg (finite false Magnitude.zero) =
        ofQuotient false (a.units + Magnitude.zero.units) 1 := rfl
    rw [ofNat, hn, hsum, Magnitude.units_zero, Nat.add_zero, ofQuotient_units_one]

theorem ofMagnitude_of_units_eq {n : Nat} (hunits : m.units = n * scale) :
    ofMagnitude m = ofSeconds n := by
  rw [ofMagnitude, hunits, Nat.mul_right_comm]
  exact roundHalfEven_mul_self _ scale_pos

end Span

end Courier
