import Courier.Text.Numeral
import Mathlib.Algebra.Order.Ring.Nat

/-!
# Digits of numerals

Padded numerals are digits of the asked width whose value is the number.
-/

namespace Courier.Numeral

variable {width n : Nat} {d : Char}

theorem isDigit_of_mem_toDigits (hd : d ∈ Nat.toDigits 10 n) : d.isDigit = true :=
  Nat.isDigit_of_mem_toDigits (by decide) (by decide) hd

theorem isDigit_of_mem_zeros {count : Nat} (hd : d ∈ List.replicate count '0') :
    d.isDigit = true := by
  rw [List.eq_of_mem_replicate hd]
  rfl

theorem le_ofDigitChars (cs : List Char) (start : Nat) : start ≤ Nat.ofDigitChars 10 cs start := by
  induction cs generalizing start with
  | nil => exact le_rfl
  | cons c cs ih =>
    rw [Nat.ofDigitChars_cons]
    have := ih (10 * start + (c.toNat - '0'.toNat))
    omega

theorem isDigit_of_mem_padded (hd : d ∈ padded width n) : d.isDigit = true := by
  rcases List.mem_append.mp hd with hd | hd
  · exact isDigit_of_mem_zeros hd
  · exact isDigit_of_mem_toDigits hd

theorem length_padded (hwidth : 0 < width) (hn : n < 10 ^ width) :
    (padded width n).length = width := by
  have hlength := (Nat.length_toDigits_le_iff (by decide) hwidth).mpr hn
  rw [padded, List.length_append, List.length_replicate]
  omega

theorem exists_padded_eq_cons (width n : Nat) :
    ∃ c cs, padded width n = c :: cs ∧ c.isDigit = true := by
  have hpositive : 0 < (Nat.toDigits 10 n).length := Nat.length_toDigits_pos
  obtain ⟨c, cs, hpadded⟩ : ∃ c cs, padded width n = c :: cs := by
    apply List.exists_cons_of_length_pos
    rw [padded, List.length_append]
    omega
  refine ⟨c, cs, hpadded, @isDigit_of_mem_padded width n c ?_⟩
  rw [hpadded]
  exact List.mem_cons_self

theorem padded_ne_nil (width n : Nat) : padded width n ≠ [] := by
  obtain ⟨c, cs, hpadded, _⟩ := exists_padded_eq_cons width n
  rw [hpadded]
  exact List.cons_ne_nil c cs

theorem ofDigitChars_padded : Nat.ofDigitChars 10 (padded width n) 0 = n := by
  rw [padded, Nat.ofDigitChars_append, Nat.ofDigitChars_replicate_zero, Nat.mul_zero]
  exact Nat.ofDigitChars_ten_toDigits

end Courier.Numeral
