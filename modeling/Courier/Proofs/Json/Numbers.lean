import Courier.Json.Reader
import Courier.Proofs.Json.Grammar
import Courier.Proofs.Text.Numeral
import Courier.Proofs.Text.Utf8

/-!
# Reading integers

The digits of an integer are read back as this integer if it fits into 64 bits and no digit, point
or exponent follows.
-/

namespace Courier.Json.Reader

variable {c : Char} {n significand : Nat} {rest : Bytes} {negative : Bool}

/-- No number goes on here. -/
def Stops (rest : Bytes) : Prop :=
  ∀ b ∈ rest.head?, isDigit b = false ∧ b ≠ 46 ∧ b ≠ 101 ∧ b ≠ 69

theorem stops_cons {b : UInt8} (hb : isDigit b = false ∧ b ≠ 46 ∧ b ≠ 101 ∧ b ≠ 69) (s : Bytes) :
    Stops (b :: s) := by
  intro b' hb'
  cases hb'
  exact hb

/-- No digit follows. -/
def NoDigit (rest : Bytes) : Prop := ∀ b ∈ rest.head?, isDigit b = false

theorem Stops.noDigit (hrest : Stops rest) : NoDigit rest := fun b hb ↦ (hrest b hb).1

theorem noDigit_cons {b : UInt8} (hb : isDigit b = false) (s : Bytes) : NoDigit (b :: s) := by
  intro b' hb'
  cases hb'
  exact hb

/-! ## Digits -/

theorem encodeChar_digit (hc : c.isDigit = true) :
    Utf8.encodeChar c = [UInt8.ofNat c.toNat] ∧ isDigit (UInt8.ofNat c.toNat) = true ∧
      digitValue (UInt8.ofNat c.toNat) = c.toNat - 48 := by
  obtain ⟨hlow, hhigh⟩ := Char.isDigit_iff_toNat.mp hc
  have hlow : 48 ≤ c.toNat := hlow
  have hhigh : c.toNat ≤ 57 := hhigh
  have hb : (UInt8.ofNat c.toNat).toNat = c.toNat := Utf8.toNat_ofNat_of_lt (by omega)
  refine ⟨?_, ?_, ?_⟩
  · rw [Utf8.encodeChar, if_pos (by omega)]
  · simp only [isDigit, Bool.and_eq_true, decide_eq_true_eq, UInt8.le_iff_toNat_le, hb]
    exact ⟨hlow, hhigh⟩
  · rw [digitValue, hb]

/-- Digits whose value fits are all taken up. -/
theorem wholeDigits_append {cs : List Char} (hdigits : ∀ c ∈ cs, c.isDigit = true)
    (hfits : Nat.ofDigitChars 10 cs significand ≤ greatestWord) (hrest : NoDigit rest) :
    wholeDigits negative significand (Utf8.encodeChars cs ++ rest) =
      afterDigits negative (Nat.ofDigitChars 10 cs significand) rest := by
  induction cs generalizing significand with
  | nil =>
    cases rest with
    | nil => rfl
    | cons b rest =>
      have hb : isDigit b = false := hrest b rfl
      change wholeDigits negative significand (b :: rest) =
        afterDigits negative significand (b :: rest)
      rw [wholeDigits, hb]
      rfl
  | cons c cs ih =>
    obtain ⟨hencode, hdigit, hvalue⟩ := encodeChar_digit (hdigits c List.mem_cons_self)
    rw [Nat.ofDigitChars_cons, Nat.mul_comm] at hfits ⊢
    have hless := (Numeral.le_ofDigitChars cs (significand * 10 + (c.toNat - 48))).trans hfits
    calc wholeDigits negative significand (Utf8.encodeChars (c :: cs) ++ rest)
      _ = wholeDigits negative significand
          (UInt8.ofNat c.toNat :: (Utf8.encodeChars cs ++ rest)) := by
        rw [Utf8.encodeChars, List.flatMap_cons, hencode]
        rfl
      _ = wholeDigits negative (significand * 10 + (c.toNat - 48))
          (Utf8.encodeChars cs ++ rest) := by
        rw [wholeDigits, if_pos hdigit, hvalue]
        exact if_pos hless
      _ = _ := ih (fun c hc ↦ hdigits c (List.mem_cons_of_mem _ hc)) hfits

/-- The first digit of a positive number is not zero. -/
theorem exists_toDigits_eq_cons (hn : 0 < n) :
    ∃ c cs, Nat.toDigits 10 n = c :: cs ∧ c ≠ '0' := by
  induction n using Nat.strongRecOn with
  | ind n ih =>
    rw [Nat.toDigits_eq_if (by decide)]
    split
    · next hlt =>
      refine ⟨_, [], rfl, ?_⟩
      have hdigit : ∀ m < 10, 0 < m → m.digitChar ≠ '0' := by decide
      exact hdigit n hlt hn
    · next hge =>
      obtain ⟨c, cs, hdigits, hc⟩ := ih (n / 10) (by omega) (by omega)
      exact ⟨c, cs ++ [(n % 10).digitChar], by rw [hdigits, List.cons_append], hc⟩

theorem exists_encode_toDigits (n : Nat) :
    ∃ b s, Utf8.encodeChars (Nat.toDigits 10 n) = b :: s ∧ isDigit b = true := by
  have hhead : ∃ c cs, Nat.toDigits 10 n = c :: cs := by
    rcases Nat.eq_zero_or_pos n with rfl | hpositive
    · exact ⟨'0', [], rfl⟩
    · obtain ⟨c, cs, hdigits, _⟩ := exists_toDigits_eq_cons hpositive
      exact ⟨c, cs, hdigits⟩
  obtain ⟨c, cs, hdigits⟩ := hhead
  have hc : c.isDigit = true := by
    apply Numeral.isDigit_of_mem_toDigits (n := n)
    rw [hdigits]
    exact List.mem_cons_self
  obtain ⟨hencode, hdigit, _⟩ := encodeChar_digit hc
  refine ⟨_, Utf8.encodeChars cs, ?_, hdigit⟩
  rw [hdigits, Utf8.encodeChars, List.flatMap_cons, hencode]
  rfl

theorem number_zero (hrest : NoDigit rest) :
    number negative (48 :: rest) = afterDigits negative 0 rest := by
  cases rest with
  | nil => rfl
  | cons b rest =>
    have hb : isDigit b = false := hrest b rfl
    rw [number, if_pos rfl]
    simp only [hb]
    rfl

/-- Digits without a leading zero are all taken up if their value fits. -/
theorem number_of_digits {cs : List Char} (hdigits : ∀ d ∈ c :: cs, d.isDigit = true)
    (hc : c ≠ '0') (hfits : Nat.ofDigitChars 10 (c :: cs) 0 ≤ greatestWord)
    (hrest : NoDigit rest) :
    number negative (Utf8.encodeChars (c :: cs) ++ rest) =
      afterDigits negative (Nat.ofDigitChars 10 (c :: cs) 0) rest := by
  obtain ⟨hencode, hdigit, hfirst⟩ := encodeChar_digit (hdigits c List.mem_cons_self)
  have hnonzero : UInt8.ofNat c.toNat ≠ 48 := by
    intro heq
    have hlt : c.toNat < 256 := by
      have := (Char.isDigit_iff_toNat.mp (hdigits c List.mem_cons_self)).2
      have hnine : '9'.toNat = 57 := rfl
      omega
    exact hc (Char.toNat_inj.mp ((Utf8.toNat_ofNat_of_lt hlt).symm.trans
      (congrArg UInt8.toNat heq)))
  rw [Nat.ofDigitChars_cons, Nat.mul_zero, Nat.zero_add] at hfits ⊢
  calc number negative (Utf8.encodeChars (c :: cs) ++ rest)
    _ = number negative (UInt8.ofNat c.toNat :: (Utf8.encodeChars cs ++ rest)) := by
      rw [Utf8.encodeChars, List.flatMap_cons, hencode]
      rfl
    _ = wholeDigits negative (c.toNat - 48) (Utf8.encodeChars cs ++ rest) := by
      simp only [number.eq_def, if_neg hnonzero, if_pos hdigit, hfirst]
    _ = afterDigits negative (Nat.ofDigitChars 10 cs (c.toNat - 48)) rest :=
      wholeDigits_append (fun d hd ↦ hdigits d (List.mem_cons_of_mem _ hd)) hfits hrest

theorem number_of_toDigits (hn : n ≤ greatestWord) (hrest : NoDigit rest) :
    number negative (Utf8.encodeChars (Nat.toDigits 10 n) ++ rest) =
      afterDigits negative n rest := by
  rcases Nat.eq_zero_or_pos n with rfl | hpositive
  · exact number_zero hrest
  · obtain ⟨c, cs, hdigits, hc⟩ := exists_toDigits_eq_cons hpositive
    have hall : ∀ d ∈ c :: cs, d.isDigit = true := by
      intro d hd
      rw [← hdigits] at hd
      exact Numeral.isDigit_of_mem_toDigits hd
    have hvalue : Nat.ofDigitChars 10 (c :: cs) 0 = n := by
      rw [← hdigits]
      exact Nat.ofDigitChars_toDigits (by decide) (by decide)
    rw [hdigits, number_of_digits hall hc (hvalue.trans_le hn) hrest, hvalue]

/-! ## Integers -/

theorem afterDigits_of_stops (hrest : Stops rest) (n : Nat) :
    afterDigits false n rest = .ok (.integer n, rest) := by
  unfold afterDigits
  split
  · next s => exact absurd rfl (hrest 46 rfl).2.1
  · next s => exact absurd rfl (hrest 101 rfl).2.2.1
  · next s => exact absurd rfl (hrest 69 rfl).2.2.2
  · rfl

theorem afterDigits_negative (hrest : Stops rest) (hpositive : 0 < n) (hn : n ≤ 2 ^ 63) :
    afterDigits true n rest = .ok (.integer (-n), rest) := by
  have hfits : ¬ (n = 0 ∨ greatestWord / 2 + 1 < n) := by
    have hword : greatestWord / 2 + 1 = 2 ^ 63 := by decide
    omega
  unfold afterDigits
  split
  · next s => exact absurd rfl (hrest 46 rfl).2.1
  · next s => exact absurd rfl (hrest 101 rfl).2.2.1
  · next s => exact absurd rfl (hrest 69 rfl).2.2.2
  · rw [if_pos rfl, if_neg hfits]

end Courier.Json.Reader
