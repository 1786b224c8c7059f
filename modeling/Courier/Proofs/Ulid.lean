import Courier.Proofs.Text.Utf8
import Courier.Ulid
import Mathlib.Algebra.Order.Ring.Nat

/-!
# Reading ULIDs

The text of a ULID is read back as this ULID: its digits have 130 bits, of which the upper two are
zero.
-/

namespace Courier.Ulid

variable {count n d : Nat}

/-! ## Digits -/

theorem digitValue?_digitChar : ∀ d < 32, digitValue? (digitChar d) = some d := by
  decide +kernel

theorem toNat_digitChar_lt : ∀ d < 32, (digitChar d).toNat < 0x80 := by
  decide +kernel

theorem length_digits (count n : Nat) : (digits count n).length = count := by
  induction count generalizing n with
  | zero => rfl
  | succ count ih => rw [digits, List.length_append, ih, List.length_singleton]

theorem toNat_lt_of_mem_digits {c : Char} (hc : c ∈ digits count n) : c.toNat < 0x80 := by
  induction count generalizing n with
  | zero => simp [digits] at hc
  | succ count ih =>
    rw [digits] at hc
    rcases List.mem_append.mp hc with hc | hc
    · exact ih hc
    · rw [List.mem_singleton.mp hc]
      exact toNat_digitChar_lt _ (Nat.mod_lt _ (by decide))

/-- The digits of a number are taken up behind the digits before them. -/
theorem readDigits_digits (soFar : Nat) (rest : List Char) (hn : n < 32 ^ count) :
    readDigits soFar (digits count n ++ rest) = readDigits (soFar * 32 ^ count + n) rest := by
  induction count generalizing n rest with
  | zero =>
    have hzero : n = 0 := Nat.lt_one_iff.mp hn
    rw [hzero, Nat.pow_zero, Nat.mul_one, Nat.add_zero]
    rfl
  | succ count ih =>
    have hupper : n / 32 < 32 ^ count := by
      apply Nat.div_lt_of_lt_mul
      rwa [Nat.mul_comm, ← Nat.pow_succ]
    have hlast := digitValue?_digitChar (n % 32) (Nat.mod_lt _ (by decide))
    have hvalue : (soFar * 32 ^ count + n / 32) * 32 + n % 32 = soFar * 32 ^ (count + 1) + n := by
      rw [Nat.pow_succ, ← Nat.mul_assoc]
      omega
    calc readDigits soFar (digits (count + 1) n ++ rest)
      _ = readDigits soFar (digits count (n / 32) ++ digitChar (n % 32) :: rest) := by
        rw [digits, List.append_assoc, List.singleton_append]
      _ = readDigits (soFar * 32 ^ count + n / 32) (digitChar (n % 32) :: rest) := ih _ hupper
      _ = readDigits (soFar * 32 ^ (count + 1) + n) rest := by
        rw [readDigits, hlast, ← hvalue]

/-! ## Texts -/

/-- Every character of a text is one byte. -/
theorem length_encodeChars {cs : List Char} (hascii : ∀ c ∈ cs, c.toNat < 0x80) :
    (Utf8.encodeChars cs).length = cs.length := by
  induction cs with
  | nil => rfl
  | cons c cs ih =>
    have hc : Utf8.encodeChar c = [UInt8.ofNat c.toNat] := if_pos (hascii c List.mem_cons_self)
    rw [Utf8.encodeChars, List.flatMap_cons, hc, List.singleton_append, List.length_cons,
      List.length_cons]
    exact congrArg (· + 1) (ih fun c hc ↦ hascii c (List.mem_cons_of_mem _ hc))

theorem ofNat_toNat (u : Ulid) : ofNat u.value.toNat = u := by
  rw [ofNat, BitVec.ofNat_toNat, BitVec.setWidth_eq]

/-- The text of a ULID is read back. -/
theorem read_text (u : Ulid) : read u.text = .ok u := by
  have hlength : (Utf8.encode u.text).length = 26 := by
    rw [Utf8.encode, text, String.toList_ofList, chars,
      length_encodeChars fun c hc ↦ toNat_lt_of_mem_digits hc, length_digits]
  have hvalue : u.value.toNat < 32 ^ 26 := u.value.isLt.trans (by decide)
  have hdigits := readDigits_digits 0 [] hvalue
  rw [List.append_nil, Nat.zero_mul, Nat.zero_add] at hdigits
  rw [read, if_neg (not_not.mpr hlength), text, String.toList_ofList, chars, hdigits]
  exact congrArg Except.ok u.ofNat_toNat

end Courier.Ulid
