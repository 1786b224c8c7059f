import Courier.Text.Utf8
import Mathlib.Order.Lattice

/-!
# Reading what was encoded

The scan takes the bytes of a character for this character, whatever comes after them.  For each
length the first byte opens a sequence whose second byte lies in the range that is left for it; the
ranges that shut out surrogates and long forms are no hindrance to the bytes of a character.
-/

namespace Courier.Utf8

theorem toNat_ofNat_of_lt {n : Nat} (hn : n < 256) : (UInt8.ofNat n).toNat = n := by
  rw [UInt8.toNat_ofNat']
  exact Nat.mod_eq_of_lt hn

/-! ## Steps of the scan -/

section Scan

variable {n owed bits low high b : Nat}

theorem scan_first {pending : Pending} (hstart : start b = .open pending) (hb : b < 256)
    (rest : Bytes) : scan none (UInt8.ofNat b :: rest) = scan (some pending) rest := by
  rw [scan, toNat_ofNat_of_lt hb, hstart]

theorem scan_more (hlow : low ≤ b) (hhigh : b ≤ high) (hb : b < 256) (rest : Bytes) :
    scan (some ⟨owed + 2, bits, low, high⟩) (UInt8.ofNat b :: rest) =
      scan (some ⟨owed + 1, bits * 64 + (b - 0x80), 0x80, 0xBF⟩) rest := by
  rw [scan, toNat_ofNat_of_lt hb, if_pos ⟨hlow, hhigh⟩]
  exact if_neg (Nat.succ_ne_succ_iff.mpr (Nat.succ_ne_zero owed))

theorem scan_last (hlow : low ≤ b) (hhigh : b ≤ high) (hb : b < 256) (rest : Bytes) :
    scan (some ⟨1, bits, low, high⟩) (UInt8.ofNat b :: rest) =
      some (Char.ofNat (bits * 64 + (b - 0x80))) :: scan none rest := by
  rw [scan, toNat_ofNat_of_lt hb, if_pos ⟨hlow, hhigh⟩]
  exact if_pos rfl

/-! ## Characters by their lengths -/

theorem scan_two (hlow : 0x80 ≤ n) (hhigh : n < 0x800) (rest : Bytes) :
    scan none (UInt8.ofNat (0xC0 + n / 64) :: UInt8.ofNat (0x80 + n % 64) :: rest) =
      some (Char.ofNat n) :: scan none rest := by
  have hstart : start (0xC0 + n / 64) = .open ⟨1, n / 64, 0x80, 0xBF⟩ := by grind [start]
  have hbits : n / 64 * 64 + (0x80 + n % 64 - 0x80) = n := by omega
  rw [scan_first hstart (by omega), scan_last (by omega) (by omega) (by omega), hbits]

theorem scan_three (hlow : 0x800 ≤ n) (hhigh : n < 0x10000)
    (hscalar : n < 0xD800 ∨ 0xDFFF < n) (rest : Bytes) :
    scan none (UInt8.ofNat (0xE0 + n / 4096) :: UInt8.ofNat (0x80 + n / 64 % 64) ::
      UInt8.ofNat (0x80 + n % 64) :: rest) = some (Char.ofNat n) :: scan none rest := by
  have hstart : start (0xE0 + n / 4096) = .open ⟨2, n / 4096,
      if n / 4096 = 0 then 0xA0 else 0x80, if n / 4096 = 13 then 0x9F else 0xBF⟩ := by
    grind [start]
  have hbits : (n / 4096 * 64 + (0x80 + n / 64 % 64 - 0x80)) * 64 + (0x80 + n % 64 - 0x80) = n := by
    omega
  rw [scan_first hstart (by omega), scan_more (by grind) (by grind) (by omega),
    scan_last (by omega) (by omega) (by omega), hbits]

theorem scan_four (hlow : 0x10000 ≤ n) (hhigh : n < 0x110000) (rest : Bytes) :
    scan none (UInt8.ofNat (0xF0 + n / 262144) :: UInt8.ofNat (0x80 + n / 4096 % 64) ::
      UInt8.ofNat (0x80 + n / 64 % 64) :: UInt8.ofNat (0x80 + n % 64) :: rest) =
        some (Char.ofNat n) :: scan none rest := by
  have hstart : start (0xF0 + n / 262144) = .open ⟨3, n / 262144,
      if n / 262144 = 0 then 0x90 else 0x80, if n / 262144 = 4 then 0x8F else 0xBF⟩ := by
    grind [start]
  have hbits : ((n / 262144 * 64 + (0x80 + n / 4096 % 64 - 0x80)) * 64 +
      (0x80 + n / 64 % 64 - 0x80)) * 64 + (0x80 + n % 64 - 0x80) = n := by
    omega
  rw [scan_first hstart (by omega), scan_more (by grind) (by grind) (by omega),
    scan_more (by omega) (by omega) (by omega), scan_last (by omega) (by omega) (by omega), hbits]

end Scan

theorem scan_encodeChar (c : Char) (rest : Bytes) :
    scan none (encodeChar c ++ rest) = some c :: scan none rest := by
  have hvalid : c.toNat < 0xD800 ∨ 0xDFFF < c.toNat ∧ c.toNat < 0x110000 := c.valid
  have hchar : Char.ofNat c.toNat = c := Char.ofNat_toNat c
  unfold encodeChar
  dsimp only
  split
  · next hone =>
    have hb : (UInt8.ofNat c.toNat).toNat = c.toNat := toNat_ofNat_of_lt (by omega)
    rw [List.singleton_append, scan, hb, start, if_pos hone, hchar]
  · next hone =>
    split
    · next htwo => exact (scan_two (not_lt.mp hone) htwo rest).trans (by rw [hchar])
    · next htwo =>
      split
      · next hthree =>
        exact (scan_three (not_lt.mp htwo) hthree (by omega) rest).trans (by rw [hchar])
      · next hthree =>
        exact (scan_four (not_lt.mp hthree) (by omega) rest).trans (by rw [hchar])

theorem scan_encodeChars (cs : List Char) : scan none (encodeChars cs) = cs.map some := by
  induction cs with
  | nil => rfl
  | cons c rest ih =>
    calc scan none (encodeChars (c :: rest))
      _ = some c :: scan none (encodeChars rest) := scan_encodeChar c _
      _ = (c :: rest).map some := by rw [ih, List.map_cons]

theorem decode?_encodeChars (cs : List Char) :
    decode? (encodeChars cs) = some (String.ofList cs) := by
  have hall : (cs.map some).mapM id = some cs := by
    induction cs with
    | nil => rfl
    | cons c rest ih => simp [ih]
  rw [decode?, decodeChars?, scan_encodeChars, hall, Option.map_some]

end Courier.Utf8
