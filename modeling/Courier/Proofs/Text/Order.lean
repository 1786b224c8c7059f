import Courier.Proofs.Text.Utf8
import Mathlib.Data.String.Basic

/-!
# The order of encoded texts

Texts are ordered by their characters, and so are their bytes: a smaller character has smaller
bytes whatever follows.  A longer sequence begins with a greater byte, and in sequences of equal
length the bits stand in order.
-/

namespace Courier.Utf8

variable {n m a b : Nat} {c d : Char} {x y : Bytes}

/-! ## Single characters -/

theorem ofNat_cons_lt (ha : a < 256) (hb : b < 256) (hless : a < b ∨ a = b ∧ x < y) :
    UInt8.ofNat a :: x < UInt8.ofNat b :: y := by
  rw [List.cons_lt_cons_iff, UInt8.lt_iff_toNat_lt, toNat_ofNat_of_lt ha, toNat_ofNat_of_lt hb]
  rcases hless with hlt | ⟨rfl, hrest⟩
  · exact .inl hlt
  · exact .inr ⟨rfl, hrest⟩

theorem ofNat_cons_lt_of_le (hle : a ≤ b) (hb : b < 256) (hrest : a = b → x < y) :
    UInt8.ofNat a :: x < UInt8.ofNat b :: y := by
  apply ofNat_cons_lt (hle.trans_lt hb) hb
  rcases hle.lt_or_eq with hlt | heq
  · exact .inl hlt
  · exact .inr ⟨heq, hrest heq⟩

/-- The last byte of a sequence. -/
theorem last_lt (hless : n < m) (hsame : n / 64 = m / 64) (x y : Bytes) :
    UInt8.ofNat (0x80 + n % 64) :: x < UInt8.ofNat (0x80 + m % 64) :: y :=
  ofNat_cons_lt (by omega) (by omega) (.inl (by omega))

/-- The last two bytes. -/
theorem last_two_lt (hless : n < m) (hsame : n / 4096 = m / 4096) (x y : Bytes) :
    UInt8.ofNat (0x80 + n / 64 % 64) :: UInt8.ofNat (0x80 + n % 64) :: x <
      UInt8.ofNat (0x80 + m / 64 % 64) :: UInt8.ofNat (0x80 + m % 64) :: y := by
  apply ofNat_cons_lt_of_le (by omega) (by omega)
  intro heq
  exact last_lt hless (by omega) x y

/-- The last three bytes. -/
theorem last_three_lt (hless : n < m) (hsame : n / 262144 = m / 262144) (x y : Bytes) :
    UInt8.ofNat (0x80 + n / 4096 % 64) :: UInt8.ofNat (0x80 + n / 64 % 64) ::
      UInt8.ofNat (0x80 + n % 64) :: x <
        UInt8.ofNat (0x80 + m / 4096 % 64) :: UInt8.ofNat (0x80 + m / 64 % 64) ::
          UInt8.ofNat (0x80 + m % 64) :: y := by
  apply ofNat_cons_lt_of_le (by omega) (by omega)
  intro heq
  exact last_two_lt hless (by omega) x y

/-- The cases are the lengths of the two sequences. -/
theorem encodeChar_lt (hless : c < d) (x y : Bytes) : encodeChar c ++ x < encodeChar d ++ y := by
  have hlt : c.toNat < d.toNat := hless
  have hd : d.toNat < 0xD800 ∨ 0xDFFF < d.toNat ∧ d.toNat < 0x110000 := d.valid
  unfold encodeChar
  dsimp only
  generalize c.toNat = n at hlt
  generalize d.toNat = m at hlt hd
  split
  · split
    · exact ofNat_cons_lt (by omega) (by omega) (.inl (by omega))
    split
    · exact ofNat_cons_lt (by omega) (by omega) (.inl (by omega))
    split
    · exact ofNat_cons_lt (by omega) (by omega) (.inl (by omega))
    · exact ofNat_cons_lt (by omega) (by omega) (.inl (by omega))
  rw [if_neg (by omega : ¬ m < 0x80)]
  split
  · split
    · apply ofNat_cons_lt_of_le (by omega) (by omega)
      intro heq
      exact last_lt hlt (by omega) x y
    split
    · exact ofNat_cons_lt (by omega) (by omega) (.inl (by omega))
    · exact ofNat_cons_lt (by omega) (by omega) (.inl (by omega))
  rw [if_neg (by omega : ¬ m < 0x800)]
  split
  · split
    · apply ofNat_cons_lt_of_le (by omega) (by omega)
      intro heq
      exact last_two_lt hlt (by omega) x y
    · exact ofNat_cons_lt (by omega) (by omega) (.inl (by omega))
  rw [if_neg (by omega : ¬ m < 0x10000)]
  apply ofNat_cons_lt_of_le (by omega) (by omega)
  intro heq
  exact last_three_lt hlt (by omega) x y

/-! ## Texts -/

theorem encodeChar_ne_nil (c : Char) : encodeChar c ≠ [] := by
  unfold encodeChar
  dsimp only
  repeat' split
  all_goals exact List.cons_ne_nil _ _

theorem encodeChars_lt {cs ds : List Char} (hless : cs < ds) : encodeChars cs < encodeChars ds := by
  induction cs generalizing ds with
  | nil =>
    cases ds with
    | nil => exact absurd hless (List.not_lt_nil [])
    | cons d ds =>
      obtain ⟨b, more, hbytes⟩ := List.exists_cons_of_ne_nil (encodeChar_ne_nil d)
      rw [encodeChars, encodeChars, List.flatMap_cons, hbytes]
      exact List.nil_lt_cons b _
  | cons c cs ih =>
    cases ds with
    | nil => exact absurd hless (List.not_lt_nil _)
    | cons d ds =>
      rw [encodeChars, encodeChars, List.flatMap_cons, List.flatMap_cons]
      rcases List.cons_lt_cons_iff.mp hless with hlt | ⟨rfl, hrest⟩
      · exact encodeChar_lt hlt _ _
      · exact List.append_left_lt (ih hrest)

theorem encode_lt {s t : String} (hless : s < t) : encode s < encode t :=
  encodeChars_lt (String.lt_iff_toList_lt.mp hless)

/-- The bytes of texts stand in the order of the texts. -/
theorem encode_lt_iff {s t : String} : encode s < encode t ↔ s < t := by
  refine ⟨fun hless ↦ ?_, encode_lt⟩
  rcases lt_trichotomy s t with hlt | rfl | hgt
  · exact hlt
  · exact absurd hless (List.lt_irrefl _)
  · exact absurd hless (List.lt_asymm (encode_lt hgt))

end Courier.Utf8
