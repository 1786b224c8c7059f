import Courier.Proofs.Text.Utf8

/-!
# Bytes that are decoded

The scan yields characters without a gap for encoded text only.  A character that it yields first
has all its bytes in front: the first one tells how many there are, and each of the others lies in
the range that the sequence so far leaves for it.
-/

namespace Courier.Utf8

variable {n bits low high : Nat} {b : UInt8} {c : Char} {pending : Pending} {bytes : Bytes}
  {more : List (Option Char)}

/-! ## Open sequences -/

theorem scan_some_cons (h : scan (some pending) bytes = some c :: more) :
    ∃ b rest, bytes = b :: rest ∧ pending.low ≤ b.toNat ∧ b.toNat ≤ pending.high ∧
      (if pending.owed = 1 then
          some (Char.ofNat (pending.bits * 64 + (b.toNat - 0x80))) :: scan none rest
        else scan (some ⟨pending.owed - 1, pending.bits * 64 + (b.toNat - 0x80), 0x80, 0xBF⟩) rest) =
          some c :: more := by
  cases bytes with
  | nil => simp [scan] at h
  | cons b rest =>
    rw [scan] at h
    split at h
    · next hrange => exact ⟨b, rest, rfl, hrange.1, hrange.2, h⟩
    · cases hstart : start b.toNat <;> simp [hstart] at h

/-- A sequence that owes one byte. -/
theorem scan_one_cons (h : scan (some ⟨1, bits, low, high⟩) bytes = some c :: more) :
    ∃ b rest, bytes = b :: rest ∧ low ≤ b.toNat ∧ b.toNat ≤ high ∧
      Char.ofNat (bits * 64 + (b.toNat - 0x80)) = c ∧ scan none rest = more := by
  obtain ⟨b, rest, hbytes, hlow, hhigh, hrest⟩ := scan_some_cons h
  rw [if_pos rfl, List.cons.injEq, Option.some.injEq] at hrest
  exact ⟨b, rest, hbytes, hlow, hhigh, hrest.1, hrest.2⟩

/-- A sequence that owes more. -/
theorem scan_more_cons {owed : Nat}
    (h : scan (some ⟨owed + 2, bits, low, high⟩) bytes = some c :: more) :
    ∃ b rest, bytes = b :: rest ∧ low ≤ b.toNat ∧ b.toNat ≤ high ∧
      scan (some ⟨owed + 1, bits * 64 + (b.toNat - 0x80), 0x80, 0xBF⟩) rest = some c :: more := by
  obtain ⟨b, rest, hbytes, hlow, hhigh, hrest⟩ := scan_some_cons h
  rw [if_neg (Nat.succ_ne_succ_iff.mpr (Nat.succ_ne_zero owed))] at hrest
  exact ⟨b, rest, hbytes, hlow, hhigh, hrest⟩

theorem start_eq_char (h : start n = .char c) : n < 0x80 ∧ Char.ofNat n = c := by
  grind [start]

/-- What the first byte of a longer sequence opens; the range of the second byte shuts out long
forms, surrogates and what lies beyond all characters. -/
theorem start_eq_open (h : start n = .open pending) :
    0xC2 ≤ n ∧ n < 0xE0 ∧ pending = ⟨1, n - 0xC0, 0x80, 0xBF⟩ ∨
    (∃ low high, 0xE0 ≤ n ∧ n < 0xF0 ∧ pending = ⟨2, n - 0xE0, low, high⟩ ∧ 0x80 ≤ low ∧
      high ≤ 0xBF ∧ (n = 0xE0 → 0xA0 ≤ low) ∧ (n = 0xED → high ≤ 0x9F)) ∨
    ∃ low high, 0xF0 ≤ n ∧ n < 0xF5 ∧ pending = ⟨3, n - 0xF0, low, high⟩ ∧ 0x80 ≤ low ∧
      high ≤ 0xBF ∧ (n = 0xF0 → 0x90 ≤ low) ∧ (n = 0xF4 → high ≤ 0x8F) := by
  grind [start]

/-! ## Characters -/

theorem toNat_char_ofNat (hvalid : n < 0xD800 ∨ 0xDFFF < n ∧ n < 0x110000) :
    (Char.ofNat n).toNat = n := by
  have hvalid : n.isValidChar := hvalid
  rw [Char.ofNat, dif_pos hvalid]
  rfl

theorem eq_ofNat_of_toNat (hb : b.toNat = n) : b = UInt8.ofNat n := by
  rw [← hb, UInt8.ofNat_toNat]

theorem exists_of_two (hlow : 0xC2 ≤ b.toNat) (hhigh : b.toNat < 0xE0)
    (h : scan (some ⟨1, b.toNat - 0xC0, 0x80, 0xBF⟩) bytes = some c :: more) :
    ∃ rest, b :: bytes = encodeChar c ++ rest ∧ scan none rest = more := by
  obtain ⟨b₂, rest, rfl, hlow₂, hhigh₂, hchar, hmore⟩ := scan_one_cons h
  have hn := congrArg Char.toNat hchar
  rw [toNat_char_ofNat (by omega)] at hn
  have hb : b = UInt8.ofNat (0xC0 + c.toNat / 64) := eq_ofNat_of_toNat (by omega)
  have hb₂ : b₂ = UInt8.ofNat (0x80 + c.toNat % 64) := eq_ofNat_of_toNat (by omega)
  refine ⟨rest, ?_, hmore⟩
  rw [encodeChar, if_neg (by omega), if_pos (by omega), hb, hb₂]
  rfl

theorem exists_of_three (hlow : 0xE0 ≤ b.toNat) (hhigh : b.toNat < 0xF0)
    (hrange : 0x80 ≤ low ∧ high ≤ 0xBF ∧ (b.toNat = 0xE0 → 0xA0 ≤ low) ∧
      (b.toNat = 0xED → high ≤ 0x9F))
    (h : scan (some ⟨2, b.toNat - 0xE0, low, high⟩) bytes = some c :: more) :
    ∃ rest, b :: bytes = encodeChar c ++ rest ∧ scan none rest = more := by
  obtain ⟨b₂, rest, rfl, hlow₂, hhigh₂, h⟩ := scan_more_cons h
  obtain ⟨b₃, rest, rfl, hlow₃, hhigh₃, hchar, hmore⟩ := scan_one_cons h
  have hn := congrArg Char.toNat hchar
  rw [toNat_char_ofNat (by omega)] at hn
  have hb : b = UInt8.ofNat (0xE0 + c.toNat / 4096) := eq_ofNat_of_toNat (by omega)
  have hb₂ : b₂ = UInt8.ofNat (0x80 + c.toNat / 64 % 64) := eq_ofNat_of_toNat (by omega)
  have hb₃ : b₃ = UInt8.ofNat (0x80 + c.toNat % 64) := eq_ofNat_of_toNat (by omega)
  refine ⟨rest, ?_, hmore⟩
  rw [encodeChar, if_neg (by omega), if_neg (by omega), if_pos (by omega), hb, hb₂, hb₃]
  rfl

theorem exists_of_four (hlow : 0xF0 ≤ b.toNat) (hhigh : b.toNat < 0xF5)
    (hrange : 0x80 ≤ low ∧ high ≤ 0xBF ∧ (b.toNat = 0xF0 → 0x90 ≤ low) ∧
      (b.toNat = 0xF4 → high ≤ 0x8F))
    (h : scan (some ⟨3, b.toNat - 0xF0, low, high⟩) bytes = some c :: more) :
    ∃ rest, b :: bytes = encodeChar c ++ rest ∧ scan none rest = more := by
  obtain ⟨b₂, rest, rfl, hlow₂, hhigh₂, h⟩ := scan_more_cons h
  obtain ⟨b₃, rest, rfl, hlow₃, hhigh₃, h⟩ := scan_more_cons h
  obtain ⟨b₄, rest, rfl, hlow₄, hhigh₄, hchar, hmore⟩ := scan_one_cons h
  have hn := congrArg Char.toNat hchar
  rw [toNat_char_ofNat (by omega)] at hn
  have hb : b = UInt8.ofNat (0xF0 + c.toNat / 262144) := eq_ofNat_of_toNat (by omega)
  have hb₂ : b₂ = UInt8.ofNat (0x80 + c.toNat / 4096 % 64) := eq_ofNat_of_toNat (by omega)
  have hb₃ : b₃ = UInt8.ofNat (0x80 + c.toNat / 64 % 64) := eq_ofNat_of_toNat (by omega)
  have hb₄ : b₄ = UInt8.ofNat (0x80 + c.toNat % 64) := eq_ofNat_of_toNat (by omega)
  refine ⟨rest, ?_, hmore⟩
  rw [encodeChar, if_neg (by omega), if_neg (by omega), if_neg (by omega), hb, hb₂, hb₃, hb₄]
  rfl

/-- A character that is found first has its bytes in front. -/
theorem scan_eq_cons (h : scan none bytes = some c :: more) :
    ∃ rest, bytes = encodeChar c ++ rest ∧ scan none rest = more := by
  cases bytes with
  | nil => simp [scan] at h
  | cons b rest =>
    rw [scan] at h
    cases hstart : start b.toNat with
    | malformed => simp [hstart] at h
    | char d =>
      rw [hstart, List.cons.injEq, Option.some.injEq] at h
      obtain ⟨hone, hchar⟩ := start_eq_char hstart
      refine ⟨rest, ?_, h.2⟩
      have hn : c.toNat = b.toNat := by rw [← h.1, ← hchar, toNat_char_ofNat (by omega)]
      rw [encodeChar, hn, if_pos hone, UInt8.ofNat_toNat]
      rfl
    | «open» pending =>
      simp only [hstart] at h
      rcases start_eq_open hstart with ⟨hlow, hhigh, rfl⟩ | ⟨low, high, hlow, hhigh, rfl, hrange⟩ |
        ⟨low, high, hlow, hhigh, rfl, hrange⟩
      · exact exists_of_two hlow hhigh h
      · exact exists_of_three hlow hhigh hrange h
      · exact exists_of_four hlow hhigh hrange h

/-! ## Texts -/

theorem scan_some_ne_nil (pending : Pending) (bytes : Bytes) : scan (some pending) bytes ≠ [] := by
  induction bytes generalizing pending with
  | nil => simp [scan]
  | cons b rest ih =>
    rw [scan]
    split
    · dsimp only
      split
      · simp
      · exact ih _
    · cases start b.toNat <;> simp

theorem scan_eq_nil (h : scan none bytes = []) : bytes = [] := by
  cases bytes with
  | nil => rfl
  | cons b rest =>
    rw [scan] at h
    cases hstart : start b.toNat with
    | malformed => simp [hstart] at h
    | char => simp [hstart] at h
    | «open» pending =>
      rw [hstart] at h
      exact absurd h (scan_some_ne_nil pending rest)

theorem eq_encodeChars_of_scan {cs : List Char} (h : scan none bytes = cs.map some) :
    bytes = encodeChars cs := by
  induction cs generalizing bytes with
  | nil => exact scan_eq_nil h
  | cons c cs ih =>
    obtain ⟨rest, rfl, hrest⟩ := scan_eq_cons h
    rw [ih hrest]
    rfl

theorem mapM_id_eq_some {found : List (Option Char)} {cs : List Char}
    (h : found.mapM id = some cs) : found = cs.map some := by
  induction found generalizing cs with
  | nil => simpa using h
  | cons c found ih =>
    simp only [List.mapM_cons, id_eq, bind, Option.bind_eq_some_iff] at h
    obtain ⟨d, rfl, ds, hds, hcs⟩ := h
    cases hcs
    rw [ih hds, List.map_cons]

/-- Only the bytes of a text are decoded as this text. -/
theorem eq_encode_of_decode? {text : String} (h : decode? bytes = some text) :
    bytes = encode text := by
  obtain ⟨cs, hchars, rfl⟩ := Option.map_eq_some_iff.mp h
  rw [encode, String.toList_ofList]
  exact eq_encodeChars_of_scan (mapM_id_eq_some hchars)

end Courier.Utf8
