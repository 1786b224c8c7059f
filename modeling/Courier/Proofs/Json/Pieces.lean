import Courier.Proofs.Json.Limits
import Courier.Proofs.Text.Decoded

/-!
# Strings in pieces

Whatever text is read as a string is a text of this string.  The reader takes bytes and escapes; to
find the characters, the bytes that it answers are cut where the encoding cuts them, which never is
within an escape.
-/

namespace Courier.Json

open Reader

variable {c d : Char} {n : Nat} {b : UInt8} {s rest text bytes : Bytes}

/-! ## Escapes -/

theorem mem_hexForms : ∀ m < 256, (hexValue (UInt8.ofNat m)).all (fun value ↦
    value < 16 ∧ UInt8.ofNat m ∈ hexForms value) = true := by
  decide +kernel

theorem mem_hexForms_of_hexValue (h : hexValue b = some n) : n < 16 ∧ b ∈ hexForms n := by
  have hall := mem_hexForms b.toNat b.toNat_lt
  rw [UInt8.ofNat_toNat, h] at hall
  simpa using hall

theorem hexSpells_of_hexFour (h : hexFour s = .ok (n, rest)) :
    ∃ text, s = text ++ rest ∧ HexSpells n text ∧ n < 0x10000 := by
  unfold hexFour at h
  split at h
  · next b₁ b₂ b₃ b₄ s =>
    split at h
    · next v₁ v₂ v₃ v₄ h₁ h₂ h₃ h₄ =>
      obtain ⟨hlt₁, hmem₁⟩ := mem_hexForms_of_hexValue h₁
      obtain ⟨hlt₂, hmem₂⟩ := mem_hexForms_of_hexValue h₂
      obtain ⟨hlt₃, hmem₃⟩ := mem_hexForms_of_hexValue h₃
      obtain ⟨hlt₄, hmem₄⟩ := mem_hexForms_of_hexValue h₄
      cases h
      refine ⟨[b₁, b₂, b₃, b₄], rfl, .digits ?_ ?_ ?_ ?_, by omega⟩
      · rwa [show _ / 4096 % 16 = v₁ by omega]
      · rwa [show _ / 256 % 16 = v₂ by omega]
      · rwa [show _ / 16 % 16 = v₃ by omega]
      · rwa [show _ % 16 = v₄ by omega]
    · cases h
  · cases h

theorem eq_cons_of_surrogateMark {mark : UInt8} (h : surrogateMark mark s = .ok rest) :
    s = mark :: rest := by
  unfold surrogateMark at h
  split at h
  · cases h
  · split at h
    · next heq =>
      cases h
      rw [heq]
    · cases h

theorem charSpells_of_unicodeEscape (h : unicodeEscape s = .ok (c, rest)) :
    ∃ letters, s = letters ++ rest ∧ CharSpells c (92 :: 117 :: letters) := by
  obtain ⟨⟨n, s₁⟩, hfirst, hread⟩ := exists_of_bind_eq_ok h
  obtain ⟨high, hs, hhigh, hn⟩ := hexSpells_of_hexFour hfirst
  dsimp only at hread
  split at hread
  · cases hread
  next hnotLow =>
  split at hread
  · next hwhole =>
    rw [Except.ok.injEq, Prod.mk.injEq] at hread
    obtain ⟨rfl, rfl⟩ := hread
    have hchar : (Char.ofNat n).toNat = n := Utf8.toNat_char_ofNat (by omega)
    exact ⟨high, hs, .basic (by rwa [hchar]) (by rwa [hchar])⟩
  · next hhalf =>
    obtain ⟨s₂, hsolidus, hread⟩ := exists_of_bind_eq_ok hread
    obtain ⟨s₃, hletter, hread⟩ := exists_of_bind_eq_ok hread
    obtain ⟨⟨m, s₄⟩, hsecond, hlast⟩ := exists_of_bind_eq_ok hread
    obtain ⟨low, rfl, hlow, hm⟩ := hexSpells_of_hexFour hsecond
    rw [eq_cons_of_surrogateMark hletter] at hsolidus
    rw [eq_cons_of_surrogateMark hsolidus] at hs
    dsimp only at hlast
    split at hlast
    · cases hlast
    · rw [Except.ok.injEq, Prod.mk.injEq] at hlast
      obtain ⟨rfl, rfl⟩ := hlast
      refine ⟨high ++ 92 :: 117 :: low, by simp [hs], ?_⟩
      have hchar := Utf8.toNat_char_ofNat (n := 0x10000 + (n - 0xD800) * 1024 + (m - 0xDC00))
        (by omega)
      apply CharSpells.pair
      · omega
      · rwa [hchar, show 0xD800 + (_ - 0x10000) / 1024 = n by omega]
      · rwa [hchar, show 0xDC00 + (_ - 0x10000) % 1024 = m by omega]

theorem eq_ofNat_of_char (h : Char.ofNat b.toNat = c) : b = UInt8.ofNat c.toNat := by
  have hb : b.toNat < 256 := b.toNat_lt
  rw [← h, Utf8.toNat_char_ofNat (by omega), UInt8.ofNat_toNat]

theorem charSpells_of_escape (h : escape s = .ok (bytes, rest)) :
    ∃ c letters, s = letters ++ rest ∧ bytes = Utf8.encodeChar c ∧
      CharSpells c (92 :: letters) := by
  cases s with
  | nil => cases h
  | cons b s =>
    have hshort (letter d : Char) (hmem : (UInt8.ofNat letter.toNat, d) ∈ shortEscapes)
        (hchar : Char.ofNat b.toNat = letter)
        (hread : (.ok (Utf8.encodeChar d, s) : Except Fault (Bytes × Bytes)) = .ok (bytes, rest)) :
        ∃ c letters, b :: s = letters ++ rest ∧ bytes = Utf8.encodeChar c ∧
          CharSpells c (92 :: letters) := by
      cases hread
      exact ⟨d, [_], by rw [eq_ofNat_of_char hchar]; rfl, rfl, .short hmem⟩
    unfold escape at h
    dsimp only at h
    split at h
    · next hchar => exact hshort '"' '"' (by decide) hchar h
    · next hchar => exact hshort '\\' '\\' (by decide) hchar h
    · next hchar => exact hshort '/' '/' (by decide) hchar h
    · next hchar => exact hshort 'b' '\x08' (by decide) hchar h
    · next hchar => exact hshort 'f' '\x0c' (by decide) hchar h
    · next hchar => exact hshort 'n' '\n' (by decide) hchar h
    · next hchar => exact hshort 'r' '\r' (by decide) hchar h
    · next hchar => exact hshort 't' '\t' (by decide) hchar h
    · next hchar =>
      obtain ⟨⟨c, s⟩, hread, hfound⟩ := exists_of_map_eq_ok h
      obtain ⟨letters, rfl, hspells⟩ := charSpells_of_unicodeEscape hread
      cases hfound
      exact ⟨c, 117 :: letters, by rw [eq_ofNat_of_char hchar]; rfl, rfl, hspells⟩
    · cases h

/-! ## Bytes -/

/-- What the bytes of a string mean, piece by piece. -/
inductive Means : Bytes → Bytes → Prop
  | nil : Means [] []
  | plain {b : UInt8} {text bytes : Bytes} (hplain : IsPlain b) (hmore : Means text bytes) :
      Means (b :: text) (b :: bytes)
  | escape {c : Char} {letters text bytes : Bytes} (hescape : CharSpells c (92 :: letters))
      (hmore : Means text bytes) : Means (92 :: letters ++ text) (Utf8.encodeChar c ++ bytes)

theorem means_of_stringBytes {fuel : Nat} (h : stringBytes fuel s = .ok (bytes, rest)) :
    ∃ text, s = text ++ 34 :: rest ∧ Means text bytes := by
  induction fuel generalizing s bytes rest with
  | zero => cases h
  | succ fuel ih =>
    cases s with
    | nil => cases h
    | cons b s =>
      unfold stringBytes at h
      split at h
      · next hquote =>
        cases h
        exact ⟨[], by rw [hquote]; rfl, .nil⟩
      next hquote =>
      split at h
      · next hsolidus =>
        obtain ⟨⟨meant, s₁⟩, hescape, h⟩ := exists_of_bind_eq_ok h
        obtain ⟨⟨more, s₂⟩, hmore, h⟩ := exists_of_bind_eq_ok h
        cases h
        obtain ⟨c, letters, rfl, rfl, hspells⟩ := charSpells_of_escape hescape
        obtain ⟨text, rfl, hmeans⟩ := ih hmore
        exact ⟨92 :: letters ++ text, by simp [hsolidus], .escape hspells hmeans⟩
      next hsolidus =>
      split at h
      · cases h
      · next hcontrol =>
        obtain ⟨⟨more, s₁⟩, hmore, h⟩ := exists_of_bind_eq_ok h
        cases h
        obtain ⟨text, rfl, hmeans⟩ := ih hmore
        exact ⟨b :: text, rfl, .plain ⟨hquote, hsolidus, UInt8.not_lt.mp hcontrol⟩ hmeans⟩

/-! ## Characters -/

/-- A byte that continues a sequence. -/
def IsTail (b : UInt8) : Prop := 0x80 ≤ b.toNat ∧ b.toNat < 0xC0

theorem exists_encodeChar (c : Char) : ∃ b tails, Utf8.encodeChar c = b :: tails ∧ ¬ IsTail b ∧
    (∀ t ∈ tails, IsTail t) ∧ (b.toNat = c.toNat ∨ 0x80 ≤ c.toNat) := by
  have hvalid : c.toNat < 0xD800 ∨ 0xDFFF < c.toNat ∧ c.toNat < 0x110000 := c.valid
  have htail {n : Nat} (hn : n < 64) : IsTail (UInt8.ofNat (0x80 + n)) := by
    rw [IsTail, Utf8.toNat_ofNat_of_lt (by omega)]
    omega
  have hfirst {n : Nat} (hhigh : n < 0x100) (hn : n < 0x80 ∨ 0xC0 ≤ n) :
      ¬ IsTail (UInt8.ofNat n) := by
    rw [IsTail, Utf8.toNat_ofNat_of_lt hhigh]
    omega
  unfold Utf8.encodeChar
  dsimp only
  split
  · next hone =>
    exact ⟨_, _, rfl, hfirst (by omega) (.inl hone), by simp,
      .inl (Utf8.toNat_ofNat_of_lt (by omega))⟩
  next hone =>
  have hlong : 0x80 ≤ c.toNat := not_lt.mp hone
  split
  · refine ⟨_, _, rfl, hfirst (by omega) (by omega), ?_, .inr hlong⟩
    simp only [List.forall_mem_singleton]
    exact htail (by omega)
  split
  · refine ⟨_, _, rfl, hfirst (by omega) (by omega), ?_, .inr hlong⟩
    simp only [List.forall_mem_cons, List.not_mem_nil, false_imp_iff, implies_true, and_true]
    exact ⟨htail (by omega), htail (by omega)⟩
  · refine ⟨_, _, rfl, hfirst (by omega) (by omega), ?_, .inr hlong⟩
    simp only [List.forall_mem_cons, List.not_mem_nil, false_imp_iff, implies_true, and_true]
    exact ⟨htail (by omega), htail (by omega), htail (by omega)⟩

theorem encodeChar_append_inj {x y : Bytes} (h : Utf8.encodeChar d ++ x = Utf8.encodeChar c ++ y) :
    d = c ∧ x = y := by
  have hscan := congrArg (Utf8.scan none) h
  rw [Utf8.scan_encodeChar, Utf8.scan_encodeChar, List.cons.injEq, Option.some.injEq] at hscan
  obtain ⟨rfl, _⟩ := hscan
  exact ⟨rfl, List.append_cancel_left h⟩

theorem Means.of_tails {tails : Bytes} (htails : ∀ t ∈ tails, IsTail t)
    (hmeans : Means text (tails ++ bytes)) : ∃ rest, text = tails ++ rest ∧ Means rest bytes := by
  induction tails generalizing text with
  | nil => exact ⟨text, rfl, hmeans⟩
  | cons t tails ih =>
    generalize hbytes : t :: tails ++ bytes = all at hmeans
    cases hmeans with
    | nil => cases hbytes
    | plain hplain hmore =>
      cases hbytes
      obtain ⟨rest, rfl, hrest⟩ := ih (fun t ht ↦ htails t (List.mem_cons_of_mem _ ht)) hmore
      exact ⟨rest, rfl, hrest⟩
    | @escape c letters text bytes hescape hmore =>
      obtain ⟨b, others, hencode, hfirst, _⟩ := exists_encodeChar c
      rw [hencode] at hbytes
      have hhead : t = b := (List.cons.inj hbytes).1
      exact absurd (hhead ▸ htails t List.mem_cons_self) hfirst

/-- The bytes of a character come from one piece. -/
theorem Means.exists_piece (hmeans : Means text (Utf8.encodeChar c ++ bytes)) :
    ∃ piece rest, text = piece ++ rest ∧ CharSpells c piece ∧ Means rest bytes := by
  obtain ⟨b, tails, hencode, _, htails, hfirst⟩ := exists_encodeChar c
  generalize hbytes : Utf8.encodeChar c ++ bytes = all at hmeans
  cases hmeans with
  | nil => simp [hencode] at hbytes
  | plain hplain hmore =>
    rw [hencode] at hbytes
    cases hbytes
    obtain ⟨rest, rfl, hrest⟩ := hmore.of_tails htails
    refine ⟨b :: tails, rest, rfl, ?_, hrest⟩
    rw [← hencode]
    obtain ⟨hquote, hsolidus, hcontrol⟩ := hplain
    have hcontrol : 32 ≤ b.toNat := UInt8.le_iff_toNat_le.mp hcontrol
    have hne {d : Char} (hd : d.toNat < 0x80) (hb : b ≠ UInt8.ofNat d.toNat) : c ≠ d := by
      rintro rfl
      rcases hfirst with hsame | hlong
      · exact hb (Utf8.eq_ofNat_of_toNat hsame)
      · omega
    exact .plain (by omega) (hne (by decide) hquote) (hne (by decide) hsolidus)
  | escape hescape hmore =>
    obtain ⟨rfl, rfl⟩ := encodeChar_append_inj hbytes
    exact ⟨_, _, rfl, hescape, hmore⟩

theorem Means.exists_pieces {cs : List Char} (hmeans : Means text (Utf8.encodeChars cs)) :
    ∃ pieces, List.Forall₂ CharSpells cs pieces ∧ text = pieces.flatten := by
  induction cs generalizing text with
  | nil =>
    generalize hbytes : Utf8.encodeChars [] = all at hmeans
    cases hmeans with
    | nil => exact ⟨[], .nil, rfl⟩
    | plain => cases hbytes
    | @escape c =>
      obtain ⟨b, tails, hencode, _⟩ := exists_encodeChar c
      rw [hencode] at hbytes
      cases hbytes
  | cons c cs ih =>
    obtain ⟨piece, rest, rfl, hpiece, hrest⟩ := Means.exists_piece hmeans
    obtain ⟨pieces, hpieces, rfl⟩ := ih hrest
    exact ⟨piece :: pieces, .cons hpiece hpieces, rfl⟩

/-- What is read after an opening quotation mark is the rest of a text of the string. -/
theorem stringSpells_of_stringBody {t : String} (h : stringBody s = .ok (t, rest)) :
    ∃ body, s = body ++ rest ∧ StringSpells t (34 :: body) := by
  obtain ⟨⟨bytes, s₁⟩, hbytes, hread⟩ := exists_of_bind_eq_ok h
  obtain ⟨text, rfl, hmeans⟩ := means_of_stringBytes hbytes
  dsimp only at hread
  split at hread
  · next t' hdecode =>
    cases hread
    rw [Utf8.eq_encode_of_decode? hdecode] at hmeans
    obtain ⟨pieces, hpieces, rfl⟩ := hmeans.exists_pieces
    exact ⟨pieces.flatten ++ [34], by simp, .quoted hpieces⟩
  · cases hread

end Courier.Json
