import Courier.Json.Reader
import Courier.Proofs.Json.Grammar
import Courier.Proofs.Text.Utf8

/-!
# Reading strings

Every text of a string is read back as that string.  A character is taken up by its piece of the
text, whichever piece that is: its own bytes, or an escape.
-/

namespace Courier.Json

open Reader

variable {c : Char} {n : Nat} {text piece tail rest meant : Bytes}

/-! ## Escapes -/

theorem hexValue_of_mem : ∀ value < 16, ∀ b ∈ hexForms value, hexValue b = some value := by
  decide +kernel

theorem HexSpells.hexFour (htext : HexSpells n text) (hn : n < 0x10000) (rest : Bytes) :
    Reader.hexFour (text ++ rest) = .ok (n, rest) := by
  cases htext with
  | @digits a b c d ha hb hc hd =>
    have ha := hexValue_of_mem (n / 4096 % 16) (Nat.mod_lt _ (by decide)) a ha
    have hb := hexValue_of_mem (n / 256 % 16) (Nat.mod_lt _ (by decide)) b hb
    have hc := hexValue_of_mem (n / 16 % 16) (Nat.mod_lt _ (by decide)) c hc
    have hd := hexValue_of_mem (n % 16) (Nat.mod_lt _ (by decide)) d hd
    have hsum : ((n / 4096 % 16 * 16 + n / 256 % 16) * 16 + n / 16 % 16) * 16 + n % 16 = n := by
      omega
    simp only [List.cons_append, List.nil_append, Reader.hexFour, ha, hb, hc, hd, hsum]

theorem escape_of_short {letter : UInt8} (hshort : (letter, c) ∈ shortEscapes) (rest : Bytes) :
    escape (letter :: rest) = .ok (Utf8.encodeChar c, rest) := by
  simp only [shortEscapes, List.mem_cons, List.not_mem_nil, or_false, Prod.mk.injEq] at hshort
  rcases hshort with ⟨rfl, rfl⟩ | ⟨rfl, rfl⟩ | ⟨rfl, rfl⟩ | ⟨rfl, rfl⟩ | ⟨rfl, rfl⟩ | ⟨rfl, rfl⟩ |
    ⟨rfl, rfl⟩ | ⟨rfl, rfl⟩ <;> rfl

theorem escape_unicode (text : Bytes) :
    escape (117 :: text) =
      (unicodeEscape text).map fun found ↦ (Utf8.encodeChar found.1, found.2) :=
  rfl

theorem unicodeEscape_of_basic (hbasic : c.toNat < 0x10000) (htext : HexSpells c.toNat text)
    (rest : Bytes) : unicodeEscape (text ++ rest) = .ok (c, rest) := by
  have hvalid : c.toNat < 0xD800 ∨ 0xDFFF < c.toNat ∧ c.toNat < 0x110000 := c.valid
  have hlow : ¬ (0xDC00 ≤ c.toNat ∧ c.toNat ≤ 0xDFFF) := by omega
  have hwhole : c.toNat < 0xD800 ∨ 0xDBFF < c.toNat := by omega
  rw [unicodeEscape, htext.hexFour hbasic]
  simp only [bind, Except.bind, if_neg hlow, if_pos hwhole, Char.ofNat_toNat]

theorem unicodeEscape_of_halves {k m : Nat} {high low : Bytes} (hk : k < 1024) (hm : m < 1024)
    (hhigh : HexSpells (0xD800 + k) high) (hlow : HexSpells (0xDC00 + m) low) (rest : Bytes) :
    unicodeEscape (high ++ 92 :: 117 :: (low ++ rest)) =
      .ok (Char.ofNat (0x10000 + k * 1024 + m), rest) := by
  have hfirst : ¬ (0xDC00 ≤ 0xD800 + k ∧ 0xD800 + k ≤ 0xDFFF) := by omega
  have hhalf : ¬ (0xD800 + k < 0xD800 ∨ 0xDBFF < 0xD800 + k) := by omega
  have hsecond : ¬ (0xDC00 + m < 0xDC00 ∨ 0xDFFF < 0xDC00 + m) := by omega
  rw [unicodeEscape, hhigh.hexFour (by omega)]
  simp only [bind, Except.bind, if_neg hfirst, if_neg hhalf, surrogateMark, if_true,
    hlow.hexFour (by omega), if_neg hsecond, Nat.add_sub_cancel_left]

theorem unicodeEscape_of_pair {high low : Bytes} (hbeyond : 0x10000 ≤ c.toNat)
    (hhigh : HexSpells (0xD800 + (c.toNat - 0x10000) / 1024) high)
    (hlow : HexSpells (0xDC00 + (c.toNat - 0x10000) % 1024) low) (rest : Bytes) :
    unicodeEscape (high ++ 92 :: 117 :: (low ++ rest)) = .ok (c, rest) := by
  have hvalid : c.toNat < 0xD800 ∨ 0xDFFF < c.toNat ∧ c.toNat < 0x110000 := c.valid
  have hsum : 0x10000 + (c.toNat - 0x10000) / 1024 * 1024 + (c.toNat - 0x10000) % 1024 =
      c.toNat := by omega
  rw [unicodeEscape_of_halves (by omega) (by omega) hhigh hlow rest, hsum, Char.ofNat_toNat]

/-! ## Pieces of a string -/

/-- A byte that stands for itself. -/
def IsPlain (b : UInt8) : Prop := b ≠ 34 ∧ b ≠ 92 ∧ 32 ≤ b

theorem isPlain_ofNat {n : Nat} (hcontrol : 32 ≤ n) (hquote : n ≠ 34) (hsolidus : n ≠ 92)
    (hn : n < 256) : IsPlain (UInt8.ofNat n) := by
  have hb : (UInt8.ofNat n).toNat = n := Utf8.toNat_ofNat_of_lt hn
  refine ⟨?_, ?_, ?_⟩
  · intro heq
    exact hquote (hb.symm.trans (congrArg UInt8.toNat heq))
  · intro heq
    exact hsolidus (hb.symm.trans (congrArg UInt8.toNat heq))
  · apply UInt8.le_iff_toNat_le.mpr
    rw [hb]
    exact hcontrol

theorem isPlain_of_mem_encodeChar (hcontrol : 32 ≤ c.toNat) (hquote : c ≠ '"')
    (hsolidus : c ≠ '\\') : ∀ b ∈ Utf8.encodeChar c, IsPlain b := by
  have hvalid : c.toNat < 0xD800 ∨ 0xDFFF < c.toNat ∧ c.toNat < 0x110000 := c.valid
  have hquote : c.toNat ≠ 34 := fun heq ↦ hquote (Char.toNat_inj.mp heq)
  have hsolidus : c.toNat ≠ 92 := fun heq ↦ hsolidus (Char.toNat_inj.mp heq)
  intro b hb
  unfold Utf8.encodeChar at hb
  dsimp only at hb
  split at hb
  · cases List.mem_singleton.mp hb
    exact isPlain_ofNat hcontrol hquote hsolidus (by omega)
  · split at hb
    · simp only [List.mem_cons, List.not_mem_nil, or_false] at hb
      rcases hb with rfl | rfl <;>
        exact isPlain_ofNat (by omega) (by omega) (by omega) (by omega)
    · split at hb
      · simp only [List.mem_cons, List.not_mem_nil, or_false] at hb
        rcases hb with rfl | rfl | rfl <;>
          exact isPlain_ofNat (by omega) (by omega) (by omega) (by omega)
      · simp only [List.mem_cons, List.not_mem_nil, or_false] at hb
        rcases hb with rfl | rfl | rfl | rfl <;>
          exact isPlain_ofNat (by omega) (by omega) (by omega) (by omega)

theorem stringBytes_plain {bytes : Bytes} (hplain : ∀ b ∈ bytes, IsPlain b)
    {count : Nat} (htail : ∀ fuel ≥ count, stringBytes fuel tail = .ok (meant, rest)) :
    ∀ fuel ≥ bytes.length + count,
      stringBytes fuel (bytes ++ tail) = .ok (bytes ++ meant, rest) := by
  induction bytes with
  | nil =>
    intro fuel hfuel
    exact htail fuel (by simpa using hfuel)
  | cons b bytes ih =>
    intro fuel hfuel
    obtain ⟨hquote, hsolidus, hcontrol⟩ := hplain b List.mem_cons_self
    obtain ⟨fuel, rfl⟩ : ∃ more, fuel = more + 1 := Nat.exists_eq_add_of_le' (by
      rw [List.length_cons] at hfuel
      omega)
    have hmore : fuel ≥ bytes.length + count := by
      rw [List.length_cons] at hfuel
      omega
    have hrest := ih (fun b hb ↦ hplain b (List.mem_cons_of_mem _ hb)) fuel hmore
    simp only [List.cons_append, stringBytes, if_neg hquote, if_neg hsolidus,
      if_neg (UInt8.not_lt.mpr hcontrol), hrest]
    rfl

theorem stringBytes_escape {letters bytes : Bytes}
    (hescape : escape (letters ++ tail) = .ok (bytes, tail)) {count : Nat}
    (htail : ∀ fuel ≥ count, stringBytes fuel tail = .ok (meant, rest)) :
    ∀ fuel ≥ (92 :: letters).length + count,
      stringBytes fuel (92 :: letters ++ tail) = .ok (bytes ++ meant, rest) := by
  intro fuel hfuel
  rw [List.length_cons] at hfuel
  obtain ⟨fuel, rfl⟩ : ∃ more, fuel = more + 1 := Nat.exists_eq_add_of_le' (by omega)
  have hmore := htail fuel (by omega)
  simp only [List.cons_append, stringBytes, hescape, bind, Except.bind, hmore]
  rfl

/-- A piece of a string is read as its character. -/
theorem CharSpells.stringBytes (hpiece : CharSpells c piece) {count : Nat}
    (htail : ∀ fuel ≥ count, Reader.stringBytes fuel tail = .ok (meant, rest)) :
    ∀ fuel ≥ piece.length + count,
      Reader.stringBytes fuel (piece ++ tail) = .ok (Utf8.encodeChar c ++ meant, rest) := by
  cases hpiece with
  | plain hcontrol hquote hsolidus =>
    exact stringBytes_plain (isPlain_of_mem_encodeChar hcontrol hquote hsolidus) htail
  | short hshort => exact stringBytes_escape (escape_of_short hshort tail) htail
  | basic hbasic hdigits =>
    apply stringBytes_escape _ htail
    rw [List.cons_append, escape_unicode, unicodeEscape_of_basic hbasic hdigits]
    rfl
  | pair hbeyond hhigh hlow =>
    apply stringBytes_escape _ htail
    rw [List.cons_append, List.append_assoc, escape_unicode]
    rw [List.cons_append, List.cons_append, unicodeEscape_of_pair hbeyond hhigh hlow]
    rfl

theorem stringBytes_of_pieces {cs : List Char} {pieces : List Bytes}
    (hpieces : List.Forall₂ CharSpells cs pieces) (rest : Bytes) :
    ∀ fuel ≥ pieces.flatten.length + 1,
      Reader.stringBytes fuel (pieces.flatten ++ 34 :: rest) =
        .ok (Utf8.encodeChars cs, rest) := by
  induction hpieces with
  | nil =>
    intro fuel hfuel
    obtain ⟨fuel, rfl⟩ : ∃ more, fuel = more + 1 := Nat.exists_eq_add_of_le' (by omega)
    rfl
  | @cons c piece cs pieces hpiece _ ih =>
    intro fuel hfuel
    rw [List.flatten_cons, List.length_append] at hfuel
    rw [List.flatten_cons, List.append_assoc]
    exact hpiece.stringBytes ih fuel (by omega)

/-- A string is read from its text after the opening quotation mark. -/
theorem StringSpells.exists_body {s : String} (htext : StringSpells s text) :
    ∃ body, text = 34 :: body ∧ ∀ rest, stringBody (body ++ rest) = .ok (s, rest) := by
  cases htext with
  | @quoted pieces hpieces =>
    refine ⟨pieces.flatten ++ [34], rfl, ?_⟩
    intro rest
    have hfuel : (pieces.flatten ++ 34 :: rest).length ≥ pieces.flatten.length + 1 := by
      rw [List.length_append, List.length_cons]
      omega
    rw [List.append_assoc, List.singleton_append, stringBody,
      stringBytes_of_pieces hpieces rest _ hfuel]
    simp only [bind, Except.bind, Utf8.decode?_encodeChars, String.ofList_toList]

end Courier.Json
