import Courier.Proofs.Json.Decimals
import Courier.Proofs.Json.Values

/-!
# Printed values

The printed text of a list or of an object is one of its texts, without white space and with its
parts as they are printed; the printed text of a string is one of the string's texts.
-/

namespace Courier.Json

open Reader

/-! ## Printed strings -/

/-- A character is written by one of its pieces. -/
theorem charSpells_escapeChar (c : Char) : CharSpells c (Utf8.encodeChars (escapeChar c)) := by
  have hshort {letter : UInt8} {c' : Char} (hmem : (letter, c') ∈ shortEscapes) (hc : c = c') :
      CharSpells c [92, letter] := by
    rw [hc]
    exact .short hmem
  have htoNat {n : Nat} (hc : c.toNat = n) : c = Char.ofNat n := by rw [← hc, Char.ofNat_toNat]
  unfold escapeChar
  split
  · next hc => exact @hshort 34 _ (by decide) hc
  split
  · next hc => exact @hshort 92 _ (by decide) hc
  split
  · next hc => exact @hshort 110 _ (by decide) hc
  split
  · next hc => exact @hshort 114 _ (by decide) hc
  split
  · next hc => exact @hshort 116 _ (by decide) hc
  split
  · next hc => exact @hshort 98 _ (by decide) (htoNat hc)
  split
  · next hc => exact @hshort 102 _ (by decide) (htoNat hc)
  split
  · next hc =>
    have htext : ∀ n < 32, Utf8.encodeChars ['\\', 'u', '0', '0', hexDigit (n / 16), hexDigit n] =
        [92, 117, 48, 48, UInt8.ofNat (Nat.digitChar (n / 16 % 16)).toNat,
          UInt8.ofNat (Nat.digitChar (n % 16)).toNat] := by decide
    have hzeros : ∀ n < 32, 48 ∈ hexForms (n / 4096 % 16) ∧ 48 ∈ hexForms (n / 256 % 16) := by
      decide
    rw [htext _ hc]
    exact .basic (by omega) (.digits (hzeros _ hc).1 (hzeros _ hc).2 List.mem_cons_self
      List.mem_cons_self)
  · next hquote hsolidus _ _ _ _ _ hcontrol =>
    have htext : Utf8.encodeChars [c] = Utf8.encodeChar c := by simp [Utf8.encodeChars]
    rw [htext]
    exact .plain (by omega) hquote hsolidus

theorem stringSpells_stringChars (s : String) :
    StringSpells s (Utf8.encodeChars (stringChars s)) := by
  have hpieces : List.Forall₂ CharSpells s.toList
      (s.toList.map fun c ↦ Utf8.encodeChars (escapeChar c)) := by
    rw [List.forall₂_map_right_iff, List.forall₂_same]
    intro c _
    exact charSpells_escapeChar c
  have htext : Utf8.encodeChars (stringChars s) =
      34 :: ((s.toList.map fun c ↦ Utf8.encodeChars (escapeChar c)).flatten ++ [34]) := by
    calc Utf8.encodeChars (stringChars s)
      _ = 34 :: Utf8.encodeChars (s.toList.flatMap escapeChar ++ ['"']) := rfl
      _ = 34 :: (Utf8.encodeChars (s.toList.flatMap escapeChar) ++ [34]) := by
        rw [encodeChars_append]
        rfl
      _ = _ := by
        rw [Utf8.encodeChars, List.flatMap_assoc, List.flatMap_def]
        rfl
  rw [htext]
  exact .quoted hpieces

/-! ## Printed lists and objects -/

theorem exists_listed {α : Type} (print : α → Bytes) (more : List α → Bytes) (close : UInt8)
    (hnil : more [] = [close]) (hcons : ∀ a l, more (a :: l) = 44 :: (print a ++ more l)) (a : α)
    (l : List α) : ∃ text, Listed (fun a text ↦ text = print a) (a :: l) text ∧
      print a ++ more l = text ++ [close] := by
  have hblank : IsBlank [] := by simp [IsBlank]
  induction l generalizing a with
  | nil => exact ⟨_, .last hblank rfl hblank, by simp [hnil]⟩
  | cons b l ih =>
    obtain ⟨text, hlisted, htext⟩ := ih b
    exact ⟨_, .cons hblank rfl hblank hlisted, by simp [hcons, htext]⟩

/-- A member as it is printed. -/
def memberBytes (m : Member) : Bytes := Utf8.encodeChars (stringChars m.1) ++ 58 :: m.2.bytes

theorem bytes_array_cons (item : Json) (l : List Json) :
    (Json.array (item :: l)).bytes = 91 :: (item.bytes ++ Utf8.encodeChars (itemChars l)) := by
  rw [bytes, chars, List.cons_append, bytes, ← encodeChars_append]
  rfl

theorem encode_itemChars_cons (item : Json) (l : List Json) :
    Utf8.encodeChars (itemChars (item :: l)) =
      44 :: (item.bytes ++ Utf8.encodeChars (itemChars l)) := by
  rw [itemChars, List.cons_append, bytes, ← encodeChars_append]
  rfl

theorem bytes_object_cons (m : Member) (l : List Member) :
    (Json.object (m :: l)).bytes = 123 :: (memberBytes m ++ Utf8.encodeChars (memberChars l)) := by
  have hcolon : Utf8.encodeChars (':' :: m.2.chars) = 58 :: m.2.bytes := rfl
  rw [memberBytes, ← hcolon, ← encodeChars_append, ← encodeChars_append, bytes, chars]
  rfl

theorem encode_memberChars_cons (m : Member) (l : List Member) :
    Utf8.encodeChars (memberChars (m :: l)) =
      44 :: (memberBytes m ++ Utf8.encodeChars (memberChars l)) := by
  have hcolon : Utf8.encodeChars (':' :: m.2.chars) = 58 :: m.2.bytes := rfl
  rw [memberBytes, ← hcolon, ← encodeChars_append, ← encodeChars_append, memberChars]
  rfl

theorem exists_listed_items (items : List Json) :
    ∃ text, Listed (fun item text ↦ text = item.bytes) items text ∧
      (Json.array items).bytes = 91 :: (text ++ [93]) := by
  cases items with
  | nil => exact ⟨[], .none (by simp [IsBlank]), rfl⟩
  | cons item l =>
    obtain ⟨text, hlisted, htext⟩ := exists_listed bytes
      (fun l ↦ Utf8.encodeChars (itemChars l)) 93 rfl encode_itemChars_cons item l
    exact ⟨text, hlisted, by rw [bytes_array_cons, htext]⟩

theorem exists_listed_members (members : List Member) :
    ∃ text, Listed (fun m text ↦ text = memberBytes m) members text ∧
      (Json.object members).bytes = 123 :: (text ++ [125]) := by
  cases members with
  | nil => exact ⟨[], .none (by simp [IsBlank]), rfl⟩
  | cons m l =>
    obtain ⟨text, hlisted, htext⟩ := exists_listed memberBytes
      (fun l ↦ Utf8.encodeChars (memberChars l)) 125 rfl encode_memberChars_cons m l
    exact ⟨text, hlisted, by rw [bytes_object_cons, htext]⟩

/-! ## Printed numbers -/

theorem isDigit_head_positional {d : Char} {more : List Char} (hd : d.isDigit = true)
    (point : Int) :
    ∃ c cs, Decimal.positional (d :: more) point = c :: cs ∧ c.isDigit = true := by
  unfold Decimal.positional
  split
  · exact ⟨'0', _, rfl, rfl⟩
  · next hpoint =>
    split
    · exact ⟨d, _, rfl, hd⟩
    · obtain ⟨count, hcount⟩ : ∃ count, point.toNat = count + 1 :=
        Nat.exists_eq_add_of_le' (by omega)
      rw [hcount]
      exact ⟨d, _, rfl, hd⟩

/-- A real number without a sign begins with a digit. -/
theorem exists_encode_scientific (m : Magnitude) :
    ∃ b s, Utf8.encodeChars m.scientific = b :: s ∧ isDigit b = true := by
  have hchars : ∃ c cs, m.scientific = c :: cs ∧ c.isDigit = true := by
    unfold Magnitude.scientific
    dsimp only
    generalize hdigits : Nat.toDigits 10 (m.shortest .toEven).digits = digits
    obtain ⟨d, more, rfl⟩ : ∃ d more, digits = d :: more := by
      apply List.exists_cons_of_length_pos
      rw [← hdigits]
      exact Nat.length_toDigits_pos
    have hd : d.isDigit = true := by
      apply Numeral.isDigit_of_mem_toDigits (n := (m.shortest .toEven).digits)
      rw [hdigits]
      exact List.mem_cons_self
    split
    · unfold Decimal.pointed
      split
      · obtain ⟨c, cs, hpositional, hc⟩ := isDigit_head_positional hd
          ((d :: more).length + (m.shortest .toEven).exponent)
        exact ⟨c, cs ++ ['.', '0'], by rw [hpositional, List.cons_append], hc⟩
      · exact isDigit_head_positional hd _
    · cases more with
      | nil => exact ⟨d, _, rfl, hd⟩
      | cons d' more => exact ⟨d, _, rfl, hd⟩
  obtain ⟨c, cs, hchars, hc⟩ := hchars
  obtain ⟨hencode, hdigit, _⟩ := encodeChar_digit hc
  refine ⟨_, Utf8.encodeChars cs, ?_, hdigit⟩
  rw [hchars, Utf8.encodeChars, List.flatMap_cons, hencode]
  rfl

/-- The printed text tells by its first byte that a value begins. -/
theorem exists_head_bytes (v : Json) :
    ∃ b s, v.bytes = b :: s ∧ isSpace b = false ∧ b ≠ 93 := by
  cases v with
  | null => exact ⟨_, _, rfl, by decide, by decide⟩
  | bool value => cases value <;> exact ⟨_, _, rfl, by decide, by decide⟩
  | number n =>
    cases n with
    | integer n => exact exists_head (.integer n)
    | real negative m =>
      cases negative with
      | false =>
        obtain ⟨b, s, htext, hdigit⟩ := exists_encode_scientific m
        exact ⟨b, s, htext, (digit_begins hdigit).1, (digit_begins hdigit).2.2.1⟩
      | true => exact ⟨45, _, rfl, by decide, by decide⟩
  | string s => exact ⟨34, _, rfl, by decide, by decide⟩
  | array items => cases items <;> exact ⟨91, _, rfl, by decide, by decide⟩
  | object members => cases members <;> exact ⟨123, _, rfl, by decide, by decide⟩

end Courier.Json
