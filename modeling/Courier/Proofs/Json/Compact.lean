import Courier.Proofs.Json.Reread

/-!
# Compact texts

The printed text of a value has white space in strings only and no control characters at all.  Where
the strings of a text are is told by its quotation marks and reverse solidi.
-/

namespace Courier.Json

open Reader

variable {c : Char} {s : String} {text other piece rest : Bytes} {b : UInt8} {v : Json}
  {room : Nat}

/-! ## Bytes outside strings -/

/-- Where a byte stands. -/
inductive Place where
  | outside
  | inside
  | escaped

/-- The bytes that stand outside strings, opening quotation marks among them. -/
def outsideFrom : Place → Bytes → Bytes
  | _, [] => []
  | .outside, b :: s => b :: outsideFrom (if b = 34 then .inside else .outside) s
  | .inside, b :: s =>
    outsideFrom (if b = 34 then .outside else if b = 92 then .escaped else .inside) s
  | .escaped, _ :: s => outsideFrom .inside s

def outside (text : Bytes) : Bytes := outsideFrom .outside text

theorem outsideFrom_plain {bytes : Bytes} (hplain : ∀ b ∈ bytes, IsPlain b) (rest : Bytes) :
    outsideFrom .inside (bytes ++ rest) = outsideFrom .inside rest := by
  induction bytes with
  | nil => rfl
  | cons b bytes ih =>
    obtain ⟨hquote, hsolidus, _⟩ := hplain b List.mem_cons_self
    rw [List.cons_append, outsideFrom, if_neg hquote, if_neg hsolidus]
    exact ih fun b hb ↦ hplain b (List.mem_cons_of_mem _ hb)

theorem isPlain_of_mem_hexForms : ∀ value < 16, ∀ b ∈ hexForms value, IsPlain b := by
  unfold IsPlain
  decide +kernel

theorem HexSpells.isPlain {n : Nat} (htext : HexSpells n text) : ∀ b ∈ text, IsPlain b := by
  cases htext with
  | @digits a b c d ha hb hc hd =>
    have ha := isPlain_of_mem_hexForms _ (Nat.mod_lt _ (by decide)) a ha
    have hb := isPlain_of_mem_hexForms _ (Nat.mod_lt _ (by decide)) b hb
    have hc := isPlain_of_mem_hexForms _ (Nat.mod_lt _ (by decide)) c hc
    have hd := isPlain_of_mem_hexForms _ (Nat.mod_lt _ (by decide)) d hd
    simpa using ⟨ha, hb, hc, hd⟩

/-- A piece of a string does not end it. -/
theorem CharSpells.outsideFrom (hpiece : CharSpells c piece) (rest : Bytes) :
    outsideFrom .inside (piece ++ rest) = Json.outsideFrom .inside rest := by
  cases hpiece with
  | plain hcontrol hquote hsolidus =>
    exact outsideFrom_plain (isPlain_of_mem_encodeChar hcontrol hquote hsolidus) rest
  | short => rfl
  | basic _ hdigits => exact outsideFrom_plain hdigits.isPlain rest
  | @pair _ high low _ hhigh hlow =>
    calc Json.outsideFrom .inside (92 :: 117 :: (high ++ 92 :: 117 :: low) ++ rest)
      _ = Json.outsideFrom .inside (high ++ 92 :: 117 :: (low ++ rest)) := by
        rw [List.cons_append, List.cons_append, List.append_assoc]
        rfl
      _ = Json.outsideFrom .inside (low ++ rest) := outsideFrom_plain hhigh.isPlain _
      _ = Json.outsideFrom .inside rest := outsideFrom_plain hlow.isPlain _

theorem outsideFrom_pieces {cs : List Char} {pieces : List Bytes}
    (hpieces : List.Forall₂ CharSpells cs pieces) (rest : Bytes) :
    outsideFrom .inside (pieces.flatten ++ 34 :: rest) = outside rest := by
  induction hpieces with
  | nil => rfl
  | cons hpiece _ ih => rw [List.flatten_cons, List.append_assoc, hpiece.outsideFrom, ih]

theorem StringSpells.outside_append (htext : StringSpells s text) (rest : Bytes) :
    outside (text ++ rest) = 34 :: outside rest := by
  cases htext with
  | quoted hpieces =>
    rw [List.cons_append, List.append_assoc]
    exact congrArg (34 :: ·) (outsideFrom_pieces hpieces rest)

/-! ## Control characters -/

theorem CharSpells.printable (hpiece : CharSpells c piece) : ∀ b ∈ piece, 32 ≤ b := by
  have hhex {n : Nat} {digits : Bytes} (hdigits : HexSpells n digits) : ∀ b ∈ digits, 32 ≤ b :=
    fun b hb ↦ (hdigits.isPlain b hb).2.2
  cases hpiece with
  | plain hcontrol hquote hsolidus =>
    exact fun b hb ↦ (isPlain_of_mem_encodeChar hcontrol hquote hsolidus b hb).2.2
  | @short letter c hshort =>
    have hletter : ∀ pair ∈ shortEscapes, 32 ≤ pair.1 := by decide
    simpa using hletter _ hshort
  | basic _ hdigits =>
    simpa using hhex hdigits
  | pair _ hhigh hlow =>
    have hhigh := hhex hhigh
    have hlow := hhex hlow
    intro b hb
    simp only [List.mem_cons, List.mem_append] at hb
    rcases hb with rfl | rfl | hb | rfl | rfl | hb
    · decide
    · decide
    · exact hhigh b hb
    · decide
    · decide
    · exact hlow b hb

theorem StringSpells.printable (htext : StringSpells s text) : ∀ b ∈ text, 32 ≤ b := by
  cases htext with
  | @quoted pieces hpieces =>
    intro b hb
    simp only [List.mem_cons, List.mem_append, List.mem_flatten, List.not_mem_nil,
      or_false] at hb
    rcases hb with rfl | ⟨piece, hpiece, hb⟩ | rfl
    · decide
    · obtain ⟨c, _, hc⟩ := exists_of_forall₂ hpieces.flip piece hpiece
      exact hc.printable b hb
    · decide

/-! ## Compact parts -/

/-- A part of a text without control characters and with no white space outside strings. -/
structure Compact (text : Bytes) : Prop where
  printable : ∀ b ∈ text, 32 ≤ b
  outside : ∃ kept, (∀ b ∈ kept, isSpace b = false) ∧
    ∀ rest, outside (text ++ rest) = kept ++ Json.outside rest

theorem compact_nil : Compact [] := ⟨by simp, [], by simp, fun _ ↦ rfl⟩

theorem Compact.append (htext : Compact text) (hother : Compact other) :
    Compact (text ++ other) := by
  obtain ⟨kept, hkept, hout⟩ := htext.outside
  obtain ⟨more, hmore, hotherOut⟩ := hother.outside
  refine ⟨?_, kept ++ more, ?_, ?_⟩
  · intro b hb
    exact (List.mem_append.mp hb).elim (htext.printable b) (hother.printable b)
  · intro b hb
    exact (List.mem_append.mp hb).elim (hkept b) (hmore b)
  · intro rest
    rw [List.append_assoc, hout, hotherOut, List.append_assoc]

theorem compact_singleton (hb : 32 < b) (hquote : b ≠ 34) : Compact [b] := by
  refine ⟨?_, [b], ?_, ?_⟩
  · simpa using UInt8.le_of_lt hb
  · have hne (n : UInt8) (hn : n ≤ 32) : b ≠ n := fun heq ↦
      absurd hb (UInt8.not_lt.mpr (heq ▸ hn))
    simp [isSpace, hne 32 (by decide), hne 10 (by decide), hne 9 (by decide), hne 13 (by decide)]
  · intro rest
    rw [List.singleton_append, Json.outside, outsideFrom, if_neg hquote]
    rfl

theorem Compact.cons (hb : 32 < b) (hquote : b ≠ 34) (htext : Compact text) :
    Compact (b :: text) :=
  (compact_singleton hb hquote).append htext

/-- A compact text is a single line. -/
theorem Compact.not_break (htext : Compact text) : ∀ b ∈ text, b ≠ 10 ∧ b ≠ 13 := by
  intro b hb
  have hprintable := htext.printable b hb
  constructor
  · rintro rfl
    exact absurd hprintable (by decide)
  · rintro rfl
    exact absurd hprintable (by decide)

theorem Compact.isSpace_eq_false (htext : Compact text) :
    ∀ b ∈ Json.outside text, isSpace b = false := by
  obtain ⟨kept, hkept, hout⟩ := htext.outside
  have hall := hout []
  rw [List.append_nil] at hall
  rw [hall]
  simpa [Json.outside, outsideFrom] using hkept

theorem StringSpells.compact (htext : StringSpells s text) : Compact text := by
  refine ⟨htext.printable, [34], by simp [isSpace], ?_⟩
  intro rest
  exact htext.outside_append rest

/-! ## Printed values -/

theorem compact_of_letters (letters : Bytes) (hletters : ∀ b ∈ letters, 32 < b ∧ b ≠ 34) :
    Compact letters := by
  induction letters with
  | nil => exact compact_nil
  | cons b letters ih =>
    obtain ⟨hb, hquote⟩ := hletters b List.mem_cons_self
    exact .cons hb hquote (ih fun b hb ↦ hletters b (List.mem_cons_of_mem _ hb))

theorem compact_of_digits {cs : List Char} (hdigits : ∀ c ∈ cs, c.isDigit = true) :
    Compact (Utf8.encodeChars cs) := by
  induction cs with
  | nil => exact compact_nil
  | cons c cs ih =>
    obtain ⟨hencode, hdigit, _⟩ := encodeChar_digit (hdigits c List.mem_cons_self)
    have hletter : ∀ b, isDigit b = true → 32 < b ∧ b ≠ 34 := by
      intro b hb
      rcases eq_of_isDigit hb with rfl | rfl | rfl | rfl | rfl | rfl | rfl | rfl | rfl | rfl <;>
        decide
    obtain ⟨hb, hquote⟩ := hletter _ hdigit
    rw [Utf8.encodeChars, List.flatMap_cons, hencode]
    exact .cons hb hquote (ih fun c hc ↦ hdigits c (List.mem_cons_of_mem _ hc))

theorem compact_integer (n : Int) : Compact (Json.number (.integer n)).bytes := by
  cases n with
  | ofNat n => exact compact_of_digits fun c hc ↦ Numeral.isDigit_of_mem_toDigits hc
  | negSucc n =>
    exact .cons (by decide) (by decide)
      (compact_of_digits fun c hc ↦ Numeral.isDigit_of_mem_toDigits hc)

theorem compact_itemChars {items : List Json} (hitems : ∀ item ∈ items, Compact item.bytes) :
    Compact (Utf8.encodeChars (itemChars items)) := by
  induction items with
  | nil => exact compact_singleton (b := 93) (by decide) (by decide)
  | cons item rest ih =>
    rw [encode_itemChars_cons]
    apply Compact.cons (by decide) (by decide)
    apply (hitems item List.mem_cons_self).append
    exact ih fun item hitem ↦ hitems item (List.mem_cons_of_mem _ hitem)

theorem compact_memberBytes {m : Member} (hvalue : Compact m.2.bytes) :
    Compact (memberBytes m) :=
  (stringSpells_stringChars m.1).compact.append (.cons (by decide) (by decide) hvalue)

theorem compact_memberChars {members : List Member}
    (hmembers : ∀ m ∈ members, Compact m.2.bytes) :
    Compact (Utf8.encodeChars (memberChars members)) := by
  induction members with
  | nil => exact compact_singleton (b := 125) (by decide) (by decide)
  | cons m rest ih =>
    rw [encode_memberChars_cons]
    apply Compact.cons (by decide) (by decide)
    apply (compact_memberBytes (hmembers m List.mem_cons_self)).append
    exact ih fun m hm ↦ hmembers m (List.mem_cons_of_mem _ hm)

theorem compact_string (s : String) : Compact (Json.string s).bytes :=
  (stringSpells_stringChars s).compact

theorem compact_array {items : List Json} (hitems : ∀ item ∈ items, Compact item.bytes) :
    Compact (Json.array items).bytes := by
  cases items with
  | nil => exact compact_of_letters [91, 93] (by simp)
  | cons item rest =>
    rw [bytes_array_cons]
    apply Compact.cons (by decide) (by decide)
    apply (hitems item List.mem_cons_self).append
    exact compact_itemChars fun item hitem ↦ hitems item (List.mem_cons_of_mem _ hitem)

theorem compact_object {members : List Member} (hmembers : ∀ m ∈ members, Compact m.2.bytes) :
    Compact (Json.object members).bytes := by
  cases members with
  | nil => exact compact_of_letters [123, 125] (by simp)
  | cons m rest =>
    rw [bytes_object_cons]
    apply Compact.cons (by decide) (by decide)
    apply (compact_memberBytes (hmembers m List.mem_cons_self)).append
    exact compact_memberChars fun m hm ↦ hmembers m (List.mem_cons_of_mem _ hm)

/-- The printed text of a value without real numbers is compact. -/
theorem Plain.compact (hplain : Plain room v) : Compact v.bytes := by
  induction hplain with
  | null => exact compact_of_letters [110, 117, 108, 108] (by simp)
  | bool _ value =>
    cases value
    · exact compact_of_letters [102, 97, 108, 115, 101] (by simp)
    · exact compact_of_letters [116, 114, 117, 101] (by simp)
  | integer => exact compact_integer _
  | string _ s => exact compact_string s
  | array _ ih => exact compact_array ih
  | object _ _ ih => exact compact_object ih

end Courier.Json
