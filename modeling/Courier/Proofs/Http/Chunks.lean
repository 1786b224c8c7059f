import Courier.Proofs.Http.Heads
import Courier.Proofs.Json.Pieces
import Courier.Proofs.Json.Strings
import Mathlib.Data.List.TakeWhile

/-!
# Reading chunks

A chunked body is read just as it is spelled.  It is known to be over when the empty line after its
trailer is, so that no chunked body starts another.
-/

namespace Courier.Http.Chunk

variable {bytes line rest text body : Bytes} {size length spent room count value : Nat} {b : UInt8}

/-! ## Lines -/

theorem cutStrict_eq_some_iff : cutStrict bytes = some (line, rest) ↔
    ∃ text, StrictSpells line text ∧ bytes = text ++ rest := by
  constructor
  · intro hcut
    fun_induction cutStrict bytes generalizing line with
    | case1 tail =>
      obtain ⟨rfl, rfl⟩ := Prod.mk.inj (Option.some.inj hcut)
      exact ⟨[13, 10], .both List.not_mem_nil, rfl⟩
    | case2 => contradiction
    | case3 b tail _ hreturn ih =>
      simp only [Option.map_eq_some_iff, Prod.exists, Prod.mk.injEq] at hcut
      obtain ⟨line, _, htail, rfl, rfl⟩ := hcut
      obtain ⟨text, hline, rfl⟩ := ih htail
      obtain ⟨hline⟩ := hline
      refine ⟨b :: line ++ [13, 10], .both fun hmem ↦ ?_, rfl⟩
      rcases List.mem_cons.mp hmem with rfl | hmem
      · exact hreturn rfl
      · exact hline hmem
    | case4 => contradiction
  · rintro ⟨_, ⟨hreturn⟩, rfl⟩
    induction line with
    | nil => rfl
    | cons b line ih =>
      have hb : b ≠ 13 := fun hb ↦ hreturn (hb ▸ List.mem_cons_self)
      have hline := ih fun hmem ↦ hreturn (List.mem_cons_of_mem b hmem)
      rw [List.cons_append, List.cons_append, cutStrict, hline]
      · rfl
      · rintro _ rfl
        exact absurd rfl hb
      · rintro rfl
        exact absurd rfl hb

theorem strictSpells_marksEnd : MarksEnd StrictSpells :=
  marksEnd_of_read fun {_ _ _} ↦ cutStrict_eq_some_iff

theorem cutStrict_append (hline : StrictSpells line text) (rest : Bytes) :
    cutStrict (text ++ rest) = some (line, rest) :=
  cutStrict_eq_some_iff.mpr ⟨text, hline, rfl⟩

/-! ## Sizes -/

theorem digit?_eq_some_iff : digit? b = some value ↔ value < 16 ∧ b ∈ Json.hexForms value :=
  ⟨Json.mem_hexForms_of_hexValue, fun ⟨hvalue, hb⟩ ↦ Json.hexValue_of_mem value hvalue b hb⟩

/-- The number that digits stand for after the number before them. -/
def digitsFrom (n : Nat) (digits : Bytes) : Option Nat :=
  digits.foldlM (fun n b ↦ (digit? b).map (n * 16 + ·)) n

theorem digitsFrom_append (digits : Bytes) (b : UInt8) :
    digitsFrom 0 (digits ++ [b]) =
      (digitsFrom 0 digits).bind fun n ↦ (digit? b).map (n * 16 + ·) := by
  simp [digitsFrom]

theorem digitsFrom_of_spells {digits : Bytes} (hsize : SizeSpells size digits) :
    digitsFrom 0 digits = some size := by
  induction hsize with
  | one hvalue hb =>
    rw [← List.nil_append [_], digitsFrom_append, digit?_eq_some_iff.mpr ⟨hvalue, hb⟩]
    simp [digitsFrom]
  | more _ hvalue hb ih =>
    rw [digitsFrom_append, ih, digit?_eq_some_iff.mpr ⟨hvalue, hb⟩]
    rfl

theorem spells_of_digitsFrom {digits : Bytes} (hne : digits ≠ [])
    (hdigits : digitsFrom 0 digits = some size) : SizeSpells size digits := by
  induction digits using List.reverseRecOn generalizing size with
  | nil => contradiction
  | append_singleton digits b ih =>
    rw [digitsFrom_append] at hdigits
    obtain ⟨n, hn, hb⟩ := Option.bind_eq_some_iff.mp hdigits
    obtain ⟨value, hvalue, rfl⟩ := Option.map_eq_some_iff.mp hb
    obtain ⟨hvalue, hmem⟩ := digit?_eq_some_iff.mp hvalue
    by_cases hnil : digits = []
    · subst hnil
      obtain rfl : 0 = n := Option.some.inj hn
      simpa using SizeSpells.one hvalue hmem
    · exact .more (ih hnil hn) hvalue hmem

theorem SizeSpells.ne_nil {digits : Bytes} (hsize : SizeSpells size digits) : digits ≠ [] := by
  cases hsize <;> simp

theorem readSize_eq_some_iff {digits : Bytes} :
    readSize digits = some size ↔ SizeSpells size digits ∧ size ≤ Numeral.greatest 64 := by
  have hread : readSize digits = if digits = [] then none else
      (digitsFrom 0 digits).bind fun n ↦ if n ≤ Numeral.greatest 64 then some n else none := by
    simp only [readSize, List.isEmpty_iff]
    rfl
  rw [hread]
  constructor
  · intro hsize
    split at hsize
    · contradiction
    · next hne =>
      obtain ⟨n, hn, hlimit⟩ := Option.bind_eq_some_iff.mp hsize
      rw [Option.ite_none_right_eq_some, Option.some.injEq] at hlimit
      obtain ⟨hlimit, rfl⟩ := hlimit
      exact ⟨spells_of_digitsFrom hne hn, hlimit⟩
  · rintro ⟨hsize, hlimit⟩
    rw [if_neg (SizeSpells.ne_nil hsize), digitsFrom_of_spells hsize, Option.bind_some,
      if_pos hlimit]

theorem isSome_digit?_of_spells {digits : Bytes} (hsize : SizeSpells size digits) :
    ∀ b ∈ digits, (digit? b).isSome = true := by
  induction hsize with
  | one hvalue hb =>
    simp [digit?_eq_some_iff.mpr ⟨hvalue, hb⟩]
  | more _ hvalue hb ih =>
    intro c hc
    rcases List.mem_append.mp hc with hc | hc
    · exact ih c hc
    · rw [List.mem_singleton.mp hc, digit?_eq_some_iff.mpr ⟨hvalue, hb⟩]
      rfl

theorem readSizeLine_eq_some_iff :
    readSizeLine line = some (size, length) ↔ SizeLineSpells size length line := by
  constructor
  · intro hread
    simp only [readSizeLine, Option.bind_eq_bind, Option.bind_eq_some_iff] at hread
    obtain ⟨n, hn, hextension⟩ := hread
    obtain ⟨hdigits, hlimit⟩ := readSize_eq_some_iff.mp hn
    have hline := List.takeWhile_append_dropWhile (p := fun b ↦ (digit? b).isSome) (l := line)
    have hafter := List.takeWhile_append_dropWhile (p := isBlankByte)
      (l := line.dropWhile fun b ↦ (digit? b).isSome)
    rw [← hline, ← hafter]
    have hblanks : ∀ b ∈ (line.dropWhile fun b ↦ (digit? b).isSome).takeWhile isBlankByte,
        isBlankByte b = true := fun b hb ↦ List.mem_takeWhile_imp hb
    split at hextension
    · next hnil =>
      obtain ⟨rfl, rfl⟩ := Prod.mk.inj (Option.some.inj hextension)
      rw [hnil]
      exact .line hdigits hlimit hblanks .none
    · next extension htext =>
      rw [Option.ite_none_left_eq_some, Option.some.injEq, Prod.mk.injEq] at hextension
      obtain ⟨hfeed, rfl, rfl⟩ := hextension
      rw [htext]
      exact .line hdigits hlimit hblanks (.semicolon (by simpa using hfeed))
    · contradiction
  · rintro ⟨hsize, hlimit, hblanks, hextension⟩
    rename_i digits blanks extension
    have hend : ∀ b ∈ extension.head?, isBlankByte b = false ∧ (digit? b).isSome = false := by
      cases hextension with
      | none => simp
      | semicolon => simp; decide
    have hstop : ∀ b ∈ (blanks ++ extension).head?, (digit? b).isSome = false := by
      cases blanks with
      | nil => exact fun b hb ↦ (hend b hb).2
      | cons c blanks =>
        rintro b hb
        obtain rfl : c = b := by simpa using hb
        have hc := hblanks c List.mem_cons_self
        simp only [isBlankByte, Bool.or_eq_true, beq_iff_eq] at hc
        rcases hc with rfl | rfl <;> decide
    obtain ⟨htake, hdrop⟩ := span_append (isSome_digit?_of_spells hsize) hstop
    obtain ⟨-, hdropBlanks⟩ := span_append hblanks fun b hb ↦ (hend b hb).1
    rw [readSizeLine, htake, hdrop, hdropBlanks, readSize_eq_some_iff.mpr ⟨hsize, hlimit⟩]
    cases hextension with
    | none => rfl
    | semicolon hfeed => simp [hfeed]

/-! ## Trailers -/

theorem cutTrailer_eq_some_iff : cutTrailer room bytes = some (count, rest) ↔
    count ≤ room ∧ ∃ text, StrictLines count text ∧ bytes = text ++ rest := by
  constructor
  · intro hcut
    induction room generalizing bytes count with
    | zero =>
      rw [cutTrailer] at hcut
      split at hcut
      · contradiction
      · next hline =>
        obtain ⟨rfl, rfl⟩ := Prod.mk.inj (Option.some.inj hcut)
        obtain ⟨text, hend, rfl⟩ := cutStrict_eq_some_iff.mp hline
        exact ⟨Nat.le_refl 0, text, .nil hend, rfl⟩
      · contradiction
    | succ room ih =>
      rw [cutTrailer] at hcut
      split at hcut
      · contradiction
      · next hline =>
        obtain ⟨rfl, rfl⟩ := Prod.mk.inj (Option.some.inj hcut)
        obtain ⟨text, hend, rfl⟩ := cutStrict_eq_some_iff.mp hline
        exact ⟨Nat.zero_le _, text, .nil hend, rfl⟩
      · next hne hline =>
        obtain ⟨⟨lines, more⟩, hlines, heq⟩ := Option.map_eq_some_iff.mp hcut
        obtain ⟨rfl, rfl⟩ := Prod.mk.inj heq
        obtain ⟨first, hfirst, rfl⟩ := cutStrict_eq_some_iff.mp hline
        obtain ⟨hcount, text, htext, rfl⟩ := ih hlines
        refine ⟨Nat.succ_le_succ hcount, first ++ text, .cons hfirst hne htext, ?_⟩
        rw [List.append_assoc]
  · rintro ⟨hcount, text, htext, rfl⟩
    induction htext generalizing room with
    | nil hend => rw [cutTrailer, cutStrict_append hend]
    | cons hline hne _ ih =>
      rw [List.append_assoc, cutTrailer, cutStrict_append hline]
      split
      · contradiction
      · next hnil =>
        obtain ⟨hempty, -⟩ := Prod.mk.inj (Option.some.inj hnil)
        exact absurd hempty hne
      · next heq =>
        obtain ⟨rfl, rfl⟩ := Prod.mk.inj (Option.some.inj heq)
        cases room with
        | zero => exact absurd hcount (Nat.not_succ_le_zero _)
        | succ room =>
          dsimp only
          rw [ih (Nat.le_of_succ_le_succ hcount)]
          rfl

theorem strictLines_marksEnd : MarksEnd StrictLines := by
  intro v w s t q r hs ht heq
  have hleft : cutTrailer (max v w) (s ++ q) = some (v, q) :=
    cutTrailer_eq_some_iff.mpr ⟨Nat.le_max_left v w, s, hs, rfl⟩
  have hright : cutTrailer (max v w) (s ++ q) = some (w, r) :=
    cutTrailer_eq_some_iff.mpr ⟨Nat.le_max_right v w, t, ht, heq⟩
  obtain ⟨rfl, rfl⟩ := Prod.mk.inj (Option.some.inj (hleft.symm.trans hright))
  exact ⟨rfl, List.append_cancel_right heq⟩

theorem endsWell_iff :
    endsWell bytes = true ↔ ∃ text rest, TrailerSpells text ∧ bytes = text ++ rest := by
  constructor
  · intro hends
    unfold endsWell at hends
    split at hends
    · contradiction
    · next count rest hcut =>
      obtain ⟨hcount, text, hlines, rfl⟩ := cutTrailer_eq_some_iff.mp hcut
      rw [List.length_append, Nat.add_sub_cancel, List.take_left, Bool.and_eq_true,
        decide_eq_true_eq, Option.isSome_iff_exists] at hends
      obtain ⟨hlimit, ⟨fields, more⟩, hfields⟩ := hends
      obtain ⟨hroom, first, hfirst, rfl⟩ := readFields_eq_some_iff.mp hfields
      exact ⟨first ++ more, rest, .lines hlines (Nat.lt_of_le_pred (by decide) hcount) hlimit hfirst
        hroom, rfl⟩
  · rintro ⟨text, rest, htrailer, rfl⟩
    cases htrailer with
    | @lines count fields first more hlines hcount hlimit hfields hroom =>
      have hcut : cutTrailer (mostFields - 1) (first ++ more ++ rest) = some (count, rest) :=
        cutTrailer_eq_some_iff.mpr ⟨Nat.le_pred_of_lt hcount, _, hlines, rfl⟩
      have hread : readFields count (first ++ more) = some (fields, more) :=
        readFields_eq_some_iff.mpr ⟨hroom, first, hfields, rfl⟩
      unfold endsWell
      rw [hcut]
      dsimp only
      rw [List.length_append, Nat.add_sub_cancel, List.take_left, hread, decide_eq_true hlimit]
      rfl

/-! ## Bodies -/

theorem of_readData {data : Bytes} (hread : readData size bytes = some (data, rest)) :
    data.length = size ∧ bytes = data ++ 13 :: 10 :: rest := by
  simp only [readData] at hread
  split at hread
  · contradiction
  · next hlength =>
    split at hread
    · next hdrop =>
      obtain ⟨rfl, rfl⟩ := Prod.mk.inj (Option.some.inj hread)
      rw [← hdrop, List.take_append_drop]
      exact ⟨List.length_take_of_le (Nat.le_of_not_lt hlength), rfl⟩
    · contradiction

theorem readData_append (data rest : Bytes) :
    readData data.length (data ++ 13 :: 10 :: rest) = some (data, rest) := by
  have hlength : ¬ (data ++ 13 :: 10 :: rest).length < data.length := by
    rw [List.length_append]
    omega
  rw [readData, if_neg hlength, List.drop_left, List.take_left]
  rfl

/-- What a line with a size leads to. -/
theorem read_line (hline : StrictSpells line text) (hsize : SizeLineSpells size length line)
    (hspent : spent + length < extensionLimit) (rest : Bytes) :
    read spent (text ++ rest) =
      if size = 0 then if endsWell rest then some [] else none
      else (readData size rest).bind fun found ↦
        (read (spent + length) found.2).map (found.1 ++ ·) := by
  rw [read]
  split
  · next hcut => rw [cutStrict_append hline] at hcut; contradiction
  · next heq =>
    have hsame := (cutStrict_append hline rest).symm.trans heq
    obtain ⟨rfl, rfl⟩ := Prod.mk.inj (Option.some.inj hsame)
    rw [readSizeLine_eq_some_iff.mpr hsize]
    dsimp only
    rw [if_neg (Nat.not_le.mpr hspent)]
    split
    · rfl
    · split
      · next hdata => rw [hdata]; rfl
      · next hdata => rw [hdata]; rfl

theorem read_eq_some_iff : read spent bytes = some body ↔
    ∃ text rest, ChunksSpell spent body text ∧ bytes = text ++ rest := by
  constructor
  · intro hread
    fun_induction read spent bytes generalizing body with
    | case1 => contradiction
    | case2 => contradiction
    | case3 => contradiction
    | case4 spent bytes line rest hcut length hspent hends hsize =>
      obtain rfl := Option.some.inj hread
      obtain ⟨first, hfirst, rfl⟩ := cutStrict_eq_some_iff.mp hcut
      obtain ⟨text, more, htrailer, rfl⟩ := endsWell_iff.mp hends
      refine ⟨first ++ text, more, .last hfirst (readSizeLine_eq_some_iff.mp hsize)
        (Nat.not_le.mp hspent) htrailer, ?_⟩
      rw [List.append_assoc]
    | case5 => contradiction
    | case6 => contradiction
    | case7 spent bytes line rest hcut size length hsize hspent hne data more hdata ih =>
      obtain ⟨body, hbody, rfl⟩ := Option.map_eq_some_iff.mp hread
      obtain ⟨first, hfirst, rfl⟩ := cutStrict_eq_some_iff.mp hcut
      obtain ⟨rfl, rfl⟩ := of_readData hdata
      obtain ⟨text, surplus, hchunks, rfl⟩ := ih hbody
      refine ⟨first ++ (data ++ 13 :: 10 :: text), surplus,
        .chunk hfirst (readSizeLine_eq_some_iff.mp hsize) (Nat.not_le.mp hspent)
          (fun hnil ↦ hne (List.length_eq_zero_iff.mpr hnil)) hchunks, ?_⟩
      simp
  · rintro ⟨text, rest, hchunks, rfl⟩
    induction hchunks with
    | last hline hsize hspent htrailer =>
      rw [List.append_assoc, read_line hline hsize hspent, if_pos rfl,
        if_pos (endsWell_iff.mpr ⟨_, _, htrailer, rfl⟩)]
    | chunk hline hsize hspent hdata _ ih =>
      rw [List.append_assoc, read_line hline hsize hspent, if_neg (by simpa using hdata),
        List.append_assoc, List.cons_append, List.cons_append, readData_append, Option.bind_some]
      dsimp only
      rw [ih, Option.map_some]

/-- No chunked body starts another. -/
theorem chunksSpell_marksEnd (spent : Nat) : MarksEnd (ChunksSpell spent) := by
  intro v w s t q r hs ht heq
  have hsizes {size length size' length' : Nat} {line : Bytes}
      (hsize : SizeLineSpells size length line) (hother : SizeLineSpells size' length' line) :
      size = size' ∧ length = length' := by
    have hsame := readSizeLine_eq_some_iff.mpr hsize
    rw [readSizeLine_eq_some_iff.mpr hother] at hsame
    obtain ⟨hsize, hlength⟩ := Prod.mk.inj (Option.some.inj hsame)
    exact ⟨hsize.symm, hlength.symm⟩
  induction hs generalizing w t with
  | last hline hsize _ htrailer =>
    cases ht with
    | last hline' hsize' _ htrailer' =>
      simp only [List.append_assoc] at heq
      obtain ⟨rfl, rfl⟩ := strictSpells_marksEnd hline hline' heq
      obtain ⟨hlines⟩ := htrailer
      obtain ⟨hlines'⟩ := htrailer'
      have hsame := strictLines_marksEnd hlines hlines' (List.append_cancel_left heq)
      exact ⟨rfl, by rw [hsame.2]⟩
    | chunk hline' hsize' _ hdata _ =>
      simp only [List.append_assoc] at heq
      obtain ⟨rfl, rfl⟩ := strictSpells_marksEnd hline hline' heq
      exact absurd (List.length_eq_zero_iff.mp (hsizes hsize hsize').1.symm) hdata
  | chunk hline hsize _ hdata _ ih =>
    cases ht with
    | last hline' hsize' _ _ =>
      simp only [List.append_assoc] at heq
      obtain ⟨rfl, rfl⟩ := strictSpells_marksEnd hline hline' heq
      exact absurd (List.length_eq_zero_iff.mp (hsizes hsize hsize').1) hdata
    | chunk hline' hsize' _ hdata' hrest' =>
      simp only [List.append_assoc] at heq
      obtain ⟨rfl, rfl⟩ := strictSpells_marksEnd hline hline' heq
      obtain ⟨hlength, rfl⟩ := hsizes hsize hsize'
      obtain ⟨rfl, hmore⟩ := List.append_inj (List.append_cancel_left heq) hlength
      simp only [List.cons_append, List.cons.injEq, true_and] at hmore
      obtain ⟨rfl, rfl⟩ := ih hrest' hmore
      exact ⟨rfl, rfl⟩

end Courier.Http.Chunk
