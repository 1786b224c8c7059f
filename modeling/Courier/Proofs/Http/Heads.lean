import Courier.Proofs.Http.Grammar

/-!
# Reading heads

Lines, fields and heads are read just as they are spelled.  Each is known to be over when its last
line is, so what has been read of an answer does not depend on what is still to come.
-/

namespace Courier.Http

variable {α : Type} {Spells : α → Bytes → Prop}
  {bytes line rest text : Bytes} {field : Field} {fields : List Field} {head : Head}
  {minor status room n : Nat} {b : UInt8}

/-! ## Texts with an end -/

/-- The texts of a kind mark their own end: where one starts another, both are the same. -/
def MarksEnd (Spells : α → Bytes → Prop) : Prop :=
  ∀ ⦃v w : α⦄ ⦃s t q r : Bytes⦄, Spells v s → Spells w t → s ++ q = t ++ r → v = w ∧ s = t

/-- What a reader takes off the front of the bytes marks its own end. -/
theorem marksEnd_of_read {read : Bytes → Option (α × Bytes)}
    (hread : ∀ {bytes value rest}, read bytes = some (value, rest) ↔
      ∃ text, Spells value text ∧ bytes = text ++ rest) : MarksEnd Spells := by
  intro v w s t q r hs ht heq
  have hleft : read (s ++ q) = some (v, q) := hread.mpr ⟨s, hs, rfl⟩
  have hright : read (s ++ q) = some (w, r) := hread.mpr ⟨t, ht, heq⟩
  rw [hleft, Option.some.injEq, Prod.mk.injEq] at hright
  obtain ⟨rfl, rfl⟩ := hright
  exact ⟨rfl, List.append_cancel_right heq⟩

/-- Where bytes of a kind end, the first other byte stands. -/
theorem span_append {p : UInt8 → Bool} (hline : ∀ b ∈ line, p b = true)
    (hrest : ∀ b ∈ rest.head?, p b = false) :
    (line ++ rest).takeWhile p = line ∧ (line ++ rest).dropWhile p = rest := by
  rw [List.takeWhile_append_of_pos hline, List.dropWhile_append_of_pos hline]
  cases rest with
  | nil => exact ⟨List.append_nil line, rfl⟩
  | cons b rest =>
    have hb : ¬ p b = true := by simp [hrest b rfl]
    exact ⟨by rw [List.takeWhile_cons_of_neg hb, List.append_nil], List.dropWhile_cons_of_neg hb⟩

/-! ## Lines -/

theorem cutLine_eq_some_iff :
    cutLine bytes = some (line, rest) ↔ 10 ∉ line ∧ bytes = line ++ 10 :: rest := by
  induction bytes generalizing line with
  | nil => simp [cutLine]
  | cons b bytes ih =>
    rw [cutLine]
    by_cases hb : b = 10
    · rw [if_pos hb, hb]
      cases line with
      | nil => simp [eq_comm]
      | cons c line =>
        simp only [Option.some.injEq, Prod.mk.injEq, List.cons_append, List.cons.injEq,
          List.mem_cons]
        grind
    · rw [if_neg hb]
      cases line with
      | nil => simp [hb]
      | cons c line =>
        simp only [Option.map_eq_some_iff, Prod.exists, Prod.mk.injEq, List.cons.injEq]
        grind

theorem readLine_eq_some_iff :
    readLine bytes = some (line, rest) ↔ ∃ text, LineSpells line text ∧ bytes = text ++ rest := by
  simp only [readLine, Option.map_eq_some_iff, Prod.exists, Prod.mk.injEq, cutLine_eq_some_iff]
  constructor
  · rintro ⟨raw, _, ⟨hfeed, rfl⟩, rfl, rfl⟩
    unfold chomp
    split
    · next hreturn =>
      obtain ⟨line, rfl⟩ := List.getLast?_eq_some_iff.mp hreturn
      rw [List.dropLast_concat]
      refine ⟨line ++ [13, 10], .both fun hmem ↦ hfeed (List.mem_append_left _ hmem), ?_⟩
      simp
    · next hreturn =>
      refine ⟨raw ++ [10], .feed hfeed hreturn, ?_⟩
      simp
  · rintro ⟨text, hline, rfl⟩
    cases hline with
    | feed hfeed hreturn =>
      refine ⟨line, rest, ⟨hfeed, by simp⟩, ?_, rfl⟩
      rw [chomp, if_neg hreturn]
    | both hfeed =>
      refine ⟨line ++ [13], rest, ⟨by simpa using hfeed, by simp⟩, ?_, rfl⟩
      rw [chomp, if_pos List.getLast?_concat, List.dropLast_concat]

theorem readLine_append (hline : LineSpells line text) (rest : Bytes) :
    readLine (text ++ rest) = some (line, rest) :=
  readLine_eq_some_iff.mpr ⟨text, hline, rfl⟩

theorem lineSpells_nil_iff : LineSpells [] text ↔ text = [10] ∨ text = [13, 10] := by
  constructor
  · intro hline
    generalize hnil : ([] : Bytes) = line at hline
    cases hline with
    | feed => subst hnil; exact .inl rfl
    | both => subst hnil; exact .inr rfl
  · rintro (rfl | rfl)
    · exact .feed List.not_mem_nil (by simp)
    · exact .both List.not_mem_nil

/-! ## Fields -/

theorem ne_colon_of_validName (hname : validName line = true) : ∀ b ∈ line, b ≠ 58 := by
  rintro _ hb rfl
  simp only [validName, Bool.and_eq_true, List.all_eq_true] at hname
  exact absurd (hname.2 58 hb) (by decide)

theorem readField_eq_some_iff : readField line = some field ↔ FieldSpells field line := by
  constructor
  · intro hread
    simp only [readField] at hread
    split at hread
    · contradiction
    · next c value hvalue =>
      split at hread
      · next hvalid =>
        rw [Bool.and_eq_true] at hvalid
        have hc : c = 58 := by
          have hhead := List.head?_dropWhile_not (fun b ↦ decide (b ≠ 58)) line
          rw [hvalue] at hhead
          simpa using hhead
        have hline := List.takeWhile_append_dropWhile (p := fun b ↦ decide (b ≠ 58)) (l := line)
        rw [hvalue, hc] at hline
        rw [← hline, ← Option.some.inj hread]
        exact .colon hvalid.1 hvalid.2
      · contradiction
  · rintro ⟨hname, hvalue⟩
    rename_i name value
    have hkept : ∀ b ∈ name, decide (b ≠ 58) = true := fun b hb ↦
      decide_eq_true (ne_colon_of_validName hname b hb)
    have hcolon : ∀ b ∈ (58 :: value).head?, decide (b ≠ 58) = false := by simp
    obtain ⟨htake, hdrop⟩ := span_append hkept hcolon
    rw [readField, htake, hdrop]
    dsimp only
    rw [hname, hvalue]
    rfl

theorem FieldSpells.ne_nil (hfield : FieldSpells field line) : line ≠ [] := by
  cases hfield
  simp

theorem readFields_eq_some_iff : readFields room bytes = some (fields, rest) ↔
    fields.length ≤ room ∧ ∃ text, FieldsSpell fields text ∧ bytes = text ++ rest := by
  constructor
  · intro hread
    induction room generalizing bytes fields with
    | zero =>
      rw [readFields] at hread
      split at hread
      · contradiction
      · next hline =>
        obtain ⟨rfl, rfl⟩ := Prod.mk.inj (Option.some.inj hread)
        obtain ⟨text, hend, rfl⟩ := readLine_eq_some_iff.mp hline
        exact ⟨Nat.le_refl 0, text, .nil hend, rfl⟩
      · contradiction
    | succ room ih =>
      rw [readFields] at hread
      split at hread
      · contradiction
      · next hline =>
        obtain ⟨rfl, rfl⟩ := Prod.mk.inj (Option.some.inj hread)
        obtain ⟨text, hend, rfl⟩ := readLine_eq_some_iff.mp hline
        exact ⟨Nat.zero_le _, text, .nil hend, rfl⟩
      · next hline =>
        simp only [Option.bind_eq_bind, Option.bind_eq_some_iff, Prod.exists, Option.some.injEq,
          Prod.mk.injEq] at hread
        obtain ⟨_, _, hfield, others, _, hothers, rfl, rfl⟩ := hread
        obtain ⟨first, hfirst, rfl⟩ := readLine_eq_some_iff.mp hline
        obtain ⟨hlength, text, htext, rfl⟩ := ih hothers
        refine ⟨Nat.succ_le_succ hlength, first ++ text,
          .cons (readField_eq_some_iff.mp hfield) hfirst htext, ?_⟩
        rw [List.append_assoc]
  · rintro ⟨hlength, text, htext, rfl⟩
    induction htext generalizing room with
    | nil hend =>
      rw [readFields, readLine_append hend]
    | cons hfield hfirst _ ih =>
      rw [List.append_assoc, readFields, readLine_append hfirst]
      split
      · contradiction
      · next hnil =>
        obtain ⟨hempty, -⟩ := Prod.mk.inj (Option.some.inj hnil)
        exact absurd hempty hfield.ne_nil
      · next heq =>
        obtain ⟨rfl, rfl⟩ := Prod.mk.inj (Option.some.inj heq)
        cases room with
        | zero => exact absurd hlength (Nat.not_succ_le_zero _)
        | succ room =>
          dsimp only
          rw [readField_eq_some_iff.mpr hfield, ih (Nat.le_of_succ_le_succ hlength)]
          rfl

/-! ## Status lines -/

namespace Head

theorem eq_decimal_iff (hn : n < 10) : b = decimal n ↔ b.toNat = 48 + n := by
  rw [← UInt8.toNat_inj, decimal, UInt8.toNat_ofNat', Nat.mod_eq_of_lt (by omega)]

theorem digitOf?_eq_some_iff : digitOf? b = some n ↔ n < 10 ∧ b = decimal n := by
  rw [digitOf?, Option.ite_none_right_eq_some, Option.some.injEq, UInt8.le_iff_toNat_le,
    UInt8.le_iff_toNat_le]
  change (48 ≤ b.toNat ∧ b.toNat ≤ 57) ∧ _ ↔ _
  constructor
  · rintro ⟨hdigit, rfl⟩
    have hn : b.toNat - 48 < 10 := by omega
    exact ⟨hn, (eq_decimal_iff hn).mpr (by omega)⟩
  · rintro ⟨hn, hb⟩
    have hb := (eq_decimal_iff hn).mp hb
    omega

theorem readStatus_eq_some_iff {a b c : UInt8} : readStatus a b c = some status ↔
    100 ≤ status ∧ status < 1000 ∧ a = decimal (status / 100) ∧ b = decimal (status / 10 % 10) ∧
      c = decimal (status % 10) := by
  simp only [readStatus, Option.bind_eq_bind, Option.bind_eq_some_iff, digitOf?_eq_some_iff]
  constructor
  · rintro ⟨hundreds, ⟨hh, rfl⟩, tens, ⟨ht, rfl⟩, ones, ⟨ho, rfl⟩, hstatus⟩
    split at hstatus
    · contradiction
    · have hstatus := (Option.some.inj hstatus).symm
      have hfirst : status / 100 = hundreds := by omega
      have hsecond : status / 10 % 10 = tens := by omega
      have hthird : status % 10 = ones := by omega
      rw [hfirst, hsecond, hthird]
      exact ⟨by omega, by omega, rfl, rfl, rfl⟩
  · rintro ⟨hlow, hhigh, ha, hb, hc⟩
    refine ⟨status / 100, ⟨by omega, ha⟩, status / 10 % 10, ⟨by omega, hb⟩, status % 10,
      ⟨by omega, hc⟩, ?_⟩
    rw [if_neg (by omega)]
    congr 1
    omega

theorem exists_of_readStatusLine (hread : readStatusLine line = some (minor, status)) :
    ∃ m ≤ 1, ∃ a b c rest, line =
      72 :: 84 :: 84 :: 80 :: 47 :: 49 :: 46 :: decimal m :: 32 :: a :: b :: c :: rest := by
  unfold readStatusLine at hread
  split at hread
  · next v a b c rest =>
    by_cases hzero : v = 48
    · exact ⟨0, Nat.zero_le 1, a, b, c, rest, by rw [hzero]; rfl⟩
    · by_cases hone : v = 49
      · exact ⟨1, Nat.le_refl 1, a, b, c, rest, by rw [hone]; rfl⟩
      · rw [if_neg hzero, if_neg hone] at hread
        contradiction
  · contradiction

/-- The version is as good as read; the status and the reason remain. -/
theorem readStatusLine_version {m : Nat} (hm : m ≤ 1) (a b c : UInt8) (rest : Bytes) :
    readStatusLine (72 :: 84 :: 84 :: 80 :: 47 :: 49 :: 46 :: decimal m :: 32 :: a :: b :: c ::
      rest) = some (minor, status) ↔ m = minor ∧ readStatus a b c = some status ∧
        (rest = [] ∨ ∃ reason, rest = 32 :: reason ∧ reason.all isValueByte = true) := by
  have hzero : decimal 0 = 48 := rfl
  have hone : decimal 1 = 49 := rfl
  have hne : ¬ (49 : UInt8) = 48 := by decide
  rcases Nat.le_one_iff_eq_zero_or_eq_one.mp hm with rfl | rfl
  all_goals
    simp only [readStatusLine, hzero, hone, hne, if_true, if_false, Option.bind_eq_bind,
      Option.bind_some, Option.bind_eq_some_iff]
    constructor
    · rintro ⟨s, hs, hreason⟩
      split at hreason
      · obtain ⟨rfl, rfl⟩ := Prod.mk.inj (Option.some.inj hreason)
        exact ⟨rfl, hs, .inl rfl⟩
      · rw [Option.ite_none_right_eq_some, Option.some.injEq, Prod.mk.injEq] at hreason
        obtain ⟨hreason, rfl, rfl⟩ := hreason
        exact ⟨rfl, hs, .inr ⟨_, rfl, hreason⟩⟩
      · contradiction
    · rintro ⟨rfl, hs, rfl | ⟨reason, rfl, hreason⟩⟩
      · exact ⟨status, hs, rfl⟩
      · exact ⟨status, hs, if_pos hreason⟩

theorem readStatusLine_eq_some_iff :
    readStatusLine line = some (minor, status) ↔ StatusSpells minor status line := by
  constructor
  · intro hread
    obtain ⟨m, hm, a, b, c, rest, rfl⟩ := exists_of_readStatusLine hread
    obtain ⟨rfl, hstatus, hreason⟩ := (readStatusLine_version hm a b c rest).mp hread
    obtain ⟨hlow, hhigh, rfl, rfl, rfl⟩ := readStatus_eq_some_iff.mp hstatus
    rcases hreason with rfl | ⟨reason, rfl, hreason⟩
    · exact .plain hm hlow hhigh
    · exact .reason hm hlow hhigh hreason
  · intro hstatus
    cases hstatus with
    | plain hm hlow hhigh =>
      have hs := readStatus_eq_some_iff.mpr ⟨hlow, hhigh, rfl, rfl, rfl⟩
      exact (readStatusLine_version hm _ _ _ _).mpr ⟨rfl, hs, .inl rfl⟩
    | reason hm hlow hhigh hreason =>
      have hs := readStatus_eq_some_iff.mpr ⟨hlow, hhigh, rfl, rfl, rfl⟩
      exact (readStatusLine_version hm _ _ _ _).mpr ⟨rfl, hs, .inr ⟨_, rfl, hreason⟩⟩

/-! ## Heads -/

/-- Empty lines at the start do not count. -/
theorem read_blank {first : Bytes} (hblank : LineSpells [] first) (rest : Bytes) :
    read (first ++ rest) = read rest := by
  have hskip : skipEmpty (first ++ rest) = skipEmpty rest := by
    rcases lineSpells_nil_iff.mp hblank with rfl | rfl
    · exact skipEmpty.eq_2 rest
    · exact skipEmpty.eq_1 rest
  simp only [read, hskip]

theorem read_of_skipEmpty (hskip : skipEmpty bytes = bytes)
    (hread : read bytes = some (head, rest)) :
    ∃ text, HeadSpells head text ∧ bytes = text ++ rest := by
  simp only [read, hskip, Option.bind_eq_bind, Option.bind_eq_some_iff, Prod.exists,
    Option.some.injEq, Prod.mk.injEq] at hread
  obtain ⟨line, _, hline, minor, status, hstatus, fields, _, hfields, rfl, rfl⟩ := hread
  obtain ⟨first, hfirst, rfl⟩ := readLine_eq_some_iff.mp hline
  obtain ⟨hroom, text, htext, rfl⟩ := readFields_eq_some_iff.mp hfields
  refine ⟨first ++ text, .lines (readStatusLine_eq_some_iff.mp hstatus) hfirst htext hroom, ?_⟩
  rw [List.append_assoc]

/-- A status line does not start like the end of a line. -/
theorem skipEmpty_status {first : Bytes} (hstatus : StatusSpells minor status line)
    (hline : LineSpells line first) (rest : Bytes) :
    skipEmpty (first ++ rest) = first ++ rest := by
  obtain ⟨more, rfl⟩ : ∃ more, line = 72 :: more := by
    cases hstatus with
    | plain => exact ⟨_, rfl⟩
    | reason => exact ⟨_, rfl⟩
  obtain ⟨more, rfl⟩ : ∃ more, first = 72 :: more := by
    cases hline with
    | feed => exact ⟨_, rfl⟩
    | both => exact ⟨_, rfl⟩
  rfl

theorem read_eq_some_iff :
    read bytes = some (head, rest) ↔ ∃ text, HeadSpells head text ∧ bytes = text ++ rest := by
  constructor
  · intro hread
    fun_induction skipEmpty bytes with
    | case1 bytes ih =>
      have hblank : LineSpells [] [13, 10] := .both List.not_mem_nil
      rw [← read_blank hblank bytes] at ih
      obtain ⟨text, htext, rfl⟩ := ih hread
      exact ⟨[13, 10] ++ text, .blank hblank htext, rfl⟩
    | case2 bytes ih =>
      have hblank : LineSpells [] [10] := .feed List.not_mem_nil (by simp)
      rw [← read_blank hblank bytes] at ih
      obtain ⟨text, htext, rfl⟩ := ih hread
      exact ⟨[10] ++ text, .blank hblank htext, rfl⟩
    | case3 bytes hnot hnot' => exact read_of_skipEmpty (skipEmpty.eq_3 bytes hnot hnot') hread
  · rintro ⟨text, hhead, rfl⟩
    induction hhead with
    | blank hblank _ ih => rw [List.append_assoc, read_blank hblank, ih]
    | lines hstatus hline hfields hroom =>
      rw [List.append_assoc, read, skipEmpty_status hstatus hline, readLine_append hline]
      dsimp only [Option.bind_eq_bind, Option.bind_some]
      rw [readStatusLine_eq_some_iff.mpr hstatus]
      dsimp only [Option.bind_some]
      rw [readFields_eq_some_iff.mpr ⟨hroom, _, hfields, rfl⟩]
      rfl

/-! ## Final heads -/

theorem final_of_read (hread : read bytes = some (head, rest)) :
    final bytes = if head.isInterim then final rest else some (head, rest) := by
  rw [final]
  split
  · next hnone => rw [hread] at hnone; contradiction
  · next heq =>
    obtain ⟨rfl, rfl⟩ := Prod.mk.inj (Option.some.inj (hread.symm.trans heq))
    rfl

theorem final_eq_some_iff :
    final bytes = some (head, rest) ↔ ∃ text, FinalSpells head text ∧ bytes = text ++ rest := by
  constructor
  · intro hfinal
    fun_induction final bytes with
    | case1 => contradiction
    | case2 bytes other more hread hinterim ih =>
      obtain ⟨first, hother, rfl⟩ := read_eq_some_iff.mp hread
      obtain ⟨text, htext, rfl⟩ := ih hfinal
      refine ⟨first ++ text, .interim hother hinterim htext, ?_⟩
      rw [List.append_assoc]
    | case3 bytes other more hread hinterim =>
      obtain ⟨rfl, rfl⟩ := Prod.mk.inj (Option.some.inj hfinal)
      obtain ⟨text, hhead, rfl⟩ := read_eq_some_iff.mp hread
      exact ⟨text, .last hhead (Bool.eq_false_iff.mpr hinterim), rfl⟩
  · rintro ⟨text, hhead, rfl⟩
    induction hhead with
    | last hhead hlast =>
      rw [final_of_read (read_eq_some_iff.mpr ⟨_, hhead, rfl⟩), hlast]
      rfl
    | interim hother hinterim _ ih =>
      rw [List.append_assoc, final_of_read (read_eq_some_iff.mpr ⟨_, hother, rfl⟩), if_pos hinterim,
        ih]

theorem finalSpells_marksEnd : MarksEnd FinalSpells :=
  marksEnd_of_read fun {_ _ _} ↦ final_eq_some_iff

end Head

end Courier.Http
