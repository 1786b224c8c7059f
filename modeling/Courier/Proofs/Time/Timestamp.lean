import Courier.Proofs.Text.Trimmed
import Courier.Proofs.Time.Calendar
import Courier.Time.Timestamp.Reader

/-!
# Reading written timestamps

The text of a timestamp is read back as this timestamp, leap seconds and years of more than four
digits included.
-/

namespace Courier.Timestamp

namespace Reader

open Numeral

variable {width n count : Nat} {cs rest : List Char} {c : Char}

/-! ## Numbers -/

/-- No digit follows. -/
def NoDigit (rest : List Char) : Prop := ∀ c ∈ rest.head?, c.isDigit = false

theorem noDigit_cons (hc : c.isDigit = false) (rest : List Char) : NoDigit (c :: rest) := by
  intro c' hc'
  cases hc'
  exact hc

theorem digits_append {soFar : Nat} (hdigits : ∀ c ∈ cs, c.isDigit = true)
    (hfits : Nat.ofDigitChars 10 cs soFar ≤ greatest 63)
    (hwidth : cs.length = width ∨ cs.length ≤ width ∧ NoDigit rest) :
    digits width soFar (cs ++ rest) = .ok (Nat.ofDigitChars 10 cs soFar, rest) := by
  induction cs generalizing width soFar with
  | nil =>
    cases width with
    | zero => rfl
    | succ width =>
      have hrest : NoDigit rest := by simpa using hwidth
      cases rest with
      | nil => rfl
      | cons c rest =>
        have hc : c.isDigit = false := hrest c rfl
        rw [List.nil_append, digits, hc]
        rfl
  | cons c cs ih =>
    have hc : c.isDigit = true := hdigits c List.mem_cons_self
    rw [Nat.ofDigitChars_cons, Nat.mul_comm] at hfits ⊢
    have hless : soFar * 10 + (c.toNat - 48) ≤ greatest 63 := (le_ofDigitChars cs _).trans hfits
    obtain ⟨width, rfl⟩ : ∃ more, width = more + 1 := Nat.exists_eq_add_of_le' (by
      rw [List.length_cons] at hwidth
      omega)
    rw [List.cons_append, digits, if_pos hc]
    dsimp only
    rw [if_pos hless]
    apply ih (fun c hc ↦ hdigits c (List.mem_cons_of_mem _ hc)) hfits
    simpa using hwidth

theorem number_append (hne : cs ≠ []) (hdigits : ∀ c ∈ cs, c.isDigit = true)
    (hfits : Nat.ofDigitChars 10 cs 0 ≤ greatest 63)
    (hwidth : cs.length = width ∨ cs.length ≤ width ∧ NoDigit rest) :
    number width (cs ++ rest) = .ok (Nat.ofDigitChars 10 cs 0, rest) := by
  obtain ⟨c, cs, rfl⟩ := List.exists_cons_of_ne_nil hne
  have hc : c.isDigit = true := hdigits c List.mem_cons_self
  rw [List.cons_append, number, if_pos hc, ← List.cons_append]
  exact digits_append hdigits hfits hwidth

/-- A padded number is read in its width, or in more if no digit follows. -/
theorem number_padded (hcount : 0 < count) (hn : n < 10 ^ count) (hfits : n ≤ greatest 63)
    (hwidth : count = width ∨ count ≤ width ∧ NoDigit rest) :
    number width (padded count n ++ rest) = .ok (n, rest) := by
  have hlength := length_padded hcount hn
  have hread := @number_append width (padded count n) rest (padded_ne_nil count n)
    (fun c hc ↦ isDigit_of_mem_padded hc)
    (ofDigitChars_padded.trans_le hfits) (by rwa [hlength])
  rwa [ofDigitChars_padded] at hread

/-- A number of any length. -/
theorem number_unbounded (count : Nat) (hfits : n ≤ greatest 63) (hrest : NoDigit rest) :
    number (padded count n ++ rest).length (padded count n ++ rest) = .ok (n, rest) := by
  have hlength : (padded count n).length ≤ (padded count n ++ rest).length := by
    rw [List.length_append]
    exact Nat.le_add_right _ _
  have hread := number_append (padded_ne_nil count n) (fun c hc ↦ isDigit_of_mem_padded hc)
    (ofDigitChars_padded.trans_le hfits) (.inr ⟨hlength, hrest⟩)
  rwa [ofDigitChars_padded] at hread

theorem trimStart_padded (n : Nat) (rest : List Char) :
    Text.trimStart (padded count n ++ rest) = padded count n ++ rest := by
  obtain ⟨c, cs, hpadded, hc⟩ := exists_padded_eq_cons count n
  rw [hpadded, List.cons_append]
  exact Text.trimStart_cons (Text.isBlank_of_isDigit hc) _

/-! ## Fields -/

theorem field_padded {least most : Nat} (hn : n < 100) (hleast : least ≤ n) (hmost : n ≤ most)
    (rest : List Char) : field 2 least most (padded 2 n ++ rest) = .ok (n, rest) := by
  have hfits : 100 ≤ greatest 63 := by decide
  rw [field, trimStart_padded, number_padded (by decide) hn (by omega) (.inl rfl)]
  exact if_pos ⟨hleast, hmost⟩

theorem mark_cons (hc : Text.isBlank c = false) (rest : List Char) :
    mark c (c :: rest) = .ok rest := by
  rw [mark, Text.trimStart_cons hc]
  exact if_pos rfl

/-- The year's text is read before a mark that is no digit. -/
theorem year_yearText {year : Int} (hleast : leastYear ≤ year) (hgreatest : year ≤ greatestYear)
    (hrest : NoDigit rest) : Reader.year (yearText year ++ rest) = .ok (year, rest) := by
  have hleast : -262143 ≤ year := hleast
  have hgreatest : year ≤ 262142 := hgreatest
  have hlimit : (-(greatest 31 + 1 : Int) ≤ year ∧ year ≤ greatest 31) := by
    have hword : (greatest 31 : Int) = 2147483647 := rfl
    omega
  have hfits : 262143 ≤ greatest 63 := by decide
  unfold yearText
  split
  · next hshort =>
    have hread : number 4 (padded 4 year.toNat ++ rest) = .ok (year.toNat, rest) :=
      number_padded (by decide) (by omega) (by omega) (.inl rfl)
    have hyear : (year.toNat : Int) = year := Int.toNat_of_nonneg hshort.1
    obtain ⟨c, cs, hpadded, hc⟩ := exists_padded_eq_cons 4 year.toNat
    rw [Reader.year, trimStart_padded]
    rw [hpadded, List.cons_append] at hread ⊢
    split
    · next heq =>
      cases heq
      exact absurd hc (by decide)
    · next heq =>
      cases heq
      exact absurd hc (by decide)
    · rw [hread]
      simp only [bind, Except.bind, Except.map, hyear, hlimit, and_self, if_true]
  · have hread := number_unbounded 4 (by omega : year.natAbs ≤ greatest 63) hrest
    rcases lt_or_ge year 0 with hneg | hpos
    · have hyear : -(year.natAbs : Int) = year := by omega
      rw [if_pos hneg, List.cons_append, Reader.year, Text.trimStart_cons (by decide)]
      simp only [hread, bind, Except.bind, Except.map, hyear, hlimit, and_self, if_true]
    · have hyear : (year.natAbs : Int) = year := by omega
      rw [if_neg (not_lt.mpr hpos), List.cons_append, Reader.year, Text.trimStart_cons (by decide)]
      simp only [hread, bind, Except.bind, Except.map, hyear, hlimit, and_self, if_true]

/-- A fraction of a second. -/
theorem fraction_padded (hcount : 0 < count) (hmost : count ≤ 9) (hn : n < 10 ^ count)
    (hrest : NoDigit rest) :
    fraction ('.' :: (padded count n ++ rest)) = .ok (n * 10 ^ (9 - count), rest) := by
  have hpower : 10 ^ count ≤ 10 ^ 9 := Nat.pow_le_pow_right (by decide) hmost
  have hword : 10 ^ 9 ≤ greatest 63 := by decide
  have hread : number 9 (padded count n ++ rest) = .ok (n, rest) :=
    number_padded hcount hn (by omega) (.inr ⟨hmost, hrest⟩)
  have hlength : (padded count n ++ rest).length - rest.length = count := by
    rw [List.length_append, length_padded hcount hn, Nat.add_sub_cancel]
  have hdrop : rest.dropWhile Char.isDigit = rest := by
    cases rest with
    | nil => rfl
    | cons c rest => exact List.dropWhile_cons_of_neg (by simp [hrest c rfl])
  rw [fraction, hread]
  simp only [bind, Except.bind, hlength, hdrop]
  rfl

theorem fraction_fractionText {nanos : Nat} (hnanos : nanos < 1000000000) :
    fraction (fractionText nanos ++ ['Z']) = .ok (nanos, ['Z']) := by
  have hrest : NoDigit ['Z'] := noDigit_cons (by decide) []
  unfold fractionText
  split
  · next hzero =>
    rw [hzero]
    rfl
  split
  · next hmillis =>
    rw [List.cons_append, fraction_padded (by decide) (by decide) (by omega) hrest]
    have hvalue : nanos / 1000000 * 10 ^ (9 - 3) = nanos := by omega
    rw [hvalue]
  split
  · next hmicros =>
    rw [List.cons_append, fraction_padded (by decide) (by decide) (by omega) hrest]
    have hvalue : nanos / 1000 * 10 ^ (9 - 6) = nanos := by omega
    rw [hvalue]
  · rw [List.cons_append, fraction_padded (by decide) (by decide) (by omega) hrest]
    have hvalue : nanos * 10 ^ (9 - 9) = nanos := by omega
    rw [hvalue]

end Reader

open Reader

/-- The instant is put together again from the parts that the text shows. -/
theorem assemble_parts {t : Timestamp} (ht : t.Valid) :
    assemble (t.seconds / 86400) ((t.seconds % 86400).toNat / 3600)
      ((t.seconds % 86400).toNat / 60 % 60)
      ((t.seconds % 86400).toNat % 60 + if 1000000000 ≤ t.nanos then 1 else 0)
      (t.nanos % 1000000000) 0 = .ok t := by
  obtain ⟨seconds, nanos⟩ := t
  obtain ⟨hleap, hleast, hgreatest⟩ := ht
  dsimp only at hleap hleast hgreatest ⊢
  unfold assemble
  rw [if_neg (by decide)]
  dsimp only
  rcases lt_or_ge nanos 1000000000 with hplain | hlate
  · have hsecond : (seconds % 86400).toNat % 60 ≠ 60 := by omega
    have hseconds : seconds / 86400 * 86400 + ((seconds % 86400).toNat / 3600 * 3600 +
        (seconds % 86400).toNat / 60 % 60 * 60 + (seconds % 86400).toNat % 60 : Nat) - 0 =
          seconds := by omega
    rw [if_neg (not_le.mpr hplain), Nat.add_zero, if_neg hsecond, if_neg hsecond, hseconds,
      Nat.mod_eq_of_lt hplain]
    exact if_pos ⟨hleast, hgreatest⟩
  · have hlast : (seconds % 86400).toNat % 60 + 1 = 60 := by omega
    have hseconds : seconds / 86400 * 86400 + ((seconds % 86400).toNat / 3600 * 3600 +
        (seconds % 86400).toNat / 60 % 60 * 60 + 59 : Nat) - 0 = seconds := by omega
    have hnanos : nanos % 1000000000 + 1000000000 = nanos := by omega
    rw [if_pos hlate, if_pos hlast, if_pos hlast, hseconds, hnanos]
    exact if_pos ⟨hleast, hgreatest⟩

/-- The text of a timestamp is read back. -/
theorem read_chars {t : Timestamp} (ht : t.Valid) : read t.chars = .ok t := by
  obtain ⟨⟨hmonth, hmonths, hday, hdays⟩, hnumber⟩ := Date.ofDayNumber_spec (t.seconds / 86400)
  have hassemble := assemble_parts ht
  have hfraction := fraction_fractionText (Nat.mod_lt t.nanos (by decide : 0 < 1000000000))
  obtain ⟨hleap, hleast, hgreatest⟩ := ht
  have hmost := hdays.trans (Date.daysInMonth_le _ _)
  have hdayOf : dayOf (Date.ofDayNumber (t.seconds / 86400)).year
      (Date.ofDayNumber (t.seconds / 86400)).month (Date.ofDayNumber (t.seconds / 86400)).day =
        .ok (t.seconds / 86400) := by
    rw [dayOf, if_pos ⟨hleast, hgreatest, hdays⟩, hnumber]
  have hyear (rest : List Char) := year_yearText hleast hgreatest
    (noDigit_cons (by decide : '-'.isDigit = false) rest)
  have hmonthField := field_padded (by omega) hmonth hmonths
  have hdayField := field_padded (by omega) hday hmost
  have hhourField := @field_padded ((t.seconds % 86400).toNat / 3600) 0 23 (by omega) (by omega)
    (by omega)
  have hminuteField := @field_padded ((t.seconds % 86400).toNat / 60 % 60) 0 59 (by omega)
    (by omega) (by omega)
  have hsecondField := @field_padded ((t.seconds % 86400).toNat % 60 +
    if 1000000000 ≤ t.nanos then 1 else 0) 0 60 (by split <;> omega) (by omega)
    (by split <;> omega)
  have hdash (rest : List Char) : mark '-' ('-' :: rest) = .ok rest := mark_cons (by decide) rest
  have hcolon (rest : List Char) : mark ':' (':' :: rest) = .ok rest := mark_cons (by decide) rest
  have hzone : zone (Text.trimStart ['Z']) = .ok (0, []) := rfl
  have hend : Text.trimStart [] = [] := rfl
  unfold chars read
  simp only [List.append_assoc, List.cons_append, bind, Except.bind, hyear, hdash,
    hmonthField, hdayField, true_or, if_true, hhourField, hcolon, hminuteField, hsecondField,
    hfraction, hzone, hend, List.isEmpty_nil, not_true, if_false, hdayOf, hassemble]

end Courier.Timestamp
