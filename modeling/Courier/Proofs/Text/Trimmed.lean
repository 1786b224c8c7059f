import Courier.Proofs.Text.Numeral
import Courier.Text.Blank
import Mathlib.Data.List.TakeWhile

/-!
# Trimmed texts

Trimming takes away the white space at both ends of a text and nothing else, so that a numeral is
read in whatever white space it stands.
-/

namespace Courier

namespace Text

variable {before core after cs : List Char} {c : Char}

theorem isBlank_of_isDigit (hc : c.isDigit = true) : isBlank c = false := by
  obtain ⟨hlow, hhigh⟩ := Char.isDigit_iff_toNat.mp hc
  have hlow : 48 ≤ c.toNat := hlow
  have hhigh : c.toNat ≤ 57 := hhigh
  have hall : ∀ n < 58, 48 ≤ n → isBlank (Char.ofNat n) = false := by decide
  have hblank := hall c.toNat (by omega) hlow
  rwa [Char.ofNat_toNat] at hblank

theorem trimStart_cons (hc : isBlank c = false) (rest : List Char) :
    trimStart (c :: rest) = c :: rest :=
  List.dropWhile_cons_of_neg (by simp [hc])

theorem trimStart_append (hbefore : ∀ c ∈ before, isBlank c = true) (cs : List Char) :
    trimStart (before ++ cs) = trimStart cs := by
  induction before with
  | nil => rfl
  | cons c before ih =>
    have hc : isBlank c = true := hbefore c List.mem_cons_self
    rw [List.cons_append, trimStart, List.dropWhile_cons_of_pos hc]
    exact ih fun d hd ↦ hbefore d (List.mem_cons_of_mem c hd)

theorem exists_trimStart (cs : List Char) :
    ∃ before, cs = before ++ trimStart cs ∧ ∀ c ∈ before, isBlank c = true :=
  ⟨cs.takeWhile isBlank, List.takeWhile_append_dropWhile.symm, fun _ hc ↦
    List.mem_takeWhile_imp hc⟩

/-- The white space around what is kept. -/
theorem exists_trim (cs : List Char) : ∃ before after, cs = before ++ trim cs ++ after ∧
    (∀ c ∈ before, isBlank c = true) ∧ ∀ c ∈ after, isBlank c = true := by
  obtain ⟨before, hstart, hbefore⟩ := exists_trimStart cs
  obtain ⟨after, hend, hafter⟩ := exists_trimStart (trimStart cs).reverse
  refine ⟨before, after.reverse, ?_, hbefore, fun c hc ↦ hafter c (List.mem_reverse.mp hc)⟩
  have hkept := congrArg List.reverse hend
  rw [List.reverse_reverse, List.reverse_append] at hkept
  rw [trim, List.append_assoc, ← hkept]
  exact hstart

theorem trim_of_blank (hcs : ∀ c ∈ cs, isBlank c = true) : trim cs = [] := by
  have hstart : trimStart cs = [] := by
    rw [← List.append_nil cs, trimStart_append hcs]
    rfl
  rw [trim, hstart]
  rfl

theorem trim_eq_nil_iff : trim cs = [] ↔ ∀ c ∈ cs, isBlank c = true := by
  refine ⟨fun htrim c hc ↦ ?_, trim_of_blank⟩
  obtain ⟨before, after, hcs, hbefore, hafter⟩ := exists_trim cs
  rw [hcs, htrim, List.append_nil] at hc
  exact (List.mem_append.mp hc).elim (hbefore c) (hafter c)

/-- Text without white space is just what is kept of it in white space. -/
theorem trim_append (hbefore : ∀ c ∈ before, isBlank c = true)
    (hafter : ∀ c ∈ after, isBlank c = true) (hcore : ∀ c ∈ core, isBlank c = false) :
    trim (before ++ core ++ after) = core := by
  have hkept {more : List Char} (hmore : ∀ c ∈ more, isBlank c = false) (rest : List Char)
      (hne : more ≠ []) : trimStart (more ++ rest) = more ++ rest := by
    obtain ⟨c, cs, rfl⟩ := List.exists_cons_of_ne_nil hne
    exact trimStart_cons (hmore c List.mem_cons_self) (cs ++ rest)
  by_cases hne : core = []
  · rw [hne, List.append_nil]
    exact trim_of_blank fun c hc ↦ (List.mem_append.mp hc).elim (hbefore c) (hafter c)
  · have hreverse : ∀ c ∈ core.reverse, isBlank c = false := fun c hc ↦
      hcore c (List.mem_reverse.mp hc)
    have hafter : ∀ c ∈ after.reverse, isBlank c = true := fun c hc ↦
      hafter c (List.mem_reverse.mp hc)
    have hend := hkept hreverse [] (by simpa using hne)
    rw [trim, List.append_assoc, trimStart_append hbefore, hkept hcore after hne,
      List.reverse_append, trimStart_append hafter, ← List.append_nil core.reverse, hend,
      List.append_nil, List.reverse_reverse]

end Text

/-! ## Numerals in white space -/

namespace Numeral

variable {limit soFar n m : Nat} {cs : List Char}

/-- A text spells a number with an optional plus sign and digits, and white space around them. -/
def Spells (text : List Char) (n : Nat) : Prop :=
  ∃ before sign digits after, text = before ++ (sign ++ digits) ++ after ∧
    (∀ c ∈ before, Text.isBlank c = true) ∧ (∀ c ∈ after, Text.isBlank c = true) ∧
    (sign = [] ∨ sign = ['+']) ∧ digits ≠ [] ∧ (∀ d ∈ digits, d.isDigit = true) ∧
    Nat.ofDigitChars 10 digits 0 = n

theorem readDigits_eq_ok_iff (hsoFar : soFar ≤ limit) : readDigits limit soFar cs = .ok n ↔
    (∀ d ∈ cs, d.isDigit = true) ∧ Nat.ofDigitChars 10 cs soFar = n ∧ n ≤ limit := by
  induction cs generalizing soFar with
  | nil =>
    rw [readDigits, Nat.ofDigitChars_nil, Except.ok.injEq]
    constructor
    · rintro rfl
      exact ⟨by simp, rfl, hsoFar⟩
    · exact fun h ↦ h.2.1
  | cons c cs ih =>
    have hvalue : soFar * 10 + (c.toNat - 48) = 10 * soFar + (c.toNat - '0'.toNat) := by
      rw [Nat.mul_comm]
      rfl
    rw [readDigits, Nat.ofDigitChars_cons, ← hvalue, List.forall_mem_cons]
    by_cases hc : c.isDigit = true
    · by_cases hfits : soFar * 10 + (c.toNat - 48) ≤ limit
      · rw [if_pos hc]
        dsimp only
        rw [if_pos hfits, ih hfits]
        exact ⟨fun h ↦ ⟨⟨hc, h.1⟩, h.2⟩, fun h ↦ ⟨h.1.2, h.2⟩⟩
      · rw [if_pos hc]
        dsimp only
        rw [if_neg hfits]
        refine ⟨fun h ↦ by contradiction, fun ⟨_, hread, hlimit⟩ ↦ ?_⟩
        have hle := le_ofDigitChars cs (soFar * 10 + (c.toNat - 48))
        exact absurd ((hle.trans_eq hread).trans hlimit) hfits
    · rw [if_neg hc]
      exact ⟨fun h ↦ by contradiction, fun h ↦ absurd h.1.1 hc⟩

/-- Exactly the digits after an optional sign are read. -/
theorem read_eq_ok_iff : read limit cs = .ok n ↔
    ∃ sign digits, cs = sign ++ digits ∧ (sign = [] ∨ sign = ['+']) ∧ digits ≠ [] ∧
      (∀ d ∈ digits, d.isDigit = true) ∧ Nat.ofDigitChars 10 digits 0 = n ∧ n ≤ limit := by
  have hplus : Char.isDigit '+' = false := rfl
  constructor
  · intro hread
    unfold read at hread
    split at hread
    · contradiction
    · contradiction
    · next rest hne =>
      have hdigits := (readDigits_eq_ok_iff (Nat.zero_le limit)).mp hread
      exact ⟨['+'], rest, rfl, .inr rfl, fun hnil ↦ hne hnil, hdigits⟩
    · next hne _ _ =>
      have hdigits := (readDigits_eq_ok_iff (Nat.zero_le limit)).mp hread
      exact ⟨[], cs, rfl, .inl rfl, fun hnil ↦ hne hnil, hdigits⟩
  · rintro ⟨sign, digits, rfl, hsign, hne, hdigits⟩
    obtain ⟨d, ds, rfl⟩ := List.exists_cons_of_ne_nil hne
    have hread := (readDigits_eq_ok_iff (Nat.zero_le limit)).mpr hdigits
    rcases hsign with rfl | rfl
    · have hd : d ≠ '+' := by
        rintro rfl
        exact absurd (hdigits.1 '+' List.mem_cons_self) (by decide)
      rw [List.nil_append, read]
      · exact hread
      · simp
      · rintro ⟨rfl, -⟩
        exact hd rfl
      · rintro rest ⟨rfl, -⟩
        exact hd rfl
    · exact hread

/-- What is read from a trimmed text is what the text spells. -/
theorem read_trim_eq_ok_iff :
    read limit (Text.trim cs) = .ok n ↔ Spells cs n ∧ n ≤ limit := by
  rw [read_eq_ok_iff]
  constructor
  · rintro ⟨sign, digits, htrim, hsign, hne, hdigits, hvalue, hlimit⟩
    obtain ⟨before, after, hcs, hbefore, hafter⟩ := Text.exists_trim cs
    rw [htrim] at hcs
    exact ⟨⟨before, sign, digits, after, hcs, hbefore, hafter, hsign, hne, hdigits, hvalue⟩,
      hlimit⟩
  · rintro ⟨⟨before, sign, digits, after, rfl, hbefore, hafter, hsign, hne, hdigits, hvalue⟩,
      hlimit⟩
    refine ⟨sign, digits, Text.trim_append hbefore hafter fun c hc ↦ ?_, hsign, hne, hdigits,
      hvalue, hlimit⟩
    rcases List.mem_append.mp hc with hc | hc
    · rcases hsign with rfl | rfl
      · exact absurd hc List.not_mem_nil
      · rw [List.mem_singleton.mp hc]
        rfl
    · exact Text.isBlank_of_isDigit (hdigits c hc)

end Numeral

end Courier
