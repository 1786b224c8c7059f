import Courier.Proofs.Json.Decimals
import Courier.Proofs.Json.Limits
import Courier.Proofs.Json.Written
import Mathlib.Data.List.TakeWhile

/-!
# Reading numbers of any form

The reader of numbers takes exactly the numbers of the grammar.  What comes after a number makes no
difference to it as long as no number goes on there, and the only fault that a number of the grammar
can have is that it is out of range.
-/

namespace Courier.Json.Reader

variable {negative read : Bool} {significand soFar : Nat} {exponent start : Int} {n : Number}
  {text fraction tail sign s rest : Bytes} {b : UInt8}

/-! ## Digits -/

theorem isDigit_iff : isDigit b = true ↔ 48 ≤ b ∧ b ≤ 57 := by
  simp only [isDigit, Bool.and_eq_true, decide_eq_true_eq]

theorem first_iff : 49 ≤ b ∧ b ≤ 57 ↔ isDigit b = true ∧ b ≠ 48 := by
  simp only [isDigit_iff, UInt8.le_iff_toNat_le, ne_eq, ← UInt8.toNat_inj, UInt8.reduceToNat]
  omega

theorem isDigits_nil : IsDigits [] := by simp [IsDigits]

theorem isDigits_cons : IsDigits (b :: text) ↔ isDigit b = true ∧ IsDigits text := by
  rw [IsDigits, List.forall_mem_cons, isDigit_iff]
  rfl

theorem dropWhile_digits (hdigits : IsDigits text) (hrest : NoDigit rest) :
    (text ++ rest).dropWhile isDigit = rest := by
  rw [List.dropWhile_append_of_pos fun b hb ↦ isDigit_iff.mpr (hdigits b hb)]
  cases rest with
  | nil => rfl
  | cons b rest => exact List.dropWhile_cons_of_neg (by simp [hrest b rfl])

theorem exists_digits (s : Bytes) :
    ∃ text, IsDigits text ∧ s = text ++ s.dropWhile isDigit :=
  ⟨s.takeWhile isDigit, fun _ hb ↦ isDigit_iff.mp (List.mem_takeWhile_imp hb),
    List.takeWhile_append_dropWhile.symm⟩

theorem noDigit_append (htail : ∀ b ∈ tail.head?, isDigit b = false) (hrest : Stops rest) :
    NoDigit (tail ++ rest) := by
  cases tail with
  | nil => exact hrest.noDigit
  | cons b tail => exact noDigit_cons (htail b rfl) _

theorem noDigit_exponent (hexponent : ExponentText tail) (hrest : Stops rest) :
    NoDigit (tail ++ rest) := by
  apply noDigit_append _ hrest
  cases hexponent with
  | none => simp
  | letter hmark =>
    rintro b ⟨⟩
    rcases hmark with rfl | rfl <;> rfl

/-! ## What follows makes no difference -/

/-- A text is read to its end, or is out of range, whatever comes after it. -/
def Settles (reader : Reader Number) (text : Bytes) : Prop :=
  (∃ n, ∀ rest, Stops rest → reader (text ++ rest) = .ok (n, rest)) ∨
    ∀ rest, Stops rest → ∃ site, reader (text ++ rest) = .error ⟨.numberOutOfRange, site⟩

theorem Settles.congr {reader other : Reader Number} (hsettles : Settles other tail)
    (heq : ∀ rest, Stops rest → reader (text ++ rest) = other (tail ++ rest)) :
    Settles reader text := by
  rcases hsettles with ⟨n, hread⟩ | hrange
  · exact .inl ⟨n, fun rest hrest ↦ (heq rest hrest).trans (hread rest hrest)⟩
  · refine .inr fun rest hrest ↦ ?_
    rw [heq rest hrest]
    exact hrange rest hrest

/-- A text that is read before one ending is read before any. -/
theorem Settles.read_append {reader : Reader Number} {other : Bytes}
    (hsettles : Settles reader text) (hrest : Stops rest) (hother : Stops other)
    (hread : reader (text ++ rest) = .ok (n, rest)) :
    reader (text ++ other) = .ok (n, other) := by
  rcases hsettles with ⟨found, hfound⟩ | hrange
  · have hsame := (hfound rest hrest).symm.trans hread
    cases hsame
    exact hfound other hother
  · obtain ⟨site, hfault⟩ := hrange rest hrest
    rw [hread] at hfault
    cases hfault

theorem settles_scaled (negative : Bool) (significand : Nat) (exponent : Int) :
    Settles (scaled negative significand exponent) [] := by
  unfold scaled
  split
  · exact .inl ⟨_, fun rest _ ↦ rfl⟩
  · exact .inr fun rest _ ↦ ⟨_, rfl⟩

theorem exponentDigits_of_digits (hdigits : IsDigits text) (soFar : Nat) :
    (∃ n, ∀ rest, Stops rest → exponentDigits soFar (text ++ rest) = (some n, rest)) ∨
      ∀ rest, Stops rest → ∃ s, exponentDigits soFar (text ++ rest) = (none, s) ∧
        s.dropWhile isDigit = rest := by
  induction text generalizing soFar with
  | nil =>
    refine .inl ⟨soFar, fun rest hrest ↦ ?_⟩
    cases rest with
    | nil => rfl
    | cons b rest =>
      have hb : isDigit b = false := hrest.noDigit b rfl
      rw [List.nil_append, exponentDigits, hb]
      rfl
  | cons b text ih =>
    obtain ⟨hb, hdigits⟩ := isDigits_cons.mp hdigits
    simp only [List.cons_append, exponentDigits, hb, if_true]
    split
    · exact ih hdigits _
    · exact .inr fun rest hrest ↦ ⟨_, rfl, dropWhile_digits hdigits hrest.noDigit⟩

/-- An exponent after its sign. -/
def signedExponent (negative positive : Bool) (significand : Nat) (start : Int) : Reader Number
  | [] => faultAt .endInValue []
  | b :: s =>
    if isDigit b then
      match exponentDigits (digitValue b) s with
      | (some n, s) => scaled negative significand (if positive then start + n else start - n) s
      | (none, s) =>
        if significand ≠ 0 ∧ positive then faultAt .numberOutOfRange s
        else .ok (.real negative Magnitude.zero, s.dropWhile isDigit)
    else faultAt .invalidNumber s

theorem exponentPart_plain (hplus : b ≠ 43) (hminus : b ≠ 45) (s : Bytes) :
    exponentPart negative significand start (b :: s) =
      signedExponent negative true significand start (b :: s) := by
  cases hread : exponentDigits (digitValue b) s with
  | mk value rest =>
    cases value <;> simp [exponentPart, signedExponent, hplus, hminus, hread]

/-- The sign of an exponent may be left out. -/
theorem exists_sign (negative : Bool) (significand : Nat) (start : Int) (s : Bytes) :
    ∃ sign positive more, (sign = [] ∨ sign = [43] ∨ sign = [45]) ∧ s = sign ++ more ∧
      exponentPart negative significand start s =
        signedExponent negative positive significand start more := by
  cases s with
  | nil => exact ⟨[], true, [], .inl rfl, rfl, rfl⟩
  | cons b s =>
    by_cases hplus : b = 43
    · exact ⟨[43], true, s, .inr (.inl rfl), by rw [hplus]; rfl, by rw [hplus]; cases s <;> rfl⟩
    by_cases hminus : b = 45
    · exact ⟨[45], false, s, .inr (.inr rfl), by rw [hminus]; rfl, by rw [hminus]; cases s <;> rfl⟩
    · exact ⟨[], true, b :: s, .inl rfl, rfl, exponentPart_plain hplus hminus s⟩

theorem settles_signedExponent (hsome : text ≠ []) (hdigits : IsDigits text) (positive : Bool) :
    Settles (signedExponent negative positive significand start) text := by
  obtain ⟨b, more, rfl⟩ := List.exists_cons_of_ne_nil hsome
  obtain ⟨hb, hdigits⟩ := isDigits_cons.mp hdigits
  rcases exponentDigits_of_digits hdigits (digitValue b) with ⟨n, hread⟩ | hread
  · apply (settles_scaled negative significand (if positive then start + n else start - n)).congr
    intro rest hrest
    simp only [List.cons_append, signedExponent, hb, if_true, hread rest hrest, List.nil_append]
  · by_cases hrange : significand ≠ 0 ∧ positive
    · refine .inr fun rest hrest ↦ ?_
      obtain ⟨s, hs, _⟩ := hread rest hrest
      simp only [List.cons_append, signedExponent, hb, if_true, hs, if_pos hrange]
      exact ⟨_, rfl⟩
    · refine .inl ⟨.real negative Magnitude.zero, fun rest hrest ↦ ?_⟩
      obtain ⟨s, hs, hdrop⟩ := hread rest hrest
      simp only [List.cons_append, signedExponent, hb, if_true, hs, if_neg hrange, hdrop]

theorem settles_exponentPart (hsign : sign = [] ∨ sign = [43] ∨ sign = [45]) (hsome : text ≠ [])
    (hdigits : IsDigits text) :
    Settles (exponentPart negative significand start) (sign ++ text) := by
  rcases hsign with rfl | rfl | rfl
  · apply (settles_signedExponent hsome hdigits true).congr
    intro rest _
    obtain ⟨b, more, rfl⟩ := List.exists_cons_of_ne_nil hsome
    have hb : isDigit b = true := (isDigits_cons.mp hdigits).1
    apply exponentPart_plain
    · rintro rfl
      exact absurd hb (by decide)
    · rintro rfl
      exact absurd hb (by decide)
  · exact (settles_signedExponent hsome hdigits true).congr fun rest _ ↦ by
      cases text <;> rfl
  · exact (settles_signedExponent hsome hdigits false).congr fun rest _ ↦ by
      cases text <;> rfl

theorem settles_afterFraction (hexponent : ExponentText tail) :
    Settles (afterFraction negative significand exponent) tail := by
  cases hexponent with
  | none =>
    apply (settles_scaled negative significand exponent).congr
    intro rest hrest
    exact afterFraction_of_stops hrest
  | @letter mark sign text hmark hsign hsome hdigits =>
    apply (settles_exponentPart hsign hsome hdigits).congr
    intro rest _
    rcases hmark with rfl | rfl <;> rfl

theorem settles_fractionDigits (hdigits : IsDigits text) (hexponent : ExponentText tail)
    (hread : read = true ∨ text ≠ []) :
    Settles (fractionDigits negative read significand exponent) (text ++ tail) := by
  induction text generalizing read significand exponent with
  | nil =>
    have hread : read = true := by simpa using hread
    apply (settles_afterFraction hexponent).congr
    intro rest hrest
    have hnext := noDigit_exponent hexponent hrest
    rw [List.nil_append, hread]
    cases htail : tail ++ rest with
    | nil => rfl
    | cons b s =>
      rw [htail] at hnext
      rw [fractionDigits, hnext b rfl]
      rfl
  | cons b text ih =>
    obtain ⟨hb, hdigits⟩ := isDigits_cons.mp hdigits
    by_cases hfits : significand * 10 + digitValue b ≤ greatestWord
    · have hmore : Settles (fractionDigits negative true (significand * 10 + digitValue b)
          (exponent - 1)) (text ++ tail) := ih hdigits (.inl rfl)
      apply hmore.congr
      intro rest _
      rw [List.cons_append, List.cons_append, fractionDigits, if_pos hb]
      exact if_pos hfits
    · apply (settles_afterFraction hexponent).congr
      intro rest hrest
      have hdrop := dropWhile_digits hdigits (noDigit_exponent hexponent hrest)
      rw [List.cons_append, List.cons_append, List.append_assoc, fractionDigits, if_pos hb]
      exact (if_neg hfits).trans (congrArg _ hdrop)

/-- A fraction or an exponent does not begin with a digit. -/
theorem noDigit_fraction (hfraction : FractionText fraction) (hexponent : ExponentText tail)
    (hrest : Stops rest) : NoDigit (fraction ++ tail ++ rest) := by
  cases hfraction with
  | none => exact noDigit_exponent hexponent hrest
  | point => exact noDigit_cons (by decide) _

theorem settles_point (hsome : text ≠ []) (hdigits : IsDigits text)
    (hexponent : ExponentText tail) :
    Settles (fractionDigits negative false significand exponent) (text ++ tail) :=
  settles_fractionDigits hdigits hexponent (.inr hsome)

theorem droppedDigits_of_exponent (hexponent : ExponentText tail) (hrest : Stops rest) :
    droppedDigits negative significand exponent (tail ++ rest) =
      afterFraction negative significand exponent (tail ++ rest) := by
  cases hexponent with
  | none =>
    cases rest with
    | nil => rfl
    | cons b rest =>
      obtain ⟨hb, hpoint, _⟩ := hrest b rfl
      rw [List.nil_append, droppedDigits, hb, if_neg Bool.false_ne_true, if_neg hpoint]
  | letter hmark => rcases hmark with rfl | rfl <;> rfl

theorem settles_droppedDigits (hdigits : IsDigits text) (hfraction : FractionText fraction)
    (hexponent : ExponentText tail) :
    Settles (droppedDigits negative significand exponent) (text ++ (fraction ++ tail)) := by
  induction text generalizing exponent with
  | nil =>
    cases hfraction with
    | none =>
      have hafter : Settles (afterFraction negative significand exponent) tail :=
        settles_afterFraction hexponent
      exact hafter.congr fun rest hrest ↦ droppedDigits_of_exponent hexponent hrest
    | point hsome hfraction =>
      have hpoint : Settles (fractionDigits negative false significand exponent) _ :=
        settles_point hsome hfraction hexponent
      exact hpoint.congr fun rest _ ↦ rfl
  | cons b text ih =>
    obtain ⟨hb, hdigits⟩ := isDigits_cons.mp hdigits
    have hmore : Settles (droppedDigits negative significand (exponent + 1)) _ := ih hdigits
    apply hmore.congr
    intro rest _
    rw [List.cons_append, List.cons_append, droppedDigits, if_pos hb]

theorem afterDigits_true (hrest : Stops rest) : afterDigits true significand rest =
    if significand = 0 ∨ greatestWord / 2 + 1 < significand then scaled true significand 0 rest
    else .ok (.integer (-significand), rest) := by
  unfold afterDigits
  split
  · next s => exact absurd rfl (hrest 46 rfl).2.1
  · next s => exact absurd rfl (hrest 101 rfl).2.2.1
  · next s => exact absurd rfl (hrest 69 rfl).2.2.2
  · rfl

theorem settles_integer (negative : Bool) (significand : Nat) :
    Settles (afterDigits negative significand) [] := by
  cases negative with
  | false => exact .inl ⟨.integer significand, fun rest hrest ↦ afterDigits_of_stops hrest _⟩
  | true =>
    by_cases hreal : significand = 0 ∨ greatestWord / 2 + 1 < significand
    · apply (settles_scaled true significand 0).congr
      intro rest hrest
      exact (afterDigits_true hrest).trans (if_pos hreal)
    · refine .inl ⟨.integer (-significand), fun rest hrest ↦ ?_⟩
      exact (afterDigits_true hrest).trans (if_neg hreal)

theorem settles_afterDigits (hfraction : FractionText fraction) (hexponent : ExponentText tail) :
    Settles (afterDigits negative significand) (fraction ++ tail) := by
  cases hfraction with
  | point hsome hfraction =>
    have hpoint : Settles (fractionDigits negative false significand 0) _ :=
      settles_point hsome hfraction hexponent
    exact hpoint.congr fun rest _ ↦ rfl
  | none =>
    cases hexponent with
    | none => exact settles_integer negative significand
    | letter hmark hsign hsome hdigits =>
      have hpart : Settles (exponentPart negative significand 0) _ :=
        settles_exponentPart hsign hsome hdigits
      apply hpart.congr
      intro rest _
      rcases hmark with rfl | rfl <;> rfl

theorem settles_wholeDigits (hdigits : IsDigits text) (hfraction : FractionText fraction)
    (hexponent : ExponentText tail) :
    Settles (wholeDigits negative significand) (text ++ (fraction ++ tail)) := by
  induction text generalizing significand with
  | nil =>
    apply (settles_afterDigits hfraction hexponent).congr
    intro rest hrest
    have hnext := noDigit_fraction hfraction hexponent hrest
    rw [List.nil_append]
    cases hmore : fraction ++ tail ++ rest with
    | nil => rfl
    | cons b s =>
      rw [hmore] at hnext
      rw [wholeDigits, hnext b rfl]
      rfl
  | cons b text ih =>
    obtain ⟨hb, hdigits⟩ := isDigits_cons.mp hdigits
    by_cases hfits : significand * 10 + digitValue b ≤ greatestWord
    · have hmore : Settles (wholeDigits negative (significand * 10 + digitValue b)) _ :=
        ih hdigits
      apply hmore.congr
      intro rest _
      rw [List.cons_append, List.cons_append, wholeDigits, if_pos hb]
      exact if_pos hfits
    · have hdropped : Settles (droppedDigits negative significand 0)
          (b :: text ++ (fraction ++ tail)) :=
        settles_droppedDigits (isDigits_cons.mpr ⟨hb, hdigits⟩) hfraction hexponent
      apply hdropped.congr
      intro rest _
      rw [List.cons_append, List.cons_append, wholeDigits, if_pos hb]
      exact if_neg hfits

/-- A number of the grammar is read to its end, or is out of range. -/
theorem settles_number (negative : Bool) (htext : UnsignedText text) :
    Settles (number negative) text := by
  cases htext with
  | @parts whole fraction tail hwhole hfraction hexponent =>
    cases hwhole with
    | zero =>
      have hafter : Settles (afterDigits negative 0) _ := settles_afterDigits hfraction hexponent
      apply hafter.congr
      intro rest hrest
      have hnext := noDigit_fraction hfraction hexponent hrest
      exact number_zero hnext
    | @digits b text hfirst hmore =>
      have hwhole : Settles (wholeDigits negative (digitValue b)) _ :=
        settles_wholeDigits hmore hfraction hexponent
      apply hwhole.congr
      intro rest _
      obtain ⟨hb, hnonzero⟩ := first_iff.mp hfirst
      rw [List.cons_append, List.cons_append]
      simp only [number.eq_def, if_neg hnonzero, if_pos hb]

/-! ## Whatever is read is a number -/

theorem exists_of_scaled (h : scaled negative significand exponent s = .ok (n, rest)) :
    s = rest := by
  unfold scaled at h
  split at h
  · cases h
    rfl
  · cases h

theorem exists_of_exponentDigits (soFar : Nat) (s : Bytes) :
    ∃ text, IsDigits text ∧ s = text ++ (exponentDigits soFar s).2 := by
  induction s generalizing soFar with
  | nil => exact ⟨[], isDigits_nil, rfl⟩
  | cons b s ih =>
    rw [exponentDigits]
    by_cases hb : isDigit b = true
    · rw [if_pos hb]
      dsimp only
      split
      · obtain ⟨text, hdigits, hs⟩ := ih (soFar * 10 + digitValue b)
        exact ⟨b :: text, isDigits_cons.mpr ⟨hb, hdigits⟩, congrArg (List.cons b) hs⟩
      · exact ⟨[b], isDigits_cons.mpr ⟨hb, isDigits_nil⟩, rfl⟩
    · rw [if_neg hb]
      exact ⟨[], isDigits_nil, rfl⟩

theorem isDigits_append (htext : IsDigits text) (htail : IsDigits tail) :
    IsDigits (text ++ tail) := by
  intro b hb
  rcases List.mem_append.mp hb with hb | hb
  · exact htext b hb
  · exact htail b hb

theorem exists_of_signedExponent {positive : Bool}
    (h : signedExponent negative positive significand start s = .ok (n, rest)) :
    ∃ text, text ≠ [] ∧ IsDigits text ∧ s = text ++ rest := by
  cases s with
  | nil => cases h
  | cons b s =>
    rw [signedExponent] at h
    split at h
    · next hb =>
      obtain ⟨text, htext, hs⟩ := exists_of_exponentDigits (digitValue b) s
      have hdigits : IsDigits (b :: text) := isDigits_cons.mpr ⟨hb, htext⟩
      split at h
      · next value s' hread =>
        rw [hread, exists_of_scaled h] at hs
        exact ⟨b :: text, by simp, hdigits, congrArg (List.cons b) hs⟩
      · next s' hread =>
        split at h
        · cases h
        · cases h
          obtain ⟨more, hmore, hs'⟩ := exists_digits s'
          rw [hread, hs', ← List.append_assoc] at hs
          exact ⟨b :: (text ++ more), by simp, isDigits_append hdigits hmore,
            congrArg (List.cons b) hs⟩
    · cases h

theorem exists_of_exponentPart (h : exponentPart negative significand start s = .ok (n, rest))
    {mark : UInt8} (hmark : mark = 101 ∨ mark = 69) :
    ∃ tail, ExponentText tail ∧ mark :: s = tail ++ rest := by
  obtain ⟨sign, positive, more, hsign, rfl, hread⟩ := exists_sign negative significand start s
  rw [hread] at h
  obtain ⟨text, hsome, hdigits, rfl⟩ := exists_of_signedExponent h
  exact ⟨mark :: (sign ++ text), .letter hmark hsign hsome hdigits, by simp⟩

theorem exists_of_afterFraction
    (h : afterFraction negative significand exponent s = .ok (n, rest)) :
    ∃ tail, ExponentText tail ∧ s = tail ++ rest := by
  unfold afterFraction at h
  split at h
  · exact exists_of_exponentPart h (.inl rfl)
  · exact exists_of_exponentPart h (.inr rfl)
  · exact ⟨[], .none, exists_of_scaled h⟩

theorem exists_of_fractionDigits
    (h : fractionDigits negative read significand exponent s = .ok (n, rest)) :
    ∃ text tail, IsDigits text ∧ (read = true ∨ text ≠ []) ∧ ExponentText tail ∧
      s = text ++ (tail ++ rest) := by
  induction s generalizing read significand exponent with
  | nil =>
    unfold fractionDigits at h
    split at h
    · next hread => exact ⟨[], [], isDigits_nil, .inl hread, .none, exists_of_scaled h⟩
    · cases h
  | cons b s ih =>
    unfold fractionDigits at h
    dsimp only at h
    split at h
    · next hb =>
      split at h
      · obtain ⟨text, tail, htext, _, htail, rfl⟩ := ih h
        exact ⟨b :: text, tail, isDigits_cons.mpr ⟨hb, htext⟩, .inr (by simp), htail, rfl⟩
      · obtain ⟨tail, htail, hs⟩ := exists_of_afterFraction h
        obtain ⟨text, htext, hdrop⟩ := exists_digits s
        rw [hs] at hdrop
        exact ⟨b :: text, tail, isDigits_cons.mpr ⟨hb, htext⟩, .inr (by simp), htail,
          congrArg (List.cons b) hdrop⟩
    split at h
    · next hread =>
      obtain ⟨tail, htail, hs⟩ := exists_of_afterFraction h
      exact ⟨[], tail, isDigits_nil, .inl hread, htail, hs⟩
    · cases h

theorem exists_of_point
    (h : fractionDigits negative false significand exponent s = .ok (n, rest)) :
    ∃ fraction tail, FractionText fraction ∧ ExponentText tail ∧
      46 :: s = fraction ++ (tail ++ rest) := by
  obtain ⟨text, tail, htext, hsome, htail, rfl⟩ := exists_of_fractionDigits h
  have hsome : text ≠ [] := by simpa using hsome
  exact ⟨46 :: text, tail, .point hsome htext, htail, rfl⟩

theorem exists_of_droppedDigits
    (h : droppedDigits negative significand exponent s = .ok (n, rest)) :
    ∃ text fraction tail, IsDigits text ∧ FractionText fraction ∧ ExponentText tail ∧
      s = text ++ (fraction ++ (tail ++ rest)) := by
  induction s generalizing exponent with
  | nil => exact ⟨[], [], [], isDigits_nil, .none, .none, exists_of_scaled h⟩
  | cons b s ih =>
    unfold droppedDigits at h
    split at h
    · next hb =>
      obtain ⟨text, fraction, tail, htext, hfraction, htail, rfl⟩ := ih h
      exact ⟨b :: text, fraction, tail, isDigits_cons.mpr ⟨hb, htext⟩, hfraction, htail, rfl⟩
    split at h
    · next hpoint =>
      obtain ⟨fraction, tail, hfraction, htail, hs⟩ := exists_of_point h
      exact ⟨[], fraction, tail, isDigits_nil, hfraction, htail, hpoint ▸ hs⟩
    · obtain ⟨tail, htail, hs⟩ := exists_of_afterFraction h
      exact ⟨[], [], tail, isDigits_nil, .none, htail, hs⟩

theorem exists_of_afterDigits (h : afterDigits negative significand s = .ok (n, rest)) :
    ∃ fraction tail, FractionText fraction ∧ ExponentText tail ∧
      s = fraction ++ (tail ++ rest) := by
  unfold afterDigits at h
  split at h
  · exact exists_of_point h
  · obtain ⟨tail, htail, hs⟩ := exists_of_exponentPart h (.inl rfl)
    exact ⟨[], tail, .none, htail, hs⟩
  · obtain ⟨tail, htail, hs⟩ := exists_of_exponentPart h (.inr rfl)
    exact ⟨[], tail, .none, htail, hs⟩
  · have hs : s = rest := by
      split at h
      · split at h
        · exact exists_of_scaled h
        · cases h
          rfl
      · cases h
        rfl
    exact ⟨[], [], .none, .none, hs⟩

theorem exists_of_wholeDigits (h : wholeDigits negative significand s = .ok (n, rest)) :
    ∃ text fraction tail, IsDigits text ∧ FractionText fraction ∧ ExponentText tail ∧
      s = text ++ (fraction ++ (tail ++ rest)) := by
  induction s generalizing significand with
  | nil =>
    obtain ⟨fraction, tail, hfraction, htail, hs⟩ := exists_of_afterDigits h
    exact ⟨[], fraction, tail, isDigits_nil, hfraction, htail, hs⟩
  | cons b s ih =>
    unfold wholeDigits at h
    dsimp only at h
    split at h
    · next hb =>
      split at h
      · obtain ⟨text, fraction, tail, htext, hfraction, htail, rfl⟩ := ih h
        exact ⟨b :: text, fraction, tail, isDigits_cons.mpr ⟨hb, htext⟩, hfraction, htail, rfl⟩
      · exact exists_of_droppedDigits h
    · obtain ⟨fraction, tail, hfraction, htail, hs⟩ := exists_of_afterDigits h
      exact ⟨[], fraction, tail, isDigits_nil, hfraction, htail, hs⟩

/-- The reader takes numbers of the grammar only. -/
theorem exists_of_number (h : number negative s = .ok (n, rest)) :
    ∃ text, UnsignedText text ∧ s = text ++ rest := by
  unfold number at h
  split at h
  · cases h
  next b s =>
  split at h
  · next hzero =>
    have hread : afterDigits negative 0 s = .ok (n, rest) := by
      split at h
      · exact h
      split at h
      · cases h
      · exact h
    obtain ⟨fraction, tail, hfraction, htail, rfl⟩ := exists_of_afterDigits hread
    exact ⟨[48] ++ (fraction ++ tail), .parts .zero hfraction htail, by simp [hzero]⟩
  split at h
  · next hzero hb =>
    obtain ⟨text, fraction, tail, htext, hfraction, htail, rfl⟩ := exists_of_wholeDigits h
    have hwhole : WholeText (b :: text) := .digits (first_iff.mpr ⟨hb, hzero⟩) htext
    exact ⟨b :: text ++ (fraction ++ tail), .parts hwhole hfraction htail, by simp⟩
  · cases h

end Courier.Json.Reader
