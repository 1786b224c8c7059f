import Courier.Proofs.Binary64.Shortest
import Courier.Proofs.Json.Numbers

/-!
# Reading written decimals

A real number is written with the digits of its shortest decimal, a point among or behind them, and
an exponent where the point would stand too far off.  Reading this text comes to one scaling of
these digits by a power of ten, whatever number the scaling gives.
-/

namespace Courier.Json.Reader

variable {significand n : Nat} {rest : Bytes} {negative : Bool} {cs : List Char} {exponent : Int}

theorem encodeChars_append (cs ds : List Char) :
    Utf8.encodeChars (cs ++ ds) = Utf8.encodeChars cs ++ Utf8.encodeChars ds :=
  List.flatMap_append

/-! ## Parts of a number -/

/-- Digits of a fraction are taken up, each with one place more. -/
theorem fractionDigits_append {read : Bool} (hdigits : ∀ c ∈ cs, c.isDigit = true)
    (hfits : Nat.ofDigitChars 10 cs significand ≤ greatestWord) (hread : read = true ∨ cs ≠ [])
    (hrest : NoDigit rest) :
    fractionDigits negative read significand exponent (Utf8.encodeChars cs ++ rest) =
      afterFraction negative (Nat.ofDigitChars 10 cs significand) (exponent - cs.length) rest := by
  induction cs generalizing read significand exponent with
  | nil =>
    have hread : read = true := by simpa using hread
    change fractionDigits negative read significand exponent rest =
      afterFraction negative significand (exponent - (0 : Nat)) rest
    rw [Nat.cast_zero, Int.sub_zero, hread]
    cases rest with
    | nil => rfl
    | cons b rest =>
      have hb : isDigit b = false := hrest b rfl
      rw [fractionDigits, hb]
      rfl
  | cons c cs ih =>
    obtain ⟨hencode, hdigit, hvalue⟩ := encodeChar_digit (hdigits c List.mem_cons_self)
    rw [Nat.ofDigitChars_cons, Nat.mul_comm] at hfits ⊢
    have hless := (Numeral.le_ofDigitChars cs (significand * 10 + (c.toNat - 48))).trans hfits
    calc fractionDigits negative read significand exponent (Utf8.encodeChars (c :: cs) ++ rest)
      _ = fractionDigits negative read significand exponent
          (UInt8.ofNat c.toNat :: (Utf8.encodeChars cs ++ rest)) := by
        rw [Utf8.encodeChars, List.flatMap_cons, hencode]
        rfl
      _ = fractionDigits negative true (significand * 10 + (c.toNat - 48)) (exponent - 1)
          (Utf8.encodeChars cs ++ rest) := by
        rw [fractionDigits, if_pos hdigit, hvalue]
        exact if_pos hless
      _ = afterFraction negative (Nat.ofDigitChars 10 cs (significand * 10 + (c.toNat - 48)))
          (exponent - 1 - cs.length) rest :=
        ih (fun c hc ↦ hdigits c (List.mem_cons_of_mem _ hc)) hfits (.inl rfl)
      _ = _ := by
        rw [List.length_cons]
        congr 1
        push_cast
        omega

theorem exponentDigits_append (hdigits : ∀ c ∈ cs, c.isDigit = true)
    (hfits : Nat.ofDigitChars 10 cs n ≤ Numeral.greatest 31) (hrest : NoDigit rest) :
    exponentDigits n (Utf8.encodeChars cs ++ rest) = (some (Nat.ofDigitChars 10 cs n), rest) := by
  induction cs generalizing n with
  | nil =>
    cases rest with
    | nil => rfl
    | cons b rest =>
      have hb : isDigit b = false := hrest b rfl
      change exponentDigits n (b :: rest) = (some n, b :: rest)
      rw [exponentDigits, hb]
      rfl
  | cons c cs ih =>
    obtain ⟨hencode, hdigit, hvalue⟩ := encodeChar_digit (hdigits c List.mem_cons_self)
    rw [Nat.ofDigitChars_cons, Nat.mul_comm] at hfits ⊢
    have hless := (Numeral.le_ofDigitChars cs (n * 10 + (c.toNat - 48))).trans hfits
    calc exponentDigits n (Utf8.encodeChars (c :: cs) ++ rest)
      _ = exponentDigits n (UInt8.ofNat c.toNat :: (Utf8.encodeChars cs ++ rest)) := by
        rw [Utf8.encodeChars, List.flatMap_cons, hencode]
        rfl
      _ = exponentDigits (n * 10 + (c.toNat - 48)) (Utf8.encodeChars cs ++ rest) := by
        rw [exponentDigits, if_pos hdigit, hvalue]
        exact if_pos hless
      _ = _ := ih (fun c hc ↦ hdigits c (List.mem_cons_of_mem _ hc)) hfits

/-- A signed exponent moves the point. -/
theorem exponentPart_signed (negative : Bool) (significand : Nat) (start : Int)
    (hexponent : exponent.natAbs ≤ Numeral.greatest 31)
    (hrest : NoDigit rest) :
    exponentPart negative significand start
      (Utf8.encodeChars ((if exponent < 0 then '-' else '+') :: Nat.toDigits 10 exponent.natAbs) ++
        rest) = scaled negative significand (start + exponent) rest := by
  have hall : ∀ d ∈ Nat.toDigits 10 exponent.natAbs, d.isDigit = true :=
    fun d hd ↦ Numeral.isDigit_of_mem_toDigits hd
  have hvalue : Nat.ofDigitChars 10 (Nat.toDigits 10 exponent.natAbs) 0 = exponent.natAbs :=
    Nat.ofDigitChars_ten_toDigits
  obtain ⟨c, cs, hdigits⟩ := List.exists_cons_of_length_pos
    (Nat.length_toDigits_pos (b := 10) (n := exponent.natAbs))
  rw [hdigits] at hall hvalue ⊢
  obtain ⟨hencode, hdigit, hfirst⟩ := encodeChar_digit (hall c List.mem_cons_self)
  rw [Nat.ofDigitChars_cons, Nat.mul_zero, Nat.zero_add] at hvalue
  have hread : exponentDigits (digitValue (UInt8.ofNat c.toNat)) (Utf8.encodeChars cs ++ rest) =
      (some exponent.natAbs, rest) := by
    rw [hfirst]
    change Nat.ofDigitChars 10 cs (c.toNat - 48) = _ at hvalue
    rw [exponentDigits_append (fun d hd ↦ hall d (List.mem_cons_of_mem _ hd))
      (by rw [hvalue]; exact hexponent) hrest, hvalue]
  have htext (sign : Char) : Utf8.encodeChars (sign :: c :: cs) ++ rest =
      Utf8.encodeChar sign ++ UInt8.ofNat c.toNat :: (Utf8.encodeChars cs ++ rest) := by
    simp only [Utf8.encodeChars, List.flatMap_cons, hencode, List.append_assoc,
      List.cons_append, List.nil_append]
  rw [htext]
  split
  · next hneg =>
    have hminus : Utf8.encodeChar '-' = [45] := rfl
    have hexp : start - (exponent.natAbs : Int) = start + exponent := by omega
    simp only [hminus, List.singleton_append, exponentPart, hdigit, if_true, hread,
      Bool.false_eq_true, if_false, hexp]
  · next hneg =>
    have hplus : Utf8.encodeChar '+' = [43] := rfl
    have hexp : start + (exponent.natAbs : Int) = start + exponent := by omega
    simp only [hplus, List.singleton_append, exponentPart, hdigit, if_true, hread, hexp]

theorem afterFraction_of_stops (hrest : Stops rest) :
    afterFraction negative significand exponent rest =
      scaled negative significand exponent rest := by
  unfold afterFraction
  split
  · next s => exact absurd rfl (hrest 101 rfl).2.2.1
  · next s => exact absurd rfl (hrest 69 rfl).2.2.2
  · rfl

/-! ## Positional decimals -/

/-- Digits with which a number may begin. -/
def Leads (cs : List Char) : Prop := cs = ['0'] ∨ ∃ c more, cs = c :: more ∧ c ≠ '0'

theorem number_of_leads (hlead : Leads cs) (hdigits : ∀ d ∈ cs, d.isDigit = true)
    (hfits : Nat.ofDigitChars 10 cs 0 ≤ greatestWord) (hrest : NoDigit rest) :
    number negative (Utf8.encodeChars cs ++ rest) =
      afterDigits negative (Nat.ofDigitChars 10 cs 0) rest := by
  rcases hlead with rfl | ⟨c, more, rfl, hc⟩
  · exact number_zero hrest
  · exact number_of_digits hdigits hc hfits hrest

/-- Whole digits, a point and digits of a fraction. -/
theorem number_of_fraction (negative : Bool) {whole fraction : List Char} (hlead : Leads whole)
    (hwhole : ∀ d ∈ whole, d.isDigit = true) (hfraction : ∀ d ∈ fraction, d.isDigit = true)
    (hne : fraction ≠ []) (hfits : Nat.ofDigitChars 10 (whole ++ fraction) 0 ≤ greatestWord)
    (hrest : NoDigit rest) :
    number negative (Utf8.encodeChars (whole ++ '.' :: fraction) ++ rest) =
      afterFraction negative (Nat.ofDigitChars 10 (whole ++ fraction) 0) (-fraction.length)
        rest := by
  have hpoint : Utf8.encodeChars ('.' :: fraction) = 46 :: Utf8.encodeChars fraction := rfl
  rw [Nat.ofDigitChars_append] at hfits ⊢
  have hless := (Numeral.le_ofDigitChars fraction (Nat.ofDigitChars 10 whole 0)).trans hfits
  calc number negative (Utf8.encodeChars (whole ++ '.' :: fraction) ++ rest)
    _ = number negative (Utf8.encodeChars whole ++
        46 :: (Utf8.encodeChars fraction ++ rest)) := by
      rw [encodeChars_append, hpoint, List.append_assoc, List.cons_append]
    _ = afterDigits negative (Nat.ofDigitChars 10 whole 0)
        (46 :: (Utf8.encodeChars fraction ++ rest)) :=
      number_of_leads hlead hwhole hless (noDigit_cons (by decide) _)
    _ = fractionDigits negative false (Nat.ofDigitChars 10 whole 0) 0
        (Utf8.encodeChars fraction ++ rest) := rfl
    _ = afterFraction negative (Nat.ofDigitChars 10 fraction (Nat.ofDigitChars 10 whole 0))
        (0 - fraction.length) rest :=
      fractionDigits_append hfraction hfits (.inr hne) hrest
    _ = _ := by rw [Int.zero_sub]

theorem leads_toDigits (hn : n ≠ 0) : Leads (Nat.toDigits 10 n) := by
  obtain ⟨c, more, hdigits, hc⟩ := exists_toDigits_eq_cons (Nat.pos_of_ne_zero hn)
  exact .inr ⟨c, more, hdigits, hc⟩

theorem Leads.append (hlead : Leads cs) (hne : cs ≠ ['0']) (more : List Char) :
    Leads (cs ++ more) := by
  rcases hlead with rfl | ⟨c, tail, rfl, hc⟩
  · contradiction
  · exact .inr ⟨c, tail ++ more, rfl, hc⟩

theorem ofDigitChars_toDigits_zeros (n count : Nat) :
    Nat.ofDigitChars 10 (Nat.toDigits 10 n ++ List.replicate count '0') 0 = n * 10 ^ count := by
  rw [Nat.ofDigitChars_append, Nat.ofDigitChars_ten_toDigits, Nat.ofDigitChars_replicate_zero,
    Nat.mul_comm]

/-- Whole digits with zeros behind them, and a zero behind the point. -/
theorem number_whole (count : Nat) (hn : n ≠ 0) (hfits : n * 10 ^ (count + 1) ≤ greatestWord)
    (hrest : NoDigit rest) :
    number negative (Utf8.encodeChars (Nat.toDigits 10 n ++ List.replicate count '0' ++
      ['.', '0']) ++ rest) = afterFraction negative (n * 10 ^ (count + 1)) (-1) rest := by
  have hvalue : Nat.ofDigitChars 10 (Nat.toDigits 10 n ++ List.replicate count '0' ++ ['0']) 0 =
      n * 10 ^ (count + 1) := by
    rw [List.append_assoc, ← List.replicate_succ', ofDigitChars_toDigits_zeros]
  have hne : Nat.toDigits 10 n ≠ ['0'] := by
    intro heq
    have hzero := congrArg (Nat.ofDigitChars 10 · 0) heq
    rw [Nat.ofDigitChars_ten_toDigits] at hzero
    exact hn hzero
  have hwhole : ∀ d ∈ Nat.toDigits 10 n ++ List.replicate count '0', d.isDigit = true := by
    intro d hd
    rcases List.mem_append.mp hd with hd | hd
    · exact Numeral.isDigit_of_mem_toDigits hd
    · exact Numeral.isDigit_of_mem_zeros hd
  have hzero : ∀ d ∈ ['0'], d.isDigit = true := by simp
  have hread := number_of_fraction negative ((leads_toDigits hn).append hne _)
    hwhole hzero (List.cons_ne_nil _ _) (hvalue.trans_le hfits) hrest
  rwa [hvalue] at hread

/-- Zeros behind the point before all digits. -/
theorem number_small (count : Nat) (hfits : n ≤ greatestWord) (hrest : NoDigit rest) :
    number negative (Utf8.encodeChars ('0' :: '.' :: (List.replicate count '0' ++
      Nat.toDigits 10 n)) ++ rest) =
        afterFraction negative n (-(count + (Nat.toDigits 10 n).length : Nat)) rest := by
  have hvalue : Nat.ofDigitChars 10 (['0'] ++ (List.replicate count '0' ++ Nat.toDigits 10 n)) 0 =
      n := by
    rw [Nat.ofDigitChars_append, Nat.ofDigitChars_append, Nat.ofDigitChars_replicate_zero]
    exact Nat.ofDigitChars_ten_toDigits
  have hfraction : ∀ d ∈ List.replicate count '0' ++ Nat.toDigits 10 n, d.isDigit = true := by
    intro d hd
    rcases List.mem_append.mp hd with hd | hd
    · exact Numeral.isDigit_of_mem_zeros hd
    · exact Numeral.isDigit_of_mem_toDigits hd
  have hne : List.replicate count '0' ++ Nat.toDigits 10 n ≠ [] := by simp
  have hread := number_of_fraction negative (.inl rfl) (by simp) hfraction hne
    (hvalue.trans_le hfits) hrest
  rwa [hvalue, List.length_append, List.length_replicate] at hread

/-- A point among the digits. -/
theorem number_split {count : Nat} (hn : n ≠ 0) (hfirst : 0 < count)
    (hcount : count < (Nat.toDigits 10 n).length) (hfits : n ≤ greatestWord)
    (hrest : NoDigit rest) :
    number negative (Utf8.encodeChars ((Nat.toDigits 10 n).take count ++
      '.' :: (Nat.toDigits 10 n).drop count) ++ rest) =
        afterFraction negative n (-((Nat.toDigits 10 n).length - count : Nat)) rest := by
  have hlead : Leads ((Nat.toDigits 10 n).take count) := by
    obtain ⟨c, more, hdigits, hc⟩ := exists_toDigits_eq_cons (Nat.pos_of_ne_zero hn)
    obtain ⟨count, rfl⟩ := Nat.exists_eq_add_of_le' hfirst
    rw [hdigits]
    exact .inr ⟨c, more.take count, rfl, hc⟩
  have hvalue : Nat.ofDigitChars 10 ((Nat.toDigits 10 n).take count ++
      (Nat.toDigits 10 n).drop count) 0 = n := by
    rw [List.take_append_drop]
    exact Nat.ofDigitChars_ten_toDigits
  have hne : (Nat.toDigits 10 n).drop count ≠ [] := by
    apply List.ne_nil_of_length_pos
    rw [List.length_drop]
    omega
  have hread := number_of_fraction negative hlead
    (fun d hd ↦ Numeral.isDigit_of_mem_toDigits (List.mem_of_mem_take hd))
    (fun d hd ↦ Numeral.isDigit_of_mem_toDigits (List.mem_of_mem_drop hd)) hne
    (hvalue.trans_le hfits) hrest
  rwa [hvalue, List.length_drop] at hread

/-! ## Decimals with an exponent -/

/-- One digit, the others behind a point, and an exponent. -/
theorem number_exponential (hn : n ≠ 0) (hfits : n ≤ greatestWord)
    (hexponent : ((Nat.toDigits 10 n).length + exponent - 1).natAbs ≤ Numeral.greatest 31)
    (hrest : NoDigit rest) :
    number negative (Utf8.encodeChars (Decimal.exponential (Nat.toDigits 10 n)
      ((Nat.toDigits 10 n).length + exponent)) ++ rest) = scaled negative n exponent rest := by
  have hvalue : Nat.ofDigitChars 10 (Nat.toDigits 10 n) 0 = n := Nat.ofDigitChars_ten_toDigits
  have hall : ∀ c ∈ Nat.toDigits 10 n, c.isDigit = true :=
    fun c hc ↦ Numeral.isDigit_of_mem_toDigits hc
  have hpart (start : Int) := exponentPart_signed negative n start hexponent hrest
  obtain ⟨d, more, hdigits, hd⟩ := exists_toDigits_eq_cons (Nat.pos_of_ne_zero hn)
  rw [hdigits] at hvalue hall
  have hlength : (Nat.toDigits 10 n).length = more.length + 1 := by rw [hdigits, List.length_cons]
  unfold Decimal.exponential
  rw [hdigits] at hpart ⊢
  dsimp only at hpart ⊢
  generalize hpower : ((d :: more).length + exponent - 1 : Int) = power at hpart ⊢
  rw [List.length_cons] at hpower
  generalize (if power < 0 then '-' else '+') :: Nat.toDigits 10 power.natAbs = tail at hpart ⊢
  have hletter : NoDigit (101 :: (Utf8.encodeChars tail ++ rest)) := noDigit_cons (by decide) _
  have hencode (cs : List Char) : Utf8.encodeChars (cs ++ 'e' :: tail) ++ rest =
      Utf8.encodeChars cs ++ 101 :: (Utf8.encodeChars tail ++ rest) := by
    rw [encodeChars_append, List.append_assoc]
    rfl
  cases more with
  | nil =>
    have hstart : 0 + power = exponent := by
      rw [← hpower, List.length_nil]
      omega
    calc number negative (Utf8.encodeChars ([d] ++ 'e' :: tail) ++ rest)
      _ = number negative (Utf8.encodeChars [d] ++ 101 :: (Utf8.encodeChars tail ++ rest)) := by
        rw [hencode]
      _ = afterDigits negative n (101 :: (Utf8.encodeChars tail ++ rest)) := by
        rw [number_of_digits hall hd (hvalue.trans_le hfits) hletter, hvalue]
      _ = scaled negative n (0 + power) rest := hpart 0
      _ = scaled negative n exponent rest := by rw [hstart]
  | cons d' more =>
    have hstart : -((d' :: more).length : Int) + power = exponent := by
      rw [← hpower]
      push_cast
      omega
    calc number negative (Utf8.encodeChars (d :: '.' :: d' :: more ++ 'e' :: tail) ++ rest)
      _ = number negative (Utf8.encodeChars ([d] ++ '.' :: d' :: more) ++
          101 :: (Utf8.encodeChars tail ++ rest)) := by
        rw [hencode]
        rfl
      _ = afterFraction negative n (-(d' :: more).length)
          (101 :: (Utf8.encodeChars tail ++ rest)) := by
        rw [number_of_fraction negative (.inr ⟨d, [], rfl, hd⟩)
          (fun c hc ↦ hall c (List.mem_cons.mpr (.inl (List.mem_singleton.mp hc))))
          (fun c hc ↦ hall c (List.mem_cons_of_mem _ hc)) (List.cons_ne_nil _ _)
          (hvalue.trans_le hfits) hletter, List.singleton_append, hvalue]
      _ = scaled negative n (-(d' :: more).length + power) rest := hpart _
      _ = scaled negative n exponent rest := by rw [hstart]

/-! ## Shortest decimals -/

/-- The significand and the exponent that reading the written form of a decimal comes to.  A whole
number of at most sixteen digits is written with a zero behind the point. -/
def taken (d : Decimal) : Decimal :=
  if 0 ≤ d.exponent ∧ (Nat.toDigits 10 d.digits).length + d.exponent ≤ 16 then
    ⟨d.digits * 10 ^ (d.exponent.toNat + 1), -1⟩
  else d

theorem taken_of_neg {d : Decimal} (hneg : d.exponent < 0) : taken d = d :=
  if_neg fun h ↦ absurd h.1 (not_le.mpr hneg)

/-- At most sixteen digits and a zero behind the point. -/
theorem mul_pow_le {count : Nat} (hlength : (Nat.toDigits 10 n).length + count ≤ 16) :
    n * 10 ^ (count + 1) ≤ 10 ^ 17 := by
  have hn : n < 10 ^ (Nat.toDigits 10 n).length :=
    (Nat.length_toDigits_le_iff (by decide) Nat.length_toDigits_pos).mp le_rfl
  calc n * 10 ^ (count + 1)
    _ ≤ 10 ^ (Nat.toDigits 10 n).length * 10 ^ (count + 1) := Nat.mul_le_mul_right _ hn.le
    _ = 10 ^ ((Nat.toDigits 10 n).length + (count + 1)) := (Nat.pow_add _ _ _).symm
    _ ≤ 10 ^ 17 := Nat.pow_le_pow_right (by decide) (by omega)

theorem number_pointed {d : Decimal} (hshort : d.IsShort)
    (hlow : -5 < (Nat.toDigits 10 d.digits).length + d.exponent)
    (hhigh : (Nat.toDigits 10 d.digits).length + d.exponent ≤ 16) (hrest : NoDigit rest) :
    number negative (Utf8.encodeChars (Decimal.pointed (Nat.toDigits 10 d.digits)
      ((Nat.toDigits 10 d.digits).length + d.exponent)) ++ rest) =
        afterFraction negative (taken d).digits (taken d).exponent rest := by
  obtain ⟨n, e⟩ := d
  obtain ⟨hne, hle, _⟩ := hshort
  dsimp only at hlow hhigh hne hle ⊢
  have hword : 10 ^ 17 ≤ greatestWord := by decide
  have hpositive : 0 < (Nat.toDigits 10 n).length := Nat.length_toDigits_pos
  unfold Decimal.pointed
  split
  · next hwhole =>
    obtain ⟨count, rfl⟩ : ∃ count : Nat, e = count := Int.eq_ofNat_of_zero_le (by omega)
    have hfits : n * 10 ^ (count + 1) ≤ greatestWord := (mul_pow_le (by omega)).trans hword
    have htaken : taken ⟨n, count⟩ = ⟨n * 10 ^ (count + 1), -1⟩ := by
      rw [taken, if_pos ⟨Int.natCast_nonneg count, hhigh⟩, Int.toNat_natCast]
    have hzeros : ((Nat.toDigits 10 n).length + (count : Int)).toNat - (Nat.toDigits 10 n).length =
        count := by omega
    rw [Decimal.positional, if_neg (by omega), if_pos (by omega), hzeros, htaken]
    exact number_whole count hne hfits hrest
  · next hpoint =>
    rw [taken_of_neg (by dsimp only; omega), Decimal.positional]
    split
    · next hsmall =>
      generalize hcount : (-((Nat.toDigits 10 n).length + e)).toNat = count
      have hexponent : -(count + (Nat.toDigits 10 n).length : Nat) = e := by omega
      rw [number_small count (hle.trans hword) hrest, hexponent]
    · next hsome =>
      generalize hcount : ((Nat.toDigits 10 n).length + e).toNat = count
      have hexponent : -((Nat.toDigits 10 n).length - count : Nat) = e := by omega
      rw [if_neg (by omega), number_split hne (by omega) (by omega) (hle.trans hword) hrest,
        hexponent]

/-- The written form of a magnitude is read as one scaling of its shortest decimal. -/
theorem number_scientific (m : Magnitude) (hrest : Stops rest) :
    number negative (Utf8.encodeChars m.scientific ++ rest) =
      scaled negative (taken (m.shortest .toEven)).digits (taken (m.shortest .toEven)).exponent
        rest := by
  have hword : 10 ^ 17 ≤ greatestWord := by decide
  unfold Magnitude.scientific
  dsimp only
  rcases eq_or_ne m.place 0 with hzero | hm
  · have hdigit : ∀ d ∈ ['0'], d.isDigit = true := by simp
    rw [Magnitude.shortest_of_zero .toEven hzero, ← afterFraction_of_stops hrest]
    exact number_of_fraction negative (.inl rfl) hdigit hdigit (List.cons_ne_nil _ _) (by decide)
      hrest.noDigit
  · obtain ⟨hshort, _⟩ := Magnitude.shortest_spec .toEven hm
    generalize m.shortest .toEven = d at hshort ⊢
    split
    · next hplain =>
      rw [number_pointed hshort hplain.1 hplain.2 hrest.noDigit, afterFraction_of_stops hrest]
    · next hfar =>
      have hlength : (Nat.toDigits 10 d.digits).length ≤ 18 := by
        apply (Nat.length_toDigits_le_iff (by decide) (by decide)).mpr
        exact hshort.digits_le.trans_lt (by decide)
      have hpositive : 0 < (Nat.toDigits 10 d.digits).length := Nat.length_toDigits_pos
      have hlimit : 2018 ≤ Numeral.greatest 31 := by decide
      have hexponent := hshort.exponent_le
      have htaken : taken d = d := if_neg fun h ↦ hfar ⟨by omega, h.2⟩
      rw [htaken]
      exact number_exponential hshort.digits_ne_zero (hshort.digits_le.trans hword) (by omega)
        hrest.noDigit

end Courier.Json.Reader
