import Courier.Proofs.Report.RoundTrip
import Courier.Proofs.Text.Order

/-!
# The order of identifiers

An identifier is a number of 128 bits with the time on top, so that identifiers stand in the order
of the times they were made at.  Their texts have digits of a fixed count, from the most significant
one on, in an alphabet that ascends, and therefore stand in the same order.
-/

namespace Courier

/-! ## Lists of one length -/

/-- What follows lists of one length does not matter to their order. -/
theorem append_lt_append_of_length_eq {α : Type} [LT α] {xs ys : List α}
    (hlength : xs.length = ys.length) (hless : xs < ys) (more others : List α) :
    xs ++ more < ys ++ others := by
  induction hless with
  | nil => exact absurd hlength (by simp)
  | rel hhead => exact .rel hhead
  | cons _ ih => exact .cons (ih (Nat.succ.inj hlength))

namespace Ulid

variable {count n m : Nat} {u v : Ulid}

/-! ## Digits -/

theorem digitChar_lt_digitChar : ∀ e < 32, ∀ d < e, digitChar d < digitChar e := by
  decide +kernel

/-- Numbers that differ above their last digits stand in the order of what is above. -/
theorem digits_lt_digits (hless : n < m) (hm : m < 32 ^ count) :
    digits count n < digits count m := by
  induction count generalizing n m with
  | zero => exact absurd (Nat.lt_one_iff.mp hm) (Nat.ne_of_gt (Nat.zero_lt_of_lt hless))
  | succ count ih =>
    have hupper : m / 32 < 32 ^ count := by
      apply Nat.div_lt_of_lt_mul
      rwa [Nat.mul_comm, ← Nat.pow_succ]
    rw [digits, digits]
    rcases (Nat.div_le_div_right hless.le : n / 32 ≤ m / 32).lt_or_eq with habove | habove
    · apply append_lt_append_of_length_eq _ (ih habove hupper)
      rw [length_digits, length_digits]
    · rw [habove]
      apply List.append_left_lt
      have hlast : n % 32 < m % 32 := by omega
      exact .rel (digitChar_lt_digitChar _ (Nat.mod_lt _ (by decide)) _ hlast)

theorem escapeChar_of_mem_digits {c : Char} (hc : c ∈ digits count n) :
    Json.escapeChar c = [c] := by
  have hplain : ∀ d < 32, Json.escapeChar (digitChar d) = [digitChar d] := by
    decide +kernel
  induction count generalizing n with
  | zero => simp [digits] at hc
  | succ count ih =>
    rw [digits] at hc
    rcases List.mem_append.mp hc with hc | hc
    · exact ih hc
    · rw [List.mem_singleton.mp hc]
      exact hplain _ (Nat.mod_lt _ (by decide))

/-! ## Texts -/

theorem lt_iff_toNat_lt : u < v ↔ u.value.toNat < v.value.toNat := Iff.rfl

theorem length_chars (u : Ulid) : u.chars.length = 26 := length_digits 26 _

theorem chars_lt_chars (hless : u < v) : u.chars < v.chars :=
  digits_lt_digits (lt_iff_toNat_lt.mp hless) (v.value.isLt.trans (by decide))

theorem eq_of_text_eq (htext : u.text = v.text) : u = v := by
  have hread := u.read_text
  rw [htext, v.read_text] at hread
  exact (Except.ok.inj hread).symm

/-- No digit is escaped. -/
theorem chars_string_text (u : Ulid) : (Json.string u.text).chars = '"' :: u.chars ++ ['"'] := by
  have hplain : u.chars.flatMap Json.escapeChar = u.chars := by
    conv_rhs => rw [← List.flatMap_singleton' u.chars]
    exact List.flatMap_congr fun c hc ↦ escapeChar_of_mem_digits hc
  rw [Json.chars, Json.stringChars, text, String.toList_ofList, hplain]

end Ulid

namespace Id

variable {subject : Subject} {u v : Ulid} {a b : Id subject} {earlier later now : Timestamp}

theorem lt_iff_toNat_lt : a < b ↔ a.ulid.value.toNat < b.ulid.value.toNat := Iff.rfl

/-! ## The order of texts -/

/-- ULIDs are ordered one way or the other, so that a text that keeps their order also shows it. -/
theorem text_lt_iff (textOf : Ulid → String) (hkeeps : ∀ u v, u < v → textOf u < textOf v)
    (a b : Id subject) : textOf a.ulid < textOf b.ulid ↔ a < b := by
  refine ⟨fun htext ↦ ?_, hkeeps _ _⟩
  rcases lt_trichotomy a.ulid.value.toNat b.ulid.value.toNat with hless | hsame | hmore
  · exact hless
  · have hulid : a.ulid = b.ulid := by
      rw [← a.ulid.ofNat_toNat, hsame, b.ulid.ofNat_toNat]
    rw [hulid] at htext
    exact absurd htext (lt_irrefl _)
  · exact absurd htext (lt_asymm (hkeeps _ _ hmore))

theorem ulidText_lt (hless : u < v) : u.text < v.text := by
  rw [String.lt_iff_toList_lt, Ulid.text, Ulid.text, String.toList_ofList, String.toList_ofList]
  exact Ulid.chars_lt_chars hless

theorem jsonText_lt (hless : u < v) : (Json.string u.text).text < (Json.string v.text).text := by
  rw [String.lt_iff_toList_lt, Json.text, Json.text, String.toList_ofList, String.toList_ofList,
    Ulid.chars_string_text, Ulid.chars_string_text]
  apply append_lt_append_of_length_eq
  · rw [List.length_cons, List.length_cons, Ulid.length_chars, Ulid.length_chars]
  · exact .cons (Ulid.chars_lt_chars hless)

theorem text_lt (hless : u < v) : (⟨u⟩ : Id subject).text < (⟨v⟩ : Id subject).text := by
  have htext := String.lt_iff_toList_lt.mp (ulidText_lt hless)
  rw [String.lt_iff_toList_lt]
  cases subject with
  | run =>
    rw [Id.text, Id.text, String.toList_append, String.toList_append]
    exact List.append_left_lt htext
  | attempt =>
    rw [Id.text, Id.text, String.toList_append, String.toList_append]
    exact List.append_left_lt htext

/-! ## Times -/

/-- The number of an identifier made within the range of 48 bits. -/
theorem toNat_mint (hnow : 0 ≤ now.unixMillis) (hrange : now.unixMillis ≤ 2 ^ 48 - 1) (bits : Nat) :
    (mint now bits : Id subject).ulid.value.toNat =
      now.unixMillis.toNat * 2 ^ 80 + bits % 2 ^ 80 := by
  have hmillis : now.unixMillis.toNat < 2 ^ 48 := by omega
  have hbits : bits % 2 ^ 80 < 2 ^ 80 := Nat.mod_lt _ (by decide)
  have hvalue : now.unixMillis.toNat * 2 ^ 80 + bits % 2 ^ 80 < 2 ^ 128 := by omega
  change (BitVec.ofNat 128 (now.unixMillis.toNat % 2 ^ 48 * 2 ^ 80 + bits % 2 ^ 80)).toNat = _
  rw [Nat.mod_eq_of_lt hmillis, BitVec.toNat_ofNat, Nat.mod_eq_of_lt hvalue]

/-- Whatever the bits below the time are, a later millisecond makes a greater identifier. -/
theorem mint_lt_mint (hearlier : 0 ≤ earlier.unixMillis)
    (hless : earlier.unixMillis < later.unixMillis) (hlater : later.unixMillis ≤ 2 ^ 48 - 1)
    (bits others : Nat) : (mint earlier bits : Id subject) < mint later others := by
  have hbits : bits % 2 ^ 80 < 2 ^ 80 := Nat.mod_lt _ (by decide)
  have hstep : earlier.unixMillis.toNat + 1 ≤ later.unixMillis.toNat := by omega
  rw [lt_iff_toNat_lt, toNat_mint hearlier (by omega), toNat_mint (by omega) hlater]
  calc earlier.unixMillis.toNat * 2 ^ 80 + bits % 2 ^ 80
    _ < (earlier.unixMillis.toNat + 1) * 2 ^ 80 := by omega
    _ ≤ later.unixMillis.toNat * 2 ^ 80 := Nat.mul_le_mul_right _ hstep
    _ ≤ later.unixMillis.toNat * 2 ^ 80 + others % 2 ^ 80 := Nat.le_add_right _ _

theorem readAs_text (a : Id subject) :
    Json.readAs reader (Json.string a.ulid.text).bytes = .ok a := by
  have htakes := a.reader_takes [] Json.stops_nil
  rw [List.append_nil] at htakes
  rw [Json.readAs, htakes]
  rfl

/-- Identifiers made at different milliseconds stand in the order of their times, and all
identifiers stand in the order of their numbers and of their texts, from which they are read
back. -/
theorem identifiers_sort_by_time (subject : Subject) :
    (∀ (earlier later : Timestamp) (bits others : Nat), 0 ≤ earlier.unixMillis →
      earlier.unixMillis < later.unixMillis → later.unixMillis ≤ 2 ^ 48 - 1 →
      (mint earlier bits : Id subject) < mint later others ∧
        (mint earlier bits : Id subject).text < (mint later others : Id subject).text) ∧
    ∀ a b : Id subject,
      (a < b ↔ a.ulid.value.toNat < b.ulid.value.toNat) ∧
      (a.ulid.text < b.ulid.text ↔ a < b) ∧
      ((Json.string a.ulid.text).text < (Json.string b.ulid.text).text ↔ a < b) ∧
      (a.text < b.text ↔ a < b) ∧
      (a.ulid.value ≠ b.ulid.value → a.ulid.text ≠ b.ulid.text) ∧
      a.ulid.text.length = 26 ∧ Ulid.read a.ulid.text = .ok a.ulid ∧
      Json.readAs reader (Json.string a.ulid.text).bytes = .ok a := by
  constructor
  · intro earlier later bits others hearlier hless hlater
    have hminted : (mint earlier bits : Id subject) < mint later others :=
      mint_lt_mint hearlier hless hlater bits others
    exact ⟨hminted, text_lt hminted⟩
  · intro a b
    refine ⟨lt_iff_toNat_lt, text_lt_iff _ (fun _ _ ↦ ulidText_lt) a b,
      text_lt_iff _ (fun _ _ ↦ jsonText_lt) a b,
      text_lt_iff (fun u ↦ (⟨u⟩ : Id subject).text) (fun _ _ ↦ text_lt) a b, ?_, ?_,
      a.ulid.read_text, a.readAs_text⟩
    · intro hvalue htext
      exact hvalue (congrArg Ulid.value (Ulid.eq_of_text_eq htext))
    · rw [Ulid.text, String.length_ofList, Ulid.length_chars]

/-- The last two milliseconds that fit, the first with all bits set and the second with none. -/
theorem identifiers_sort_by_time_last :
    0 ≤ (Timestamp.ofUnixMillis (2 ^ 48 - 2)).unixMillis ∧
      (Timestamp.ofUnixMillis (2 ^ 48 - 2)).unixMillis <
        (Timestamp.ofUnixMillis (2 ^ 48 - 1)).unixMillis ∧
      (Timestamp.ofUnixMillis (2 ^ 48 - 1)).unixMillis ≤ 2 ^ 48 - 1 ∧
      (mint (.ofUnixMillis (2 ^ 48 - 2)) (2 ^ 80 - 1) : RunId) <
        mint (.ofUnixMillis (2 ^ 48 - 1)) 0 ∧
      (mint (.ofUnixMillis (2 ^ 48 - 2)) (2 ^ 80 - 1) : RunId).text <
        (mint (.ofUnixMillis (2 ^ 48 - 1)) 0 : RunId).text := by
  have hearlier : 0 ≤ (Timestamp.ofUnixMillis (2 ^ 48 - 2)).unixMillis := by decide
  have hless : (Timestamp.ofUnixMillis (2 ^ 48 - 2)).unixMillis <
      (Timestamp.ofUnixMillis (2 ^ 48 - 1)).unixMillis := by decide
  have hlater : (Timestamp.ofUnixMillis (2 ^ 48 - 1)).unixMillis ≤ 2 ^ 48 - 1 := by decide
  exact ⟨hearlier, hless, hlater,
    (identifiers_sort_by_time .run).1 _ _ (2 ^ 80 - 1) 0 hearlier hless hlater⟩

end Id

end Courier
