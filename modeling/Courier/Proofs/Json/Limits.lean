import Courier.Proofs.Json.Reread

/-!
# Limits of values that are read

A value that was read has no more containers inside each other than the reader has room for, and its
integers have 64 bits.
-/

namespace Courier.Json.Reader

variable {negative read : Bool} {significand : Nat} {exponent : Int} {n : Number} {s rest : Bytes}
  {room : Nat} {v : Json}

/-! ## Readers that succeed -/

theorem exists_of_bind_eq_ok {ε α β : Type} {x : Except ε α} {f : α → Except ε β} {b : β}
    (h : x >>= f = .ok b) : ∃ a, x = .ok a ∧ f a = .ok b := by
  cases x with
  | error => cases h
  | ok a => exact ⟨a, rfl, h⟩

theorem exists_of_map_eq_ok {ε α β : Type} {x : Except ε α} {f : α → β} {b : β}
    (h : x.map f = .ok b) : ∃ a, x = .ok a ∧ f a = b := by
  cases x with
  | error => cases h
  | ok a => exact ⟨a, rfl, Except.ok.inj h⟩

/-! ## Numbers -/

def IsReal (n : Number) : Prop := ∃ negative m, n = .real negative m

theorem isReal_of_scaled (h : scaled negative significand exponent s = .ok (n, rest)) :
    IsReal n := by
  unfold scaled at h
  split at h
  · cases h
    exact ⟨_, _, rfl⟩
  · cases h

theorem isReal_of_exponentPart (h : exponentPart negative significand exponent s = .ok (n, rest)) :
    IsReal n := by
  unfold exponentPart at h
  dsimp only at h
  split at h
  · cases h
  split at h
  · split at h
    · exact isReal_of_scaled h
    · rcases ite_eq_iff.mp h with ⟨_, h⟩ | ⟨_, h⟩
      · cases h
      · cases h
        exact ⟨_, _, rfl⟩
  · cases h

theorem isReal_of_afterFraction
    (h : afterFraction negative significand exponent s = .ok (n, rest)) : IsReal n := by
  unfold afterFraction at h
  split at h
  · exact isReal_of_exponentPart h
  · exact isReal_of_exponentPart h
  · exact isReal_of_scaled h

theorem isReal_of_fractionDigits
    (h : fractionDigits negative read significand exponent s = .ok (n, rest)) : IsReal n := by
  induction s generalizing read significand exponent with
  | nil =>
    unfold fractionDigits at h
    split at h
    · exact isReal_of_scaled h
    · cases h
  | cons b s ih =>
    unfold fractionDigits at h
    dsimp only at h
    split at h
    · split at h
      · exact ih h
      · exact isReal_of_afterFraction h
    split at h
    · exact isReal_of_afterFraction h
    · cases h

theorem isReal_of_droppedDigits
    (h : droppedDigits negative significand exponent s = .ok (n, rest)) : IsReal n := by
  induction s generalizing exponent with
  | nil => exact isReal_of_scaled h
  | cons b s ih =>
    unfold droppedDigits at h
    split at h
    · exact ih h
    split at h
    · exact isReal_of_fractionDigits h
    · exact isReal_of_afterFraction h

theorem IsReal.fits (hreal : IsReal n) (room : Nat) : Fits room (.number n) := by
  obtain ⟨negative, m, rfl⟩ := hreal
  exact .real room negative m

theorem fits_of_afterDigits (hword : significand ≤ greatestWord)
    (h : afterDigits negative significand s = .ok (n, rest)) : Fits room (.number n) := by
  have hgreatest : greatestWord = 2 ^ 64 - 1 := rfl
  unfold afterDigits at h
  split at h
  · exact (isReal_of_fractionDigits h).fits room
  · exact (isReal_of_exponentPart h).fits room
  · exact (isReal_of_exponentPart h).fits room
  · split at h
    · split at h
      · exact (isReal_of_scaled h).fits room
      · cases h
        exact .integer room (by omega) (by omega)
    · cases h
      exact .integer room (by omega) (by omega)

theorem fits_of_wholeDigits (hword : significand ≤ greatestWord)
    (h : wholeDigits negative significand s = .ok (n, rest)) : Fits room (.number n) := by
  induction s generalizing significand with
  | nil => exact fits_of_afterDigits hword h
  | cons b s ih =>
    unfold wholeDigits at h
    dsimp only at h
    split at h
    · split at h
      · next hfits => exact ih hfits h
      · exact (isReal_of_droppedDigits h).fits room
    · exact fits_of_afterDigits hword h

theorem fits_of_number (h : number negative s = .ok (n, rest)) : Fits room (.number n) := by
  have hzero : 0 ≤ greatestWord := Nat.zero_le _
  unfold number at h
  split at h
  · cases h
  split at h
  · split at h
    · exact fits_of_afterDigits hzero h
    split at h
    · cases h
    · exact fits_of_afterDigits hzero h
  split at h
  · next b s hb hdigit =>
    have hbyte : b.toNat < 256 := b.toNat_lt
    have hvalue : digitValue b ≤ greatestWord :=
      le_trans (by unfold digitValue; omega) (by decide : 256 ≤ greatestWord)
    exact fits_of_wholeDigits hvalue h
  · cases h

/-! ## Lists and objects -/

/-- What holds of every part that is read holds of all parts in the loop. -/
theorem forall_of_parts {β : Type} {p : β → Prop}
    {next : Bool → Bytes → Except Fault (Bool × Bytes)} {part : Reader β}
    (hpart : ∀ s a rest, part s = .ok (a, rest) → p a) {fuel : Nat} {first : Bool} {found : List β}
    (h : parts next part fuel first s = .ok (found, rest)) : ∀ a ∈ found, p a := by
  induction fuel generalizing first s found with
  | zero =>
    cases h
    simp
  | succ fuel ih =>
    rw [parts] at h
    obtain ⟨⟨more, s⟩, _, h⟩ := exists_of_bind_eq_ok h
    cases more with
    | false =>
      cases h
      simp
    | true =>
      obtain ⟨⟨a, s⟩, ha, h⟩ := exists_of_bind_eq_ok h
      obtain ⟨⟨found, s⟩, hfound, h⟩ := exists_of_bind_eq_ok h
      cases h
      intro b hb
      rcases List.mem_cons.mp hb with rfl | hb
      · exact hpart _ _ _ ha
      · exact ih hfound b hb

/-! ## Values -/

theorem fits_of_scalar (h : value.scalar s = .ok (v, rest)) : Fits room v := by
  unfold value.scalar at h
  split at h
  · cases h
  split at h
  · obtain ⟨_, _, h⟩ := exists_of_map_eq_ok h
    cases h
    exact .null room
  · obtain ⟨_, _, h⟩ := exists_of_map_eq_ok h
    cases h
    exact .bool room true
  · obtain ⟨_, _, h⟩ := exists_of_map_eq_ok h
    cases h
    exact .bool room false
  · obtain ⟨_, hnumber, h⟩ := exists_of_map_eq_ok h
    cases h
    exact fits_of_number hnumber
  · obtain ⟨_, _, h⟩ := exists_of_map_eq_ok h
    cases h
    exact .string room _
  · cases h
  · cases h
  split at h
  · obtain ⟨_, hnumber, h⟩ := exists_of_map_eq_ok h
    cases h
    exact fits_of_number hnumber
  · cases h

/-- A value that was read lies within the limits of the reader. -/
theorem fits_of_value (h : value room s = .ok (v, rest)) : Fits room v := by
  induction room generalizing s v rest with
  | zero => exact fits_of_scalar h
  | succ room ih =>
    unfold value at h
    split at h
    · obtain ⟨⟨found, s⟩, hitems, h⟩ := exists_of_bind_eq_ok h
      obtain ⟨_, _, h⟩ := exists_of_bind_eq_ok h
      cases h
      rw [items_eq_parts] at hitems
      exact .array (forall_of_parts (fun _ _ _ hvalue ↦ ih hvalue) hitems)
    · obtain ⟨⟨found, s⟩, hmembers, h⟩ := exists_of_bind_eq_ok h
      obtain ⟨_, _, h⟩ := exists_of_bind_eq_ok h
      cases h
      rw [members_eq_parts] at hmembers
      have hmember : ∀ s m rest, member (value room) s = .ok (m, rest) → Fits room m.2 := by
        intro s m rest h
        obtain ⟨_, _, h⟩ := exists_of_bind_eq_ok h
        obtain ⟨_, _, h⟩ := exists_of_bind_eq_ok h
        obtain ⟨_, hvalue, h⟩ := exists_of_bind_eq_ok h
        cases h
        exact ih hvalue
      exact .object (forall_of_parts hmember hmembers)
    · exact fits_of_scalar h

theorem fits_of_read (h : Json.read s = .ok v) : Fits nesting v := by
  obtain ⟨_, hvalue, h⟩ := exists_of_bind_eq_ok h
  obtain ⟨_, _, h⟩ := exists_of_bind_eq_ok h
  cases h
  exact fits_of_value hvalue

end Courier.Json.Reader
