import Courier.Json.Shape
import Courier.Proofs.Json.Reread

/-!
# Reading printed values of a fixed shape

The readers for texts, whole numbers, variants, lists and records take up what is printed for them,
wherever it stands.  A record is filled field by field in the order of its members.
-/

namespace Courier.Json.Reader

variable {α σ : Type} {lead rest tail : Bytes} {first : Bool} {m : Member} {members : List Member}
  {reader : Reader α} {v : Json} {a b : α}

/-- A reader takes up the printed text of a value as `a`. -/
def Takes (reader : Reader α) (v : Json) (a : α) : Prop :=
  ∀ rest, Stops rest → reader (v.bytes ++ rest) = .ok (a, rest)

theorem Takes.unique (ha : Takes reader v a) (hb : Takes reader v b) : a = b := by
  have heq := (ha [] stops_nil).symm.trans (hb [] stops_nil)
  cases heq
  rfl

/-! ## Single values -/

theorem text_takes (expected t : String) : Takes (text expected) (.string t) t := by
  intro rest _
  obtain ⟨body, hbytes, hbody⟩ := (stringSpells_stringChars t).exists_body
  have hbytes : (Json.string t).bytes = 34 :: body := hbytes
  rw [hbytes, List.cons_append, text, skipSpace_cons (by decide)]
  exact (if_pos rfl).trans (hbody rest)

theorem whole_takes (expected : String) {limit n : Nat} (hn : n ≤ limit)
    (hword : n ≤ greatestWord) : Takes (whole expected limit) (.number (.integer n)) n := by
  intro rest hrest
  obtain ⟨b, s, hbytes, hdigit⟩ := exists_encode_toDigits n
  have hbytes : (Json.number (.integer n)).bytes = b :: s := hbytes
  have hnumber : Reader.number false (b :: (s ++ rest)) = .ok (.integer n, rest) := by
    rw [← List.cons_append, ← hbytes]
    exact (number_of_toDigits hword hrest.noDigit).trans (afterDigits_of_stops hrest n)
  have hminus : b ≠ 45 := by
    rintro rfl
    exact absurd hdigit (by decide)
  rw [hbytes, List.cons_append, whole, skipSpace_cons (digit_begins hdigit).1]
  dsimp only
  rw [if_neg hminus, if_pos hdigit, hnumber]
  simp only [bind, Except.bind]
  rw [if_pos ⟨Int.natCast_nonneg n, by exact_mod_cast hn⟩, Int.toNat_natCast]

/-- Only null begins as null does. -/
theorem Takes.optional (htakes : Takes reader v a) (hhead : ∀ b ∈ v.bytes.head?, b ≠ 110) :
    Takes (optional reader) v (some a) := by
  intro rest hrest
  obtain ⟨b, s, hbytes, hspace, _⟩ := exists_head_bytes v
  have hread := htakes rest hrest
  have hb : b ≠ 110 := hhead b (by rw [hbytes]; rfl)
  rw [hbytes, List.cons_append] at hread ⊢
  rw [Reader.optional, skipSpace_cons hspace]
  split
  · next heq =>
    cases heq
    contradiction
  · rw [hread]
    rfl

theorem optional_text_takes (expected t : String) :
    Takes (optional (text expected)) (.string t) (some t) := by
  apply (text_takes expected t).optional
  rintro b ⟨⟩
  decide

theorem optional_whole_takes (expected : String) {limit n : Nat} (hn : n ≤ limit)
    (hword : n ≤ greatestWord) :
    Takes (optional (whole expected limit)) (.number (.integer n)) (some n) := by
  apply (whole_takes expected hn hword).optional
  obtain ⟨b, s, hbytes, hdigit⟩ := exists_encode_toDigits n
  have hbytes : (Json.number (.integer n)).bytes = b :: s := hbytes
  rw [hbytes]
  rintro _ ⟨⟩ rfl
  exact absurd hdigit (by decide)

theorem identifier_takes {variants : List (String × α)} {name : String}
    (hname : named variants name = .ok a) : Takes (identifier variants) (.string name) a := by
  intro rest hrest
  rw [identifier, text_takes "variant identifier" name rest hrest]
  simp only [bind, Except.bind, hname]

theorem variant_takes {variants : List (String × α)} {name : String}
    (hname : named variants name = .ok a) : Takes (variant variants) (.string name) a := by
  intro rest hrest
  have hread := identifier_takes hname rest hrest
  obtain ⟨body, hbytes, _⟩ := (stringSpells_stringChars name).exists_body
  have hbytes : (Json.string name).bytes = 34 :: body := hbytes
  rw [hbytes, List.cons_append] at hread ⊢
  rw [variant, skipSpace_cons (by decide)]
  exact (if_pos rfl).trans hread

/-! ## Lists -/

/-- A list is taken up if each of its items is. -/
theorem list_takes {item : Reader α} {json : α → Json} {l : List α}
    (hitems : ∀ a ∈ l, Takes item (json a) a) : Takes (list item) (.array (l.map json)) l := by
  intro rest _
  have hall : List.Forall₂ (Takes item) (l.map json) l :=
    List.forall₂_map_left_iff.mpr (List.forall₂_same.mpr hitems)
  obtain ⟨text, hlisted, htext⟩ := exists_listed_items (l.map json)
  have hparts : ∀ v ∈ l.map json, ∀ text, text = v.bytes →
      TakenUp nextItem item (Takes item v) text := by
    rintro v hv _ rfl
    obtain ⟨a, _, ha⟩ := exists_of_forall₂ hall v hv
    obtain ⟨b, s, hbytes, hspace, hclose⟩ := exists_head_bytes v
    refine ⟨v.bytes, ?_, fun rest hrest ↦ ⟨a, ha, ha rest hrest⟩⟩
    intro first lead before tail hlead hbefore
    rw [hbytes]
    exact nextItem_lead hlead hbefore hspace hclose (s ++ tail)
  obtain ⟨found, hfound, hloop⟩ := parts_of_listed hlisted hparts
    (fun _ first s hblank ↦ nextItem_close hblank first s)
    (fun s ↦ stops_cons (by decide) s) rest
  have hsame : found = l :=
    List.right_unique_forall₂' (fun _ _ _ ha hb ↦ ha.unique hb) hfound hall
  have hclose : closeList (93 :: rest) = .ok rest := rfl
  rw [htext, List.cons_append, List.append_assoc, List.singleton_append, list,
    skipSpace_cons (by decide)]
  simp only [if_true, items_eq_parts, hloop, bind, Except.bind, hclose, hsame]

/-! ## Members -/

/-- What follows the value of a member ends a number. -/
theorem stops_memberChars (members : List Member) (rest : Bytes) :
    Stops (Utf8.encodeChars (memberChars members) ++ rest) := by
  cases members with
  | nil => exact stops_cons (by decide) rest
  | cons m l =>
    rw [encode_memberChars_cons]
    exact stops_cons (by decide) _

theorem length_lt_memberChars (members : List Member) :
    members.length < (Utf8.encodeChars (memberChars members)).length := by
  induction members with
  | nil => decide
  | cons m l ih =>
    rw [encode_memberChars_cons, List.length_cons, List.length_cons, List.length_append]
    omega

/-- The key of a member that comes next, and the text after it. -/
theorem nextMember_memberBytes (hlead : Lead first lead) (m : Member) (tail : Bytes) :
    ∃ s, nextMember first (lead ++ (memberBytes m ++ tail)) = .ok (true, s) ∧
      stringBody s = .ok (m.1, 58 :: (m.2.bytes ++ tail)) := by
  obtain ⟨body, hkey, hbody⟩ := (stringSpells_stringChars m.1).exists_body
  refine ⟨body ++ 58 :: (m.2.bytes ++ tail), ?_, hbody _⟩
  have hblank : IsBlank [] := by simp [IsBlank]
  have hnext := nextMember_lead hlead hblank (body ++ 58 :: (m.2.bytes ++ tail))
  rw [memberBytes, hkey, List.append_assoc]
  exact hnext

theorem colon_cons (s : Bytes) : colon (58 :: s) = .ok s := rfl

/-! ## Records -/

/-- Members fill the places of a state one after the other. -/
inductive Fills (fields : List (Slot σ)) : σ → List Member → σ → Prop
  | nil (soFar : σ) : Fills fields soFar [] soFar
  | cons {soFar next final : σ} {m : Member} {rest : List Member} {field : Slot σ}
      (hfield : fields.find? (·.name == m.1) = some field) (hfree : field.isSet soFar = false)
      (htakes : Takes (field.read soFar) m.2 next) (hrest : Fills fields next rest final) :
      Fills fields soFar (m :: rest) final

section Fields

variable {fields : List (Slot σ)} {soFar next final : σ}

theorem Fills.append {more : List Member} (hfills : Fills fields soFar members next)
    (hmore : Fills fields next more final) : Fills fields soFar (members ++ more) final := by
  induction hfills with
  | nil => exact hmore
  | cons hfield hfree htakes _ ih => exact .cons hfield hfree htakes (ih hmore)

/-- A single slot is filled by its reader. -/
theorem Fills.slot {name : String} {get : σ → Option α} {set : σ → α → σ}
    (hfield : fields.find? (·.name == name) = some (Reader.slot name reader get set))
    (hfree : get soFar = none) (hset : set soFar a = next) (htakes : Takes reader v a) :
    Fills fields soFar [(name, v)] next := by
  rw [← hset]
  apply Fills.cons hfield _ _ (.nil _)
  · exact Option.isSome_eq_false_iff.mpr (Option.isNone_iff_eq_none.mpr hfree)
  · intro rest hrest
    exact congrArg (Except.map fun found ↦ (set soFar found.1, found.2)) (htakes rest hrest)

theorem fieldMembers_step {field : Slot σ} (hlead : Lead first lead)
    (hfield : fields.find? (·.name == m.1) = some field) (hfree : field.isSet soFar = false)
    (htakes : Takes (field.read soFar) m.2 next) (htail : Stops tail) (fuel : Nat) :
    fieldMembers fields (fuel + 1) first soFar (lead ++ (memberBytes m ++ tail)) =
      fieldMembers fields fuel false next tail := by
  obtain ⟨s, hnext, hkey⟩ := nextMember_memberBytes hlead m tail
  rw [fieldMembers, hnext]
  simp only [bind, Except.bind, if_true, hkey, hfield, hfree, Bool.false_eq_true, if_false,
    colon_cons, htakes tail htail]

theorem fieldMembers_later (hfills : Fills fields soFar members final) (rest : Bytes) :
    ∀ fuel > members.length,
      fieldMembers fields fuel false soFar (Utf8.encodeChars (memberChars members) ++ rest) =
        .ok (final, 125 :: rest) := by
  induction hfills with
  | nil =>
    intro fuel hfuel
    obtain ⟨fuel, rfl⟩ := Nat.exists_eq_add_of_le' hfuel
    rfl
  | @cons soFar next final m l field hfield hfree htakes _ ih =>
    intro fuel hfuel
    obtain ⟨fuel, rfl⟩ := Nat.exists_eq_add_of_le' (Nat.one_le_of_lt hfuel)
    have hlead : Lead false ([] ++ [44]) := .later (by simp [IsBlank])
    rw [encode_memberChars_cons, List.cons_append, List.append_assoc]
    exact (fieldMembers_step hlead hfield hfree htakes (stops_memberChars l rest) fuel).trans
      (ih fuel (Nat.lt_of_succ_lt_succ hfuel))

/-- A record is taken up from the object of its members. -/
theorem record_takes {title : String} {empty : σ} {build : σ → Except String α}
    (hfills : Fills fields empty members final) (hbuild : build final = .ok a) :
    Takes (record title fields empty build) (.object members) a := by
  intro rest _
  obtain ⟨s, hbytes, hloop⟩ : ∃ s, (Json.object members).bytes ++ rest = 123 :: s ∧
      fieldMembers fields (s.length + 1) true empty s = .ok (final, 125 :: rest) := by
    cases hfills with
    | nil => exact ⟨125 :: rest, rfl, rfl⟩
    | @cons _ next _ m l field hfield hfree htakes hfills =>
      refine ⟨memberBytes m ++ (Utf8.encodeChars (memberChars l) ++ rest), ?_, ?_⟩
      · rw [bytes_object_cons, List.cons_append, List.append_assoc]
      · have hstep := fieldMembers_step .first hfield hfree htakes (stops_memberChars l rest)
        rw [List.nil_append] at hstep
        rw [hstep]
        apply fieldMembers_later hfills
        have hlength := length_lt_memberChars l
        simp only [List.length_append]
        omega
  have hclose : closeObject (125 :: rest) = .ok rest := rfl
  rw [hbytes, record, skipSpace_cons (by decide)]
  simp only [if_true, bind, Except.bind, hloop, hbuild, Except.mapError, hclose]

end Fields

end Courier.Json.Reader
