import Courier.Proofs.Json.Canonical
import Courier.Proofs.Json.Loops

/-!
# Reading values

Every text of a value within the limits is read back as a tree that stands for this value, whatever
comes after it.
-/

namespace Courier.Json.Reader

variable {room : Nat} {text rest s : Bytes} {b : UInt8}

/-! ## Scalars -/

theorem value_append (hblank : IsBlank text) (s : Bytes) :
    value room (text ++ s) = value room s := by
  cases room with
  | zero => simp only [value, value.scalar, skipSpace_append hblank]
  | succ room => simp only [value, skipSpace_append hblank]

theorem value_eq_scalar (hspace : isSpace b = false) (hlist : b ≠ 91) (hobject : b ≠ 123)
    (s : Bytes) : value room (b :: s) = value.scalar (b :: s) := by
  cases room with
  | zero => rfl
  | succ room =>
    simp only [value, skipSpace_cons hspace]
    split
    · next heq => cases heq; contradiction
    · next heq => cases heq; contradiction
    · rfl

theorem word_append (letters s : Bytes) : word letters (letters ++ s) = .ok s := by
  induction letters with
  | nil => rfl
  | cons c letters ih => rw [List.cons_append, word, if_pos rfl, ih]

theorem eq_of_isDigit (hdigit : isDigit b = true) : b = 48 ∨ b = 49 ∨ b = 50 ∨ b = 51 ∨ b = 52 ∨
    b = 53 ∨ b = 54 ∨ b = 55 ∨ b = 56 ∨ b = 57 := by
  simp only [isDigit, Bool.and_eq_true, decide_eq_true_eq, UInt8.le_iff_toNat_le] at hdigit
  simp only [← UInt8.toNat_inj]
  have hlow : 48 ≤ b.toNat := hdigit.1
  have hhigh : b.toNat ≤ 57 := hdigit.2
  simp only [UInt8.reduceToNat]
  omega

theorem scalar_of_digit (hdigit : isDigit b = true) (s : Bytes) :
    value.scalar (b :: s) =
      (number false (b :: s)).map fun found ↦ (.number found.1, found.2) := by
  rcases eq_of_isDigit hdigit with rfl | rfl | rfl | rfl | rfl | rfl | rfl | rfl | rfl | rfl <;> rfl

theorem digit_begins (hdigit : isDigit b = true) :
    isSpace b = false ∧ b ≠ 91 ∧ b ≠ 93 ∧ b ≠ 123 := by
  rcases eq_of_isDigit hdigit with rfl | rfl | rfl | rfl | rfl | rfl | rfl | rfl | rfl | rfl <;>
    decide

theorem value_integer {n : Int} (hlow : -2 ^ 63 ≤ n) (hhigh : n < 2 ^ 64) (hrest : Stops rest) :
    value room (Utf8.encodeChars (Number.integer n).chars ++ rest) =
      .ok (.number (.integer n), rest) := by
  cases n with
  | ofNat n =>
    have hhigh : (n : Int) < 2 ^ 64 := hhigh
    have hn : n ≤ greatestWord := by
      have hword : greatestWord = 2 ^ 64 - 1 := rfl
      omega
    obtain ⟨b, s, htext, hdigit⟩ := exists_encode_toDigits n
    obtain ⟨hspace, hlist, _, hobject⟩ := digit_begins hdigit
    have hnumber : number false (b :: s ++ rest) = .ok (.integer n, rest) := by
      rw [← htext, number_of_toDigits hn hrest.noDigit, afterDigits_of_stops hrest]
    calc value room (Utf8.encodeChars (Nat.toDigits 10 n) ++ rest)
      _ = value.scalar (b :: (s ++ rest)) := by
        rw [htext, List.cons_append, value_eq_scalar hspace hlist hobject]
      _ = .ok (.number (.integer n), rest) := by
        rw [scalar_of_digit hdigit, ← List.cons_append, hnumber]
        rfl
  | negSucc n =>
    have hn : n + 1 ≤ 2 ^ 63 := by omega
    have hword : n + 1 ≤ greatestWord := by
      have hword : greatestWord = 2 ^ 64 - 1 := rfl
      omega
    have hnumber : number true (Utf8.encodeChars (Nat.toDigits 10 (n + 1)) ++ rest) =
        .ok (.integer (Int.negSucc n), rest) := by
      rw [number_of_toDigits hword hrest.noDigit, afterDigits_negative hrest n.succ_pos hn]
      rfl
    calc value room (45 :: (Utf8.encodeChars (Nat.toDigits 10 (n + 1)) ++ rest))
      _ = value.scalar (45 :: (Utf8.encodeChars (Nat.toDigits 10 (n + 1)) ++ rest)) :=
        value_eq_scalar (by decide) (by decide) (by decide) _
      _ = (number true (Utf8.encodeChars (Nat.toDigits 10 (n + 1)) ++ rest)).map
          fun found ↦ (.number found.1, found.2) := rfl
      _ = .ok (.number (.integer (Int.negSucc n)), rest) := by
        rw [hnumber]
        rfl

theorem colon_append (hblank : IsBlank text) (s : Bytes) : colon (text ++ 58 :: s) = .ok s := by
  have hskip : skipSpace (text ++ 58 :: s) = 58 :: s := by
    rw [skipSpace_append hblank, skipSpace_cons (by decide)]
  simp [colon, hskip]

/-! ## Values -/

/-- The first byte of a text tells that a value begins. -/
theorem exists_head {v : Json} (htext : Spells v text) :
    ∃ b s, text = b :: s ∧ isSpace b = false ∧ b ≠ 93 := by
  cases htext with
  | null => exact ⟨_, _, rfl, by decide, by decide⟩
  | yes => exact ⟨_, _, rfl, by decide, by decide⟩
  | no => exact ⟨_, _, rfl, by decide, by decide⟩
  | integer n =>
    cases n with
    | ofNat n =>
      obtain ⟨b, s, htext, hdigit⟩ := exists_encode_toDigits n
      exact ⟨b, s, htext, (digit_begins hdigit).1, (digit_begins hdigit).2.2.1⟩
    | negSucc n => exact ⟨45, _, rfl, by decide, by decide⟩
  | string hstring =>
    cases hstring with
    | quoted => exact ⟨_, _, rfl, by decide, by decide⟩
  | array => exact ⟨_, _, rfl, by decide, by decide⟩
  | object => exact ⟨_, _, rfl, by decide, by decide⟩

/-- A text is read as a tree for the value, wherever it stands. -/
def ReadAs (room : Nat) (v : Json) (text : Bytes) : Prop :=
  ∀ rest, Stops rest → ∃ tree, tree.canonical = v.canonical ∧
    value room (text ++ rest) = .ok (tree, rest)

theorem takenUp_of_head {stands : Json → Prop}
    (hhead : ∃ b s, text = b :: s ∧ isSpace b = false ∧ b ≠ 93)
    (hread : ∀ rest, Stops rest → ∃ found, stands found ∧
      value room (text ++ rest) = .ok (found, rest)) :
    TakenUp nextItem (value room) stands text := by
  obtain ⟨b, s, rfl, hspace, hclose⟩ := hhead
  refine ⟨b :: s, ?_, hread⟩
  intro first lead before tail hlead hbefore
  exact nextItem_lead hlead hbefore hspace hclose (s ++ tail)

theorem takenUp_of_key {stands : Member → Prop} {key : String} {name before after : Bytes}
    (hname : StringSpells key name) (hbefore : IsBlank before) (hafter : IsBlank after)
    (hread : ∀ rest, Stops rest → ∃ found, stands (key, found) ∧
      value room (text ++ rest) = .ok (found, rest)) :
    TakenUp nextMember (member (value room)) stands
      (name ++ (before ++ 58 :: (after ++ text))) := by
  obtain ⟨body, rfl, hkey⟩ := hname.exists_body
  refine ⟨body ++ (before ++ 58 :: (after ++ text)), ?_, ?_⟩
  · intro first lead before tail hlead hbefore
    exact nextMember_lead hlead hbefore _
  · intro rest hrest
    obtain ⟨found, hfound, hvalue⟩ := hread rest hrest
    refine ⟨(key, found), hfound, ?_⟩
    rw [member, List.append_assoc, hkey, List.append_assoc, List.cons_append, List.append_assoc]
    simp only [bind, Except.bind, colon_append hbefore, value_append hafter, hvalue]

theorem takenUp_item {item : Json} (htext : Spells item text) (hread : ReadAs room item text) :
    TakenUp nextItem (value room) (fun found ↦ found.canonical = item.canonical) text :=
  takenUp_of_head (exists_head htext) hread

theorem takenUp_member {m : Member} (htext : MemberSpells m text)
    (hread : ∀ text, Spells m.2 text → ReadAs room m.2 text) :
    TakenUp nextMember (member (value room)) (SameMember m) text := by
  cases htext with
  | colon hname hbefore hafter hvalue =>
    refine takenUp_of_key hname hbefore hafter fun rest hrest ↦ ?_
    obtain ⟨tree, hsame, htree⟩ := hread _ hvalue rest hrest
    exact ⟨tree, ⟨rfl, hsame⟩, htree⟩

section Containers

variable {α : Type} {spells : α → Bytes → Prop} {stands : α → Json → Prop}
  {holds : α → Member → Prop} {l : List α}

/-- A list is read if each item is taken up wherever it stands. -/
theorem value_array_of_parts (hlisted : Listed spells l text)
    (hparts : ∀ a ∈ l, ∀ text, spells a text → TakenUp nextItem (value room) (stands a) text)
    (rest : Bytes) : ∃ found, List.Forall₂ stands l found ∧
      value (room + 1) (91 :: (text ++ 93 :: rest)) = .ok (.array found, rest) := by
  obtain ⟨found, hfound, hloop⟩ := parts_of_listed hlisted hparts
    (fun _ first s hblank ↦ nextItem_close hblank first s)
    (fun s ↦ stops_cons (by decide) s) rest
  have hclose : closeList (93 :: rest) = .ok rest := rfl
  refine ⟨found, hfound, ?_⟩
  rw [value, skipSpace_cons (by decide)]
  simp only [items_eq_parts, hloop, bind, Except.bind, hclose]

/-- An object is read if each member is taken up wherever it stands. -/
theorem value_object_of_parts (hlisted : Listed spells l text)
    (hparts : ∀ a ∈ l, ∀ text, spells a text →
      TakenUp nextMember (member (value room)) (holds a) text)
    (rest : Bytes) : ∃ found, List.Forall₂ holds l found ∧
      value (room + 1) (123 :: (text ++ 125 :: rest)) = .ok (.object found, rest) := by
  obtain ⟨found, hfound, hloop⟩ := parts_of_listed hlisted hparts
    (fun _ first s hblank ↦ nextMember_close hblank first s)
    (fun s ↦ stops_cons (by decide) s) rest
  have hclose : closeObject (125 :: rest) = .ok rest := rfl
  refine ⟨found, hfound, ?_⟩
  rw [value, skipSpace_cons (by decide)]
  simp only [members_eq_parts, hloop, bind, Except.bind, hclose]

end Containers

/-- A list is read with all its items. -/
theorem value_array {items : List Json} (hlisted : Listed Spells items text)
    (hread : ∀ item ∈ items, ∀ text, Spells item text → ReadAs room item text) (rest : Bytes) :
    ∃ found, List.Forall₂ (fun item found ↦ found.canonical = item.canonical) items found ∧
      value (room + 1) (91 :: (text ++ 93 :: rest)) = .ok (.array found, rest) :=
  value_array_of_parts hlisted
    (fun item hitem text htext ↦ takenUp_item htext (hread item hitem text htext)) rest

/-- An object is read with all its members, in the order of the text. -/
theorem value_object {members : List Member} (hlisted : Listed MemberSpells members text)
    (hread : ∀ m ∈ members, ∀ text, Spells m.2 text → ReadAs room m.2 text) (rest : Bytes) :
    ∃ found, List.Forall₂ SameMember members found ∧
      value (room + 1) (123 :: (text ++ 125 :: rest)) = .ok (.object found, rest) :=
  value_object_of_parts hlisted
    (fun m hm _ htext ↦ takenUp_member htext (hread m hm)) rest

theorem value_word {v : Json} {letters : Bytes} (hspace : isSpace b = false) (hlist : b ≠ 91)
    (hobject : b ≠ 123)
    (hword : ∀ s, value.scalar (b :: s) = (word letters s).map fun s ↦ (v, s)) (rest : Bytes) :
    value room (b :: letters ++ rest) = .ok (v, rest) := by
  rw [List.cons_append, value_eq_scalar hspace hlist hobject, hword, word_append]
  rfl

theorem value_string {t : String} (htext : StringSpells t text) (rest : Bytes) :
    value room (text ++ rest) = .ok (.string t, rest) := by
  obtain ⟨body, rfl, hbody⟩ := htext.exists_body
  calc value room (34 :: (body ++ rest))
    _ = value.scalar (34 :: (body ++ rest)) :=
      value_eq_scalar (by decide) (by decide) (by decide) _
    _ = (stringBody (body ++ rest)).map fun found ↦ (Json.string found.1, found.2) := rfl
    _ = .ok (.string t, rest) := by
      rw [hbody]
      rfl

/-- The induction is on the limits of the value, so that the parts of a container have one room less
than the container. -/
theorem readAs_of_spells {v : Json} (hplain : Plain room v) (htext : Spells v text) :
    ReadAs room v text := by
  induction hplain generalizing text with
  | null room =>
    cases htext
    intro rest _
    exact ⟨_, rfl, value_word (by decide) (by decide) (by decide) (fun _ ↦ rfl) rest⟩
  | bool room value =>
    cases htext
    · intro rest _
      exact ⟨_, rfl, value_word (by decide) (by decide) (by decide) (fun _ ↦ rfl) rest⟩
    · intro rest _
      exact ⟨_, rfl, value_word (by decide) (by decide) (by decide) (fun _ ↦ rfl) rest⟩
  | integer room hlow hhigh =>
    cases htext
    intro rest hrest
    exact ⟨_, rfl, value_integer hlow hhigh hrest⟩
  | string room t =>
    cases htext with
    | string hstring =>
      intro rest _
      exact ⟨_, rfl, value_string hstring rest⟩
  | @array room items hitems ih =>
    cases htext with
    | array hlisted =>
      intro rest _
      obtain ⟨found, hfound, hvalue⟩ :=
        value_array hlisted (fun item hitem _ htext ↦ ih item hitem htext) rest
      refine ⟨.array found, canonical_array_eq hfound, ?_⟩
      rw [List.cons_append, List.append_assoc]
      exact hvalue
  | @object room members hkeys hmembers ih =>
    cases htext with
    | object horder hlisted =>
      intro rest _
      obtain ⟨found, hfound, hvalue⟩ :=
        value_object hlisted (fun m hm _ htext ↦ ih m (horder.subset hm) htext) rest
      refine ⟨.object found, canonical_object_eq hfound horder hkeys, ?_⟩
      rw [List.cons_append, List.append_assoc]
      exact hvalue

/-- White space around a text does not count. -/
theorem read_padded {before after : Bytes} {tree : Json} (hbefore : IsBlank before)
    (hafter : IsBlank after) (hvalue : value nesting (text ++ after) = .ok (tree, after)) :
    Json.read (before ++ (text ++ after)) = .ok tree := by
  have hskip : skipSpace after = [] := by
    have hend := skipSpace_append hafter []
    rwa [List.append_nil] at hend
  have hfinish : finish after = .ok () := by simp only [finish, hskip]
  rw [Json.read, value_append hbefore, hvalue]
  simp only [bind, Except.bind, hfinish]

end Courier.Json.Reader
