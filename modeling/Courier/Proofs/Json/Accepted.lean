import Courier.Proofs.Json.Numerals
import Courier.Proofs.Json.Pieces
import Mathlib.Data.List.DropRight

/-!
# Which texts are read

A text is read as a tree exactly if it is a text of this tree as it is written, and the tree lies
within the limits of the reader.  One way, each part is taken up whatever follows it; the other way,
what a reader has taken from the front of the bytes is a text of what it answers.
-/

namespace Courier.Json.Reader

variable {room : Nat} {v item : Json} {m : Member} {n : Number} {b : UInt8}
  {text s rest tail : Bytes}

/-! ## Texts are read -/

theorem exists_head_unsigned (htext : UnsignedText text) :
    ∃ b s, text = b :: s ∧ isDigit b = true := by
  cases htext with
  | parts hwhole =>
    cases hwhole with
    | zero => exact ⟨48, _, rfl, rfl⟩
    | digits hfirst => exact ⟨_, _, rfl, (first_iff.mp hfirst).1⟩

theorem exists_head_written (htext : Written v text) :
    ∃ b s, text = b :: s ∧ isSpace b = false ∧ b ≠ 93 := by
  cases htext with
  | null => exact ⟨_, _, rfl, by decide, by decide⟩
  | yes => exact ⟨_, _, rfl, by decide, by decide⟩
  | no => exact ⟨_, _, rfl, by decide, by decide⟩
  | number hnumber =>
    cases hnumber with
    | @signed negative text n hunsigned _ =>
      cases negative with
      | true => exact ⟨45, _, rfl, by decide, by decide⟩
      | false =>
        obtain ⟨b, s, htext, hdigit⟩ := exists_head_unsigned hunsigned
        exact ⟨b, s, htext, (digit_begins hdigit).1, (digit_begins hdigit).2.2.1⟩
  | string hstring =>
    cases hstring with
    | quoted => exact ⟨_, _, rfl, by decide, by decide⟩
  | array => exact ⟨_, _, rfl, by decide, by decide⟩
  | object => exact ⟨_, _, rfl, by decide, by decide⟩

/-- The value of a number does not depend on what follows. -/
theorem number_append {negative : Bool} (htext : UnsignedText text)
    (hvalue : number negative text = .ok (n, [])) (hrest : Stops rest) :
    number negative (text ++ rest) = .ok (n, rest) := by
  rw [← List.append_nil text] at hvalue
  exact (settles_number negative htext).read_append stops_nil hrest hvalue

theorem value_numberWritten (htext : NumberWritten n text) (hrest : Stops rest) :
    value room (text ++ rest) = .ok (.number n, rest) := by
  cases htext with
  | @signed negative text n hunsigned hvalue =>
    have hnumber := number_append hunsigned hvalue hrest
    cases negative with
    | true =>
      calc value room (45 :: (text ++ rest))
        _ = value.scalar (45 :: (text ++ rest)) :=
          value_eq_scalar (by decide) (by decide) (by decide) _
        _ = (number true (text ++ rest)).map fun found ↦ (.number found.1, found.2) := rfl
        _ = .ok (.number n, rest) := by
          rw [hnumber]
          rfl
    | false =>
      obtain ⟨b, s, rfl, hdigit⟩ := exists_head_unsigned hunsigned
      obtain ⟨hspace, hlist, _, hobject⟩ := digit_begins hdigit
      calc value room (b :: (s ++ rest))
        _ = value.scalar (b :: (s ++ rest)) := value_eq_scalar hspace hlist hobject _
        _ = .ok (.number n, rest) := by
          rw [scalar_of_digit hdigit, ← List.cons_append, hnumber]
          rfl

theorem takenUp_written (htext : Written item text)
    (hread : ∀ rest, Stops rest → value room (text ++ rest) = .ok (item, rest)) :
    TakenUp nextItem (value room) (item = ·) text := by
  exact takenUp_of_head (exists_head_written htext)
    fun rest hrest ↦ ⟨item, rfl, hread rest hrest⟩

theorem takenUp_memberWritten (htext : MemberWritten m text)
    (hread : ∀ text, Written m.2 text → ∀ rest, Stops rest →
      value room (text ++ rest) = .ok (m.2, rest)) :
    TakenUp nextMember (member (value room)) (m = ·) text := by
  cases htext with
  | colon hname hbefore hafter hvalue =>
    exact takenUp_of_key hname hbefore hafter fun rest hrest ↦
      ⟨_, rfl, hread _ hvalue rest hrest⟩

/-- The induction is on the limits of the tree, so that the parts of a container have one room less
than the container. -/
theorem value_of_written (hfits : Fits room v) (htext : Written v text) (hrest : Stops rest) :
    value room (text ++ rest) = .ok (v, rest) := by
  induction hfits generalizing text rest with
  | null room =>
    cases htext
    exact value_word (by decide) (by decide) (by decide) (fun _ ↦ rfl) rest
  | bool room value =>
    cases htext
    · exact value_word (by decide) (by decide) (by decide) (fun _ ↦ rfl) rest
    · exact value_word (by decide) (by decide) (by decide) (fun _ ↦ rfl) rest
  | integer room =>
    cases htext with
    | number hnumber => exact value_numberWritten hnumber hrest
  | real room =>
    cases htext with
    | number hnumber => exact value_numberWritten hnumber hrest
  | string room t =>
    cases htext with
    | string hstring => exact value_string hstring rest
  | @array room items hitems ih =>
    cases htext with
    | array hlisted =>
      obtain ⟨found, hfound, hvalue⟩ := value_array_of_parts hlisted
        (fun item hitem _ htext ↦ takenUp_written htext fun _ hrest ↦ ih item hitem htext hrest)
        rest
      rw [List.forall₂_eq_eq_eq] at hfound
      rw [List.cons_append, List.append_assoc, hfound]
      exact hvalue
  | @object room members hmembers ih =>
    cases htext with
    | object hlisted =>
      obtain ⟨found, hfound, hvalue⟩ := value_object_of_parts hlisted
        (fun m hm _ htext ↦ takenUp_memberWritten htext fun _ htext _ hrest ↦
          ih m hm htext hrest) rest
      rw [List.forall₂_eq_eq_eq] at hfound
      rw [List.cons_append, List.append_assoc, hfound]
      exact hvalue

/-! ## Whatever is read is a text -/

theorem exists_blank (s : Bytes) : ∃ blank, IsBlank blank ∧ s = blank ++ skipSpace s := by
  refine ⟨s.takeWhile isSpace, fun b hb ↦ ?_, List.takeWhile_append_dropWhile.symm⟩
  have hspace := List.mem_takeWhile_imp hb
  simp only [isSpace, Bool.or_eq_true, beq_iff_eq] at hspace
  tauto

theorem isBlank_append {blank : Bytes} (hblank : IsBlank blank) (htext : IsBlank text) :
    IsBlank (blank ++ text) := by
  intro b hb
  rcases List.mem_append.mp hb with hb | hb
  · exact hblank b hb
  · exact htext b hb

theorem exists_of_skipSpace (hskip : skipSpace s = tail) :
    ∃ blank, IsBlank blank ∧ s = blank ++ tail :=
  hskip ▸ exists_blank s

theorem skipSpace_of_colon (h : colon s = .ok rest) : skipSpace s = 58 :: rest := by
  grind [colon, faultNext]

theorem skipSpace_of_closeList (h : closeList s = .ok rest) : skipSpace s = 93 :: rest := by
  grind [closeList, faultNext]

theorem skipSpace_of_closeObject (h : closeObject s = .ok rest) : skipSpace s = 125 :: rest := by
  grind [closeObject, faultNext]

/-- What is found after white space where a part is looked for: the end, or the bytes that open a
part, with a comma before them unless the part is the first one. -/
def Finds (next : Bool → Bytes → Except Fault (Bool × Bytes)) (opening : Bytes) : Prop :=
  ∀ first more s rest, next first s = .ok (more, rest) →
    more = false ∧ skipSpace s = rest ∨
      more = true ∧ first = true ∧ skipSpace s = opening ++ rest ∨
      more = true ∧ first = false ∧ ∃ tail, skipSpace s = 44 :: tail ∧
        skipSpace tail = opening ++ rest

theorem finds_item : Finds nextItem [] := by
  intro first more s rest hnext
  grind [nextItem, faultNext]

theorem finds_member : Finds nextMember [34] := by
  intro first more s rest hnext
  grind [nextMember, faultNext]

section Loop

variable {β : Type} {next : Bool → Bytes → Except Fault (Bool × Bytes)} {part : Reader β}
  {opening blank : Bytes} {spells : β → Bytes → Prop} {close : UInt8} {found : List β} {a : β}
  {first : Bool} {fuel : Nat}

theorem Finds.atEnd (hfinds : Finds next opening) (hnext : next first s = .ok (false, rest)) :
    ∃ blank, IsBlank blank ∧ s = blank ++ rest := by
  rcases hfinds _ _ _ _ hnext with ⟨_, hskip⟩ | ⟨hmore, _⟩ | ⟨hmore, _⟩
  · exact exists_of_skipSpace hskip
  · contradiction
  · contradiction

theorem Finds.atPart (hfinds : Finds next opening) (hnext : next first s = .ok (true, rest)) :
    ∃ lead before, Lead first lead ∧ IsBlank before ∧
      s = lead ++ (before ++ (opening ++ rest)) := by
  rcases hfinds _ _ _ _ hnext with ⟨hmore, _⟩ | ⟨_, rfl, hskip⟩ | ⟨_, rfl, tail, hcomma, hskip⟩
  · contradiction
  · obtain ⟨before, hbefore, hs⟩ := exists_of_skipSpace hskip
    exact ⟨[], before, .first, hbefore, hs⟩
  · obtain ⟨after, hafter, rfl⟩ := exists_of_skipSpace hcomma
    obtain ⟨before, hbefore, rfl⟩ := exists_of_skipSpace hskip
    exact ⟨after ++ [44], before, .later hafter, hbefore, by simp⟩

/-- What a part that was read looks like, given the bytes that open it. -/
def IsPart (part : Reader β) (opening : Bytes) (spells : β → Bytes → Prop) : Prop :=
  ∀ s a rest, part s = .ok (a, rest) → Stops rest →
    ∃ before text, IsBlank before ∧ spells a text ∧ opening ++ s = before ++ (text ++ rest)

/-- What the loop has read is a list of parts.  When another part is looked for, a comma stands
before the list, unless nothing more is found. -/
theorem listed_of_parts (hfinds : Finds next opening) (hpart : IsPart part opening spells)
    (hclose : ∀ s, Stops (close :: s)) (hblank : IsBlank blank)
    (h : parts next part fuel first s = .ok (found, blank ++ close :: rest)) :
    ∃ lead text, (found = [] ∧ lead = [] ∨ found ≠ [] ∧ Lead first lead) ∧
      Listed spells found text ∧ s = lead ++ (text ++ close :: rest) := by
  induction fuel generalizing first s found with
  | zero =>
    cases h
    exact ⟨[], blank, .inl ⟨rfl, rfl⟩, .none hblank, rfl⟩
  | succ fuel ih =>
    rw [parts] at h
    obtain ⟨⟨more, s₁⟩, hnext, h⟩ := exists_of_bind_eq_ok h
    cases more with
    | false =>
      cases h
      obtain ⟨before, hbefore, rfl⟩ := hfinds.atEnd hnext
      exact ⟨[], before ++ blank, .inl ⟨rfl, rfl⟩, .none (isBlank_append hbefore hblank), by simp⟩
    | true =>
      obtain ⟨⟨a, s₂⟩, ha, h⟩ := exists_of_bind_eq_ok h
      obtain ⟨⟨others, s₃⟩, hothers, h⟩ := exists_of_bind_eq_ok h
      cases h
      obtain ⟨lead, before, hlead, hbefore, rfl⟩ := hfinds.atPart hnext
      obtain ⟨comma, more, hcomma, hmore, rfl⟩ := ih hothers
      refine ⟨lead, ?_⟩
      rcases hcomma with ⟨rfl, rfl⟩ | ⟨hsome, hcomma⟩
      · cases hmore with
        | none hafter =>
          have hstops : Stops (more ++ close :: rest) := stops_append hafter (hclose rest)
          obtain ⟨blank, text, hblank, htext, hs⟩ := hpart _ _ _ ha hstops
          refine ⟨_, .inr ⟨by simp, hlead⟩, .last (isBlank_append hbefore hblank) htext hafter, ?_⟩
          simp [hs]
      · cases hcomma with
        | @later after hafter =>
          have hstops : Stops (after ++ [44] ++ (more ++ close :: rest)) := by
            rw [List.append_assoc]
            exact stops_append hafter (stops_cons (by decide) _)
          obtain ⟨blank, text, hblank, htext, hs⟩ := hpart _ _ _ ha hstops
          obtain ⟨second, others, rfl⟩ := List.exists_cons_of_ne_nil hsome
          refine ⟨_, .inr ⟨by simp, hlead⟩,
            .cons (isBlank_append hbefore hblank) htext hafter hmore, ?_⟩
          simp [hs]

/-- A loop from its beginning has read a list. -/
theorem listed_of_loop (hfinds : Finds next opening) (hpart : IsPart part opening spells)
    (hclose : ∀ s, Stops (close :: s)) (h : parts next part fuel true s = .ok (found, tail))
    (hskip : skipSpace tail = close :: rest) :
    ∃ text, Listed spells found text ∧ s = text ++ close :: rest := by
  obtain ⟨blank, hblank, rfl⟩ := exists_of_skipSpace hskip
  obtain ⟨lead, text, hlead, hlisted, hs⟩ := listed_of_parts hfinds hpart hclose hblank h
  have hlead : lead = [] := by
    rcases hlead with ⟨_, hlead⟩ | ⟨_, hlead⟩
    · exact hlead
    · cases hlead
      rfl
  exact ⟨text, hlisted, by rw [hs, hlead]; rfl⟩

end Loop

/-! ### Values -/

theorem eq_append_of_word {letters : Bytes} (h : word letters s = .ok rest) :
    s = letters ++ rest := by
  induction letters generalizing s with
  | nil =>
    cases h
    rfl
  | cons c letters ih =>
    cases s with
    | nil => cases h
    | cons b s =>
      rw [word] at h
      split at h
      · next heq => rw [heq, ih h, List.cons_append]
      · cases h

theorem written_of_number {negative : Bool} (h : number negative s = .ok (n, rest))
    (hrest : Stops rest) : ∃ text, UnsignedText text ∧ number negative text = .ok (n, []) ∧
      s = text ++ rest := by
  obtain ⟨text, htext, rfl⟩ := exists_of_number h
  have hvalue := (settles_number negative htext).read_append hrest stops_nil h
  rw [List.append_nil] at hvalue
  exact ⟨text, htext, hvalue, rfl⟩

theorem written_of_scalar (h : value.scalar s = .ok (v, rest)) (hrest : Stops rest) :
    ∃ text, Written v text ∧ skipSpace s = text ++ rest := by
  have hword {b : UInt8} {tail letters : Bytes} {w : Json} {c : Char}
      (hchar : Char.ofNat b.toNat = c)
      (hread : ((word letters tail).map fun s ↦ (w, s)) = .ok (v, rest))
      (hw : Written w (UInt8.ofNat c.toNat :: letters)) :
      ∃ text, Written v text ∧ b :: tail = text ++ rest := by
    obtain ⟨s', hs', hfound⟩ := exists_of_map_eq_ok hread
    cases hfound
    exact ⟨_, hw, by rw [eq_append_of_word hs', eq_ofNat_of_char hchar]; rfl⟩
  unfold value.scalar at h
  split at h
  · cases h
  next b tail hskip =>
  rw [hskip]
  split at h
  · next hchar => exact hword hchar h .null
  · next hchar => exact hword hchar h .yes
  · next hchar => exact hword hchar h .no
  · next hchar =>
    obtain ⟨⟨n, s'⟩, hnumber, hfound⟩ := exists_of_map_eq_ok h
    cases hfound
    obtain ⟨text, htext, hvalue, rfl⟩ := written_of_number hnumber hrest
    exact ⟨45 :: text, .number (.signed htext hvalue), by rw [eq_ofNat_of_char hchar]; rfl⟩
  · next hchar =>
    obtain ⟨⟨t, s'⟩, hbody, hfound⟩ := exists_of_map_eq_ok h
    cases hfound
    obtain ⟨body, rfl, hstring⟩ := stringSpells_of_stringBody hbody
    exact ⟨34 :: body, .string hstring, by rw [eq_ofNat_of_char hchar]; rfl⟩
  · cases h
  · cases h
  split at h
  · obtain ⟨⟨n, s'⟩, hnumber, hfound⟩ := exists_of_map_eq_ok h
    cases hfound
    obtain ⟨text, htext, hvalue, hs⟩ := written_of_number hnumber hrest
    exact ⟨text, .number (.signed htext hvalue), hs⟩
  · cases h

/-- A value is read from a text of it, once white space has been skipped. -/
def ReadsWritten (reader : Reader Json) : Prop :=
  ∀ s v rest, reader s = .ok (v, rest) → Stops rest →
    ∃ text, Written v text ∧ skipSpace s = text ++ rest

theorem ReadsWritten.isPart (hreader : ReadsWritten (value room)) :
    IsPart (value room) [] Written := by
  intro s v rest h hrest
  obtain ⟨text, htext, hskip⟩ := hreader s v rest h hrest
  obtain ⟨blank, hblank, hs⟩ := exists_of_skipSpace hskip
  exact ⟨blank, text, hblank, htext, hs⟩

theorem ReadsWritten.isPart_member (hreader : ReadsWritten (value room)) :
    IsPart (member (value room)) [34] MemberWritten := by
  intro s m rest h hrest
  obtain ⟨⟨key, s₁⟩, hkey, h⟩ := exists_of_bind_eq_ok h
  obtain ⟨s₂, hcolon, h⟩ := exists_of_bind_eq_ok h
  obtain ⟨⟨v, s₃⟩, hv, h⟩ := exists_of_bind_eq_ok h
  cases h
  obtain ⟨body, rfl, hname⟩ := stringSpells_of_stringBody hkey
  obtain ⟨before, hbefore, rfl⟩ := exists_of_skipSpace (skipSpace_of_colon hcolon)
  obtain ⟨after, text, hafter, htext, hs⟩ := hreader.isPart _ _ _ hv hrest
  rw [List.nil_append] at hs
  exact ⟨[], _, by simp [IsBlank], .colon hname hbefore hafter htext, by simp [hs]⟩

theorem readsWritten_value (room : Nat) : ReadsWritten (value room) := by
  induction room with
  | zero => exact fun _ _ _ h hrest ↦ written_of_scalar h hrest
  | succ room ih =>
    intro s v rest h hrest
    unfold value at h
    split at h
    · next tail hskip =>
      obtain ⟨⟨found, s'⟩, hitems, h⟩ := exists_of_bind_eq_ok h
      obtain ⟨s'', hclose, h⟩ := exists_of_bind_eq_ok h
      cases h
      rw [items_eq_parts] at hitems
      obtain ⟨text, hlisted, rfl⟩ := listed_of_loop finds_item ih.isPart
        (fun s ↦ stops_cons (by decide) s) hitems (skipSpace_of_closeList hclose)
      exact ⟨_, .array hlisted, by rw [hskip]; simp⟩
    · next tail hskip =>
      obtain ⟨⟨found, s'⟩, hmembers, h⟩ := exists_of_bind_eq_ok h
      obtain ⟨s'', hclose, h⟩ := exists_of_bind_eq_ok h
      cases h
      rw [members_eq_parts] at hmembers
      obtain ⟨text, hlisted, rfl⟩ := listed_of_loop finds_member ih.isPart_member
        (fun s ↦ stops_cons (by decide) s) hmembers (skipSpace_of_closeObject hclose)
      exact ⟨_, .object hlisted, by rw [hskip]; simp⟩
    · have hskip : skipSpace (skipSpace s) = skipSpace s := List.dropWhile_idempotent _ _
      obtain ⟨text, htext, hs⟩ := written_of_scalar h hrest
      exact ⟨text, htext, by rw [← hs, hskip]⟩

/-! ## Whole texts -/

theorem stops_blank (hblank : IsBlank text) : Stops text := by
  have hstops := stops_append hblank stops_nil
  rwa [List.append_nil] at hstops

theorem skipSpace_of_finish (h : finish s = .ok ()) : skipSpace s = [] := by
  unfold finish at h
  split at h
  · next hskip => exact hskip
  · cases h

/-- A text of a tree within the limits of the reader. -/
structure Accepted (tree : Json) (payload : Bytes) : Prop where
  written : TextWritten tree payload
  fits : Fits nesting tree

/-- A text is read as a tree exactly if it is an accepted text of this tree. -/
theorem read_eq_ok_iff {payload : Bytes} : Json.read payload = .ok v ↔ Accepted v payload := by
  constructor
  · intro h
    have hfits := fits_of_read h
    obtain ⟨⟨v, rest⟩, hvalue, h⟩ := exists_of_bind_eq_ok h
    obtain ⟨_, hfinish, h⟩ := exists_of_bind_eq_ok h
    cases h
    obtain ⟨after, hafter, hrest⟩ := exists_of_skipSpace (skipSpace_of_finish hfinish)
    rw [List.append_nil] at hrest
    rw [← hrest] at hafter
    obtain ⟨text, htext, hskip⟩ := readsWritten_value _ _ _ _ hvalue (stops_blank hafter)
    obtain ⟨before, hbefore, rfl⟩ := exists_of_skipSpace hskip
    exact ⟨.padded hbefore htext hafter, hfits⟩
  · rintro ⟨⟨hbefore, htext, hafter⟩, hfits⟩
    exact read_padded hbefore hafter (value_of_written hfits htext (stops_blank hafter))

end Courier.Json.Reader
