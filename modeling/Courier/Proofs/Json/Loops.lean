import Courier.Proofs.Json.Numbers
import Courier.Proofs.Json.Strings

/-!
# Reading lists and objects

The loops over items and over members are one loop: it looks whether another part follows, reads it,
and goes on.  If each part of a list is taken up wherever it stands, the loop reads the list up to
its closing bracket, whatever comes after that.
-/

namespace Courier.Json.Reader

variable {α β : Type} {blank before rest s : Bytes} {b : UInt8} {first : Bool}

/-! ## White space -/

theorem isSpace_of_blank (hb : b = 32 ∨ b = 9 ∨ b = 10 ∨ b = 13) : isSpace b = true := by
  rcases hb with rfl | rfl | rfl | rfl <;> rfl

theorem skipSpace_append (hblank : IsBlank blank) (s : Bytes) :
    skipSpace (blank ++ s) = skipSpace s :=
  List.dropWhile_append_of_pos fun b hb ↦ isSpace_of_blank (hblank b hb)

theorem skipSpace_cons (hb : isSpace b = false) (s : Bytes) : skipSpace (b :: s) = b :: s :=
  List.dropWhile_cons_of_neg (by simp [hb])

theorem stops_append (hblank : IsBlank blank) (hrest : Stops rest) : Stops (blank ++ rest) := by
  cases blank with
  | nil => exact hrest
  | cons b blank =>
    intro b' hb'
    cases hb'
    rcases hblank b List.mem_cons_self with rfl | rfl | rfl | rfl <;> decide

/-! ## Parts of a list -/

/-- What stands before a part: nothing before the first one, else white space and a comma. -/
inductive Lead : Bool → Bytes → Prop
  | first : Lead true []
  | later {after : Bytes} (hafter : IsBlank after) : Lead false (after ++ [44])

theorem skipSpace_lead {lead : Bytes} (hlead : Lead first lead) (hbefore : IsBlank before)
    (hb : isSpace b = false) (s : Bytes) :
    first = true ∧ skipSpace (lead ++ (before ++ b :: s)) = b :: s ∨
      first = false ∧ ∃ more, skipSpace (lead ++ (before ++ b :: s)) = 44 :: more ∧
        skipSpace more = b :: s := by
  have hskip : skipSpace (before ++ b :: s) = b :: s := by
    rw [skipSpace_append hbefore, skipSpace_cons hb]
  cases hlead with
  | first => exact .inl ⟨rfl, hskip⟩
  | @later after hafter =>
    refine .inr ⟨rfl, before ++ b :: s, ?_, hskip⟩
    rw [List.append_assoc, skipSpace_append hafter]
    exact skipSpace_cons (by decide) _

theorem nextItem_lead {lead : Bytes} (hlead : Lead first lead) (hbefore : IsBlank before)
    (hb : isSpace b = false) (hclose : b ≠ 93) (s : Bytes) :
    nextItem first (lead ++ (before ++ b :: s)) = .ok (true, b :: s) := by
  unfold nextItem
  rcases skipSpace_lead hlead hbefore hb s with ⟨rfl, hskip⟩ | ⟨rfl, more, hskip, hmore⟩
  · simp [hskip, hclose]
  · simp [hskip, hmore, hclose]

theorem nextItem_close (hblank : IsBlank blank) (first : Bool) (s : Bytes) :
    nextItem first (blank ++ 93 :: s) = .ok (false, 93 :: s) := by
  have hskip : skipSpace (blank ++ 93 :: s) = 93 :: s := by
    rw [skipSpace_append hblank, skipSpace_cons (by decide)]
  simp [nextItem, hskip]

theorem nextMember_lead {lead : Bytes} (hlead : Lead first lead) (hbefore : IsBlank before)
    (s : Bytes) : nextMember first (lead ++ (before ++ 34 :: s)) = .ok (true, s) := by
  have hquote : isSpace 34 = false := by decide
  unfold nextMember
  rcases skipSpace_lead hlead hbefore hquote s with ⟨rfl, hskip⟩ | ⟨rfl, more, hskip, hmore⟩
  · simp [hskip]
  · simp [hskip, hmore]

theorem nextMember_close (hblank : IsBlank blank) (first : Bool) (s : Bytes) :
    nextMember first (blank ++ 125 :: s) = .ok (false, 125 :: s) := by
  have hskip : skipSpace (blank ++ 125 :: s) = 125 :: s := by
    rw [skipSpace_append hblank, skipSpace_cons (by decide)]
  simp [nextMember, hskip]

/-! ## The loop -/

/-- Parts are read as long as another one follows. -/
def parts (next : Bool → Bytes → Except Fault (Bool × Bytes)) (part : Reader β) :
    Nat → Bool → Reader (List β)
  | 0, _, s => .ok ([], s)
  | fuel + 1, first, s => do
    let (more, s) ← next first s
    if more then
      let (a, s) ← part s
      let (rest, s) ← parts next part fuel false s
      .ok (a :: rest, s)
    else .ok ([], s)

theorem items_eq_parts (item : Reader β) (fuel : Nat) (first : Bool) (s : Bytes) :
    items item fuel first s = parts nextItem item fuel first s := by
  induction fuel generalizing first s with
  | zero => rfl
  | succ fuel ih =>
    rw [items, parts]
    simp only [ih]

/-- A member after the quotation mark that opens its key. -/
def member (value : Reader Json) : Reader Member := fun s ↦ do
  let (key, s) ← stringBody s
  let s ← colon s
  let (v, s) ← value s
  .ok ((key, v), s)

theorem members_eq_parts (value : Reader Json) (fuel : Nat) (first : Bool) (s : Bytes) :
    members value fuel first s = parts nextMember (member value) fuel first s := by
  induction fuel generalizing first s with
  | zero => rfl
  | succ fuel ih =>
    rw [members, parts]
    simp only [ih, member, bind, Except.bind]
    cases nextMember first s with
    | error fault => rfl
    | ok found =>
      obtain ⟨more, s⟩ := found
      cases more with
      | false => rfl
      | true =>
        dsimp only
        rw [if_pos rfl, if_pos rfl]
        cases stringBody s with
        | error fault => rfl
        | ok found =>
          dsimp only
          cases colon found.2 with
          | error fault => rfl
          | ok s =>
            dsimp only
            cases value s <;> rfl

/-- A part is found after whatever may stand before it, and read as one that it stands for. -/
def TakenUp (next : Bool → Bytes → Except Fault (Bool × Bytes)) (part : Reader β)
    (stands : β → Prop) (text : Bytes) : Prop :=
  ∃ body, (∀ first lead before tail, Lead first lead → IsBlank before →
      next first (lead ++ (before ++ (text ++ tail))) = .ok (true, body ++ tail)) ∧
    ∀ rest, Stops rest → ∃ found, stands found ∧ part (body ++ rest) = .ok (found, rest)

section Loop

variable {next : Bool → Bytes → Except Fault (Bool × Bytes)} {part : Reader β}
  {spells : α → Bytes → Prop} {stands : α → β → Prop} {l : List α} {text : Bytes} {close : UInt8}

theorem parts_of_listed_of_ne_nil (hlisted : Listed spells l text) (hl : l ≠ [])
    (hparts : ∀ a ∈ l, ∀ text, spells a text → TakenUp next part (stands a) text)
    (hclose : ∀ blank first s, IsBlank blank →
      next first (blank ++ close :: s) = .ok (false, close :: s))
    (hstops : ∀ s, Stops (close :: s)) (rest : Bytes) :
    ∀ first lead fuel, Lead first lead → l.length < fuel → ∃ found, List.Forall₂ stands l found ∧
      parts next part fuel first (lead ++ (text ++ close :: rest)) =
        .ok (found, close :: rest) := by
  induction hlisted with
  | none => exact absurd rfl hl
  | @last a before text after hbefore htext hafter =>
    intro first lead fuel hlead hfuel
    obtain ⟨body, hnext, hpart⟩ := hparts a List.mem_cons_self text htext
    obtain ⟨found, hfound, hread⟩ := hpart (after ++ close :: rest)
      (stops_append hafter (hstops rest))
    obtain ⟨fuel, rfl⟩ : ∃ more, fuel = more + 2 := Nat.exists_eq_add_of_le' hfuel
    refine ⟨[found], .cons hfound .nil, ?_⟩
    rw [List.append_assoc, List.append_assoc, parts, hnext first lead before _ hlead hbefore]
    simp only [bind, Except.bind, if_true, hread, parts, hclose after false rest hafter,
      Bool.false_eq_true, if_false]
  | @cons a following others before text after more hbefore htext hafter hmore ih =>
    intro first lead fuel hlead hfuel
    obtain ⟨body, hnext, hpart⟩ := hparts a List.mem_cons_self text htext
    have hcomma : Stops (44 :: (more ++ close :: rest)) := stops_cons (by decide) _
    obtain ⟨found, hfound, hread⟩ := hpart (after ++ 44 :: (more ++ close :: rest))
      (stops_append hafter hcomma)
    obtain ⟨fuel, rfl⟩ : ∃ more, fuel = more + 1 :=
      Nat.exists_eq_add_of_le' (Nat.one_le_of_lt hfuel)
    obtain ⟨later, hlater, hloop⟩ := ih (by simp)
      (fun a ha ↦ hparts a (List.mem_cons_of_mem _ ha)) false (after ++ [44]) fuel (.later hafter)
      (Nat.lt_of_succ_lt_succ hfuel)
    refine ⟨found :: later, .cons hfound hlater, ?_⟩
    rw [List.append_assoc, List.append_assoc, List.append_assoc, List.cons_append, parts,
      hnext first lead before _ hlead hbefore]
    rw [List.append_assoc, List.singleton_append] at hloop
    simp only [bind, Except.bind, if_true, hread, hloop]

/-- The loop reads every list of parts. -/
theorem parts_of_listed (hlisted : Listed spells l text)
    (hparts : ∀ a ∈ l, ∀ text, spells a text → TakenUp next part (stands a) text)
    (hclose : ∀ blank first s, IsBlank blank →
      next first (blank ++ close :: s) = .ok (false, close :: s))
    (hstops : ∀ s, Stops (close :: s)) (rest : Bytes) :
    ∃ found, List.Forall₂ stands l found ∧
      parts next part ((text ++ close :: rest).length + 1) true (text ++ close :: rest) =
        .ok (found, close :: rest) := by
  have hlength := hlisted.length_le
  rcases eq_or_ne l [] with rfl | hl
  · cases hlisted with
    | none hblank =>
      refine ⟨[], .nil, ?_⟩
      rw [parts, hclose _ _ _ hblank]
      rfl
  · apply parts_of_listed_of_ne_nil hlisted hl hparts hclose hstops rest true [] _ .first
    rw [List.length_append, List.length_cons]
    omega

end Loop

end Courier.Json.Reader
