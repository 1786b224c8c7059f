import Courier.Http.Url.Domain

/-!
# ASCII in the tables of characters

No table of marks, and no table of characters that are written from right to left, names a character
of ASCII.  Therefore composition and the rules for marks, joiners and directions leave a name alone
that has only such characters, and a name in lower case stands for itself.
-/

namespace Courier

namespace Text

variable {first n : Nat} {line : String} {lines : List String} {table : Table} {c : Char}
  {ns : List Nat} {cs label : List Char}

/-! ## Where tables start -/

namespace Table

/-- No entry is about a character before the given one. -/
def StartsAt (first : Nat) (table : Table) : Prop := ∀ entry ∈ table, first ≤ entry.low

theorem covers_of_lt (htable : table.StartsAt first) (hn : n < first) : table.covers n = false := by
  rw [covers, List.any_eq_false]
  intro entry hentry hcovers
  have hlow := htable entry hentry
  simp only [Entry.covers, decide_eq_true_eq] at hcovers
  omega

theorem startsAt_read_nil : StartsAt first (read []) :=
  fun _ hentry ↦ absurd hentry List.not_mem_nil

/-- The entries of a line are looked at by its characters. -/
theorem startsAt_read_cons (hline : line = String.ofList cs)
    (hentries : ((pieces (· = ' ') cs).all fun piece ↦ decide (first ≤ (readEntry piece).low)) =
      true) (hlines : StartsAt first (read lines)) : StartsAt first (read (line :: lines)) := by
  subst hline
  intro entry hentry
  rw [read, List.flatMap_cons, List.mem_append] at hentry
  rcases hentry with hentry | hentry
  · rw [readLine, String.toList_ofList, List.mem_map] at hentry
    obtain ⟨piece, hpiece, rfl⟩ := hentry
    exact of_decide_eq_true (List.all_eq_true.mp hentries piece hpiece)
  · exact hlines entry hentry

end Table

open Table

theorem startsAt_nonspacing : Marks.nonspacing.StartsAt 0x80 := by
  unfold Marks.nonspacing Marks.nonspacingLines
  repeat refine startsAt_read_cons rfl rfl ?_
  exact startsAt_read_nil

theorem startsAt_spacing : Marks.spacing.StartsAt 0x80 := by
  unfold Marks.spacing Marks.spacingLines
  repeat refine startsAt_read_cons rfl rfl ?_
  exact startsAt_read_nil

theorem startsAt_right : (Table.read Direction.rightLines).StartsAt 0x80 := by
  unfold Direction.rightLines
  repeat refine startsAt_read_cons rfl rfl ?_
  exact startsAt_read_nil

theorem startsAt_arabic : (Table.read Direction.arabicLines).StartsAt 0x80 := by
  unfold Direction.arabicLines
  repeat refine startsAt_read_cons rfl rfl ?_
  exact startsAt_read_nil

theorem startsAt_arabicDigit : (Table.read Direction.arabicDigitLines).StartsAt 0x80 := by
  unfold Direction.arabicDigitLines
  repeat refine startsAt_read_cons rfl rfl ?_
  exact startsAt_read_nil

/-! ## Characters of ASCII -/

theorem isMark_of_lt (hc : c.toNat < 0x80) : isMark c = false := by
  rw [isMark, covers_of_lt startsAt_nonspacing hc, covers_of_lt startsAt_spacing hc]
  rfl

theorem Direction.isRightward_of_lt (hc : c.toNat < 0x80) : isRightward c = false := by
  unfold isRightward classOf
  split
  · next found table hfound =>
    have hcovers := List.find?_some hfound
    dsimp only at hcovers
    have hmem := List.mem_of_find?_eq_some hfound
    simp only [tables, List.mem_cons, Prod.mk.injEq, List.not_mem_nil, or_false] at hmem
    rcases hmem with ⟨-, htable⟩ | ⟨-, htable⟩ | ⟨-, htable⟩ | hmem
    · rw [htable, covers_of_lt startsAt_right hc] at hcovers
      exact absurd hcovers Bool.false_ne_true
    · rw [htable, covers_of_lt startsAt_arabic hc] at hcovers
      exact absurd hcovers Bool.false_ne_true
    · rw [htable, covers_of_lt startsAt_arabicDigit hc] at hcovers
      exact absurd hcovers Bool.false_ne_true
    · rcases hmem with ⟨rfl, -⟩ | ⟨rfl, -⟩ | ⟨rfl, -⟩ | ⟨rfl, -⟩ | ⟨rfl, -⟩ | ⟨rfl, -⟩ | ⟨rfl, -⟩ |
        ⟨rfl, -⟩ <;> rfl
  · rfl

theorem isWellDirected_of_lt {labels : List (List Char)}
    (hlabels : ∀ label ∈ labels, ∀ c ∈ label, c.toNat < 0x80) : isWellDirected labels = true := by
  have hnone : labels.any (fun label ↦ label.any Direction.isRightward) = false := by
    rw [List.any_eq_false]
    intro label hlabel hany
    obtain ⟨c, hc, hright⟩ := List.any_eq_true.mp hany
    rw [Direction.isRightward_of_lt (hlabels label hlabel c hc)] at hright
    contradiction
  rw [isWellDirected, hnone]
  rfl

theorem Joining.allFit_of_lt (before : List Char) (hcs : ∀ c ∈ cs, c.toNat < 0x80) :
    allFit before cs = true := by
  induction cs generalizing before with
  | nil => rfl
  | cons c cs ih =>
    have hc := hcs c List.mem_cons_self
    have hjoiner : c ≠ joiner := by rintro rfl; exact absurd hc (by decide)
    have hnonJoiner : c ≠ nonJoiner := by rintro rfl; exact absurd hc (by decide)
    rw [allFit, fits, if_neg hjoiner, if_neg hnonJoiner, ih _ fun d hd ↦
      hcs d (List.mem_cons_of_mem c hd)]
    rfl

/-! ## Composition -/

namespace Composition

theorem lt_firstMark (hn : n < 0x80) : n < firstMark := by
  unfold firstMark
  omega

theorem classOf_of_lt (hn : n < 0x80) : classOf n = 0 := if_pos (lt_firstMark hn)

theorem place_of_lt (hns : ∀ m ∈ ns, m < 0x80) (n : Nat) : place n ns = n :: ns := by
  cases ns with
  | nil => rfl
  | cons m ns =>
    have hm := classOf_of_lt (hns m List.mem_cons_self)
    rw [place, if_neg (by omega)]

theorem decompose_of_lt (hns : ∀ n ∈ ns, n < 0x80) : decompose ns = ns := by
  induction ns with
  | nil => rfl
  | cons n ns ih =>
    have hrest : ∀ m ∈ ns, m < 0x80 := fun m hm ↦ hns m (List.mem_cons_of_mem n hm)
    have hapart : apart 4 n = [n] := if_pos (hns n List.mem_cons_self)
    have hsame := ih hrest
    unfold decompose at hsame ⊢
    rw [List.flatMap_cons, hapart, List.singleton_append, List.foldr_cons, hsame,
      place_of_lt hrest]

theorem joinFrom_of_lt (start : Nat) (hns : ∀ n ∈ ns, n < 0x80) :
    joinFrom start [] ns = start :: ns := by
  induction ns generalizing start with
  | nil => rfl
  | cons n ns ih =>
    have hn := hns n List.mem_cons_self
    have hjoin : join? start n = none := by rw [join?, if_pos (lt_firstMark hn)]
    have hrest := ih n fun m hm ↦ hns m (List.mem_cons_of_mem n hm)
    simp only [joinFrom, if_true, hjoin, classOf_of_lt hn, hrest, List.reverse_nil,
      List.cons_append, List.nil_append]

end Composition

theorem compose_of_lt (hns : ∀ n ∈ ns, n < 0x80) : compose ns = ns := by
  rw [compose, Composition.decompose_of_lt hns]
  cases ns with
  | nil => rfl
  | cons n ns => exact Composition.joinFrom_of_lt n fun m hm ↦ hns m (List.mem_cons_of_mem n hm)

end Text

end Courier
