import Courier.Proofs.Json.Canonical
import Courier.Proofs.Json.Reread
import Courier.Proofs.Text.Order

/-!
# Canonical values

The members of a canonical value are in ascending order at every depth, and of the members of one
key only one is left.  A value in this order is canonical.
-/

namespace Courier.Json

variable {key : String} {value v : Json} {members : List Member} {room : Nat}

/-! ## Sorted members -/

/-- The keys are in ascending order, none twice. -/
def Sorted (members : List Member) : Prop := members.Pairwise fun a b ↦ a.1 < b.1

theorem mem_of_mem_insertMember {m : Member} (hm : m ∈ insertMember key value members) :
    m = (key, value) ∨ m ∈ members := by
  induction members with
  | nil => exact .inl (List.mem_singleton.mp hm)
  | cons first rest ih =>
    obtain ⟨k, v⟩ := first
    unfold insertMember at hm
    split at hm
    · exact List.mem_cons.mp hm
    split at hm
    · rcases List.mem_cons.mp hm with rfl | hm
      · exact .inl rfl
      · exact .inr (List.mem_cons_of_mem _ hm)
    · rcases List.mem_cons.mp hm with rfl | hm
      · exact .inr List.mem_cons_self
      · exact (ih hm).imp_right (List.mem_cons_of_mem _)

theorem Sorted.insertMember (hsorted : Sorted members) (key : String) (value : Json) :
    Sorted (insertMember key value members) := by
  induction members with
  | nil => exact List.pairwise_singleton _ _
  | cons first rest ih =>
    obtain ⟨k, v⟩ := first
    obtain ⟨hfirst, hrest⟩ := List.pairwise_cons.mp hsorted
    rcases lt_trichotomy key k with hlt | rfl | hgt
    · rw [insertMember_of_lt _ _ _ hlt]
      apply List.pairwise_cons.mpr ⟨_, hsorted⟩
      intro m hm
      rcases List.mem_cons.mp hm with rfl | hm
      · exact hlt
      · exact hlt.trans (hfirst m hm)
    · rw [insertMember_self]
      exact List.pairwise_cons.mpr ⟨hfirst, hrest⟩
    · rw [insertMember_of_gt _ _ _ hgt]
      apply List.pairwise_cons.mpr ⟨_, ih hrest⟩
      intro m hm
      rcases mem_of_mem_insertMember hm with rfl | hm
      · exact hgt
      · exact hfirst m hm

/-- What the loop over the members keeps. -/
theorem foldl_insertMember {p : List Member → Prop} {sorted : List Member} (hsorted : p sorted)
    (hstep : ∀ m ∈ members, ∀ sorted, p sorted → p (insertMember m.1 m.2 sorted)) :
    p (members.foldl (fun sorted m ↦ insertMember m.1 m.2 sorted) sorted) := by
  induction members generalizing sorted with
  | nil => exact hsorted
  | cons m rest ih =>
    exact ih (hstep m List.mem_cons_self sorted hsorted)
      fun m hm ↦ hstep m (List.mem_cons_of_mem _ hm)

theorem sorted_sortMembers (members : List Member) : Sorted (sortMembers members) :=
  foldl_insertMember List.Pairwise.nil fun m _ _ hsorted ↦ hsorted.insertMember m.1 m.2

theorem mem_of_mem_sortMembers : ∀ m ∈ sortMembers members, m ∈ members := by
  apply foldl_insertMember (p := fun sorted ↦ ∀ m ∈ sorted, m ∈ members)
  · simp
  · intro m hm sorted hsorted other hother
    rcases mem_of_mem_insertMember hother with rfl | hother
    · exact hm
    · exact hsorted other hother

/-- A greatest key goes to the end. -/
theorem insertMember_of_last (hlast : ∀ m ∈ members, m.1 < key) :
    insertMember key value members = members ++ [(key, value)] := by
  induction members with
  | nil => rfl
  | cons first rest ih =>
    obtain ⟨k, v⟩ := first
    rw [insertMember_of_gt _ _ _ (hlast (k, v) List.mem_cons_self),
      ih fun m hm ↦ hlast m (List.mem_cons_of_mem _ hm), List.cons_append]

theorem Sorted.foldl_eq (sorted : List Member) (hsorted : Sorted (sorted ++ members)) :
    members.foldl (fun sorted m ↦ Json.insertMember m.1 m.2 sorted) sorted = sorted ++ members := by
  induction members generalizing sorted with
  | nil => exact (List.append_nil sorted).symm
  | cons m rest ih =>
    have hlast : ∀ other ∈ sorted, other.1 < m.1 := fun other hother ↦
      (List.pairwise_append.mp hsorted).2.2 other hother m List.mem_cons_self
    have hmore : Sorted (sorted ++ [m] ++ rest) := by
      rwa [List.append_assoc, List.singleton_append]
    rw [List.foldl_cons, insertMember_of_last hlast, ih _ hmore, List.append_assoc,
      List.singleton_append]

/-- Sorting sorted members changes nothing. -/
theorem Sorted.sortMembers_eq (hsorted : Sorted members) : sortMembers members = members :=
  Sorted.foldl_eq [] hsorted

theorem perm_insertMember (hfresh : ∀ m ∈ members, m.1 ≠ key) :
    (insertMember key value members).Perm ((key, value) :: members) := by
  induction members with
  | nil => exact .refl _
  | cons first rest ih =>
    obtain ⟨k, v⟩ := first
    have hk : k ≠ key := hfresh (k, v) List.mem_cons_self
    rcases lt_or_gt_of_ne hk with hlt | hgt
    · rw [insertMember_of_gt _ _ _ hlt]
      have hrest := ih fun m hm ↦ hfresh m (List.mem_cons_of_mem _ hm)
      exact (hrest.cons (k, v)).trans (.swap _ _ _)
    · rw [insertMember_of_lt _ _ _ hgt]

theorem perm_foldl_insertMember {sorted : List Member}
    (hkeys : ((sorted ++ members).map Prod.fst).Nodup) :
    (members.foldl (fun sorted m ↦ insertMember m.1 m.2 sorted) sorted).Perm
      (sorted ++ members) := by
  induction members generalizing sorted with
  | nil => rw [List.foldl_nil, List.append_nil]
  | cons m rest ih =>
    have hmiddle : (m :: (sorted ++ rest)).Perm (sorted ++ m :: rest) := List.perm_middle.symm
    have hnodup := (hmiddle.map Prod.fst).nodup_iff.mpr hkeys
    obtain ⟨hfresh, _⟩ := List.nodup_cons.mp hnodup
    have hm : ∀ other ∈ sorted, other.1 ≠ m.1 := by
      intro other hother heq
      apply hfresh
      rw [← heq]
      exact List.mem_map_of_mem (List.mem_append_left rest hother)
    have hinsert : (insertMember m.1 m.2 sorted ++ rest).Perm (sorted ++ m :: rest) :=
      ((perm_insertMember hm).append_right rest).trans hmiddle
    have hmore := ih ((hinsert.map Prod.fst).nodup_iff.mpr hkeys)
    exact hmore.trans hinsert

/-- Members of different keys are put in order, none is lost. -/
theorem perm_sortMembers (hkeys : (members.map Prod.fst).Nodup) :
    (sortMembers members).Perm members :=
  perm_foldl_insertMember hkeys

/-! ## Canonical values -/

/-- The keys of every object are in ascending order of their bytes, at every depth. -/
inductive Ascending : Json → Prop
  | null : Ascending .null
  | bool (value : Bool) : Ascending (.bool value)
  | number (n : Number) : Ascending (.number n)
  | string (s : String) : Ascending (.string s)
  | array {items : List Json} (hitems : ∀ item ∈ items, Ascending item) :
      Ascending (.array items)
  | object {members : List Member}
      (hkeys : members.Pairwise fun a b ↦ Utf8.encode a.1 < Utf8.encode b.1)
      (hmembers : ∀ m ∈ members, Ascending m.2) : Ascending (.object members)

/-- A member with its value made canonical. -/
def canonicalMember (m : Member) : Member := (m.1, m.2.canonical)

theorem canonical_array (items : List Json) :
    (Json.array items).canonical = .array (items.map canonical) := by
  rw [canonical, canonicalItems_eq_map]

theorem canonical_object (members : List Member) :
    (Json.object members).canonical =
      .object (sortMembers (members.map canonicalMember)) := by
  rw [canonical, canonicalMembers_eq_map]
  rfl

theorem exists_of_mem_canonical {m : Member}
    (hm : m ∈ sortMembers (members.map canonicalMember)) :
    ∃ other ∈ members, canonicalMember other = m :=
  List.mem_map.mp (mem_of_mem_sortMembers m hm)

theorem Fits.canonical (hfits : Fits room v) : Fits room v.canonical := by
  induction hfits with
  | null room => exact .null room
  | bool room value => exact .bool room value
  | integer room hlow hhigh => exact .integer room hlow hhigh
  | real room negative m => exact .real room negative m
  | string room s => exact .string room s
  | array _ ih =>
    rw [canonical_array]
    apply Fits.array
    intro item hitem
    obtain ⟨other, hother, rfl⟩ := List.mem_map.mp hitem
    exact ih other hother
  | object _ ih =>
    rw [canonical_object]
    apply Fits.object
    intro m hm
    obtain ⟨other, hother, rfl⟩ := exists_of_mem_canonical hm
    exact ih other hother

theorem Fits.ascending_canonical (hfits : Fits room v) : Ascending v.canonical := by
  induction hfits with
  | null => exact .null
  | bool _ value => exact .bool value
  | integer => exact .number _
  | real => exact .number _
  | string _ s => exact .string s
  | array _ ih =>
    rw [canonical_array]
    apply Ascending.array
    intro item hitem
    obtain ⟨other, hother, rfl⟩ := List.mem_map.mp hitem
    exact ih other hother
  | object _ ih =>
    rw [canonical_object]
    apply Ascending.object
    · exact (sorted_sortMembers _).imp fun hlt ↦ Utf8.encode_lt_iff.mpr hlt
    · intro m hm
      obtain ⟨other, hother, rfl⟩ := exists_of_mem_canonical hm
      exact ih other hother

/-- A value in order is canonical. -/
theorem Ascending.canonical_eq (hascending : Ascending v) : v.canonical = v := by
  induction hascending with
  | null => rfl
  | bool => rfl
  | number => rfl
  | string => rfl
  | @array items _ ih =>
    rw [canonical_array, List.map_congr_left ih, List.map_id']
  | @object members hkeys _ ih =>
    have hsame : members.map canonicalMember = members := by
      conv_rhs => rw [← List.map_id members]
      exact List.map_congr_left fun m hm ↦ Prod.ext rfl (ih m hm)
    have hsorted : Sorted members := hkeys.imp fun hlt ↦ Utf8.encode_lt_iff.mp hlt
    rw [canonical_object, hsame, hsorted.sortMembers_eq]

theorem map_keys_eq {α : Type} {members found : List Member} (f : String → α)
    (hfound : List.Forall₂ MemberReread members found) :
    found.map (fun m ↦ f m.1) = members.map fun m ↦ f m.1 := by
  induction hfound with
  | nil => rfl
  | cons hm _ ih => rw [List.map_cons, List.map_cons, hm.1, ih]

/-- Keys that stand in order are read in order. -/
theorem Ascending.reread {w : Json} (hascending : Ascending v) (hreread : v.reread = some w) :
    Ascending w := by
  induction hascending generalizing w with
  | null =>
    cases hreread
    exact .null
  | bool value =>
    cases hreread
    exact .bool value
  | string s =>
    cases hreread
    exact .string s
  | number n =>
    obtain ⟨found, _, rfl⟩ := Option.map_eq_some_iff.mp hreread
    exact .number found
  | array _ ih =>
    obtain ⟨found, hparts, rfl⟩ := Option.map_eq_some_iff.mp hreread
    have hfound := rereadItems_eq_some.mp hparts
    apply Ascending.array
    intro item hitem
    obtain ⟨written, hwritten, hread⟩ := exists_of_forall₂ hfound.flip item hitem
    exact ih written hwritten hread
  | object hkeys _ ih =>
    obtain ⟨found, hparts, rfl⟩ := Option.map_eq_some_iff.mp hreread
    have hfound := rereadMembers_eq_some.mp hparts
    apply Ascending.object
    · rw [← List.pairwise_map] at hkeys ⊢
      rwa [map_keys_eq Utf8.encode hfound]
    · intro m hm
      obtain ⟨written, hwritten, hread⟩ := exists_of_forall₂ hfound.flip m hm
      exact ih written hwritten hread.2

/-- Canonical values lie within the same limits. -/
theorem Plain.canonical (hplain : Plain room v) : Plain room v.canonical := by
  induction hplain with
  | null room => exact .null room
  | bool room value => exact .bool room value
  | integer room hlow hhigh => exact .integer room hlow hhigh
  | string room s => exact .string room s
  | array _ ih =>
    rw [canonical_array]
    apply Plain.array
    intro item hitem
    obtain ⟨other, hother, rfl⟩ := List.mem_map.mp hitem
    exact ih other hother
  | @object room members hkeys _ ih =>
    rw [canonical_object]
    apply Plain.object
    · exact (sorted_sortMembers _).map Prod.fst (fun _ _ hlt ↦ hlt.ne)
    · intro m hm
      obtain ⟨other, hother, rfl⟩ := exists_of_mem_canonical hm
      exact ih other hother

end Courier.Json
