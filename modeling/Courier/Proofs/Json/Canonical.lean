import Courier.Json.Value
import Mathlib.Data.List.Forall2
import Mathlib.Data.List.Nodup
import Mathlib.Data.String.Basic

/-!
# Members in any order

The order of members with different keys does not count: neither for what a key is looked up as nor
for the canonical value.
-/

namespace Courier.Json

variable {key : String} {value : Json} {members written found : List Member} {items : List Json}

/-! ## Sorted members -/

section Insert

variable {k k' : String} (v v' : Json) (rest : List Member)

theorem insertMember_of_lt (hlt : k < k') :
    insertMember k v ((k', v') :: rest) = (k, v) :: (k', v') :: rest := if_pos hlt

theorem insertMember_self : insertMember k v ((k, v') :: rest) = (k, v) :: rest := by
  rw [insertMember, if_neg (lt_irrefl k), if_pos rfl]

theorem insertMember_of_gt (hlt : k' < k) :
    insertMember k v ((k', v') :: rest) = (k', v') :: insertMember k v rest := by
  rw [insertMember, if_neg hlt.not_gt, if_neg hlt.ne']

theorem insertMember_comm_of_lt (hlt : k < k') (sorted : List Member) :
    insertMember k v (insertMember k' v' sorted) =
      insertMember k' v' (insertMember k v sorted) := by
  induction sorted with
  | nil => exact (insertMember_of_lt v v' [] hlt).trans (insertMember_of_gt v' v [] hlt).symm
  | cons member rest ih =>
    obtain ⟨middle, x⟩ := member
    rcases lt_trichotomy k' middle with hbefore | rfl | hafter
    · rw [insertMember_of_lt _ _ _ hbefore, insertMember_of_lt _ _ _ (hlt.trans hbefore),
        insertMember_of_lt _ _ _ hlt, insertMember_of_gt _ _ _ hlt,
        insertMember_of_lt _ _ _ hbefore]
    · rw [insertMember_self, insertMember_of_lt _ _ _ hlt, insertMember_of_lt _ _ _ hlt,
        insertMember_of_gt _ _ _ hlt, insertMember_self]
    · rw [insertMember_of_gt _ _ _ hafter]
      rcases lt_trichotomy k middle with hfirst | rfl | hlast
      · rw [insertMember_of_lt _ _ _ hfirst, insertMember_of_lt _ _ _ hfirst,
          insertMember_of_gt _ _ _ hlt, insertMember_of_gt _ _ _ hafter]
      · rw [insertMember_self, insertMember_self, insertMember_of_gt _ _ _ hlt]
      · rw [insertMember_of_gt _ _ _ hlast, insertMember_of_gt _ _ _ hlast,
          insertMember_of_gt _ _ _ hafter, ih]

theorem insertMember_comm (hne : k ≠ k') (sorted : List Member) :
    insertMember k v (insertMember k' v' sorted) =
      insertMember k' v' (insertMember k v sorted) := by
  rcases lt_or_gt_of_ne hne with hlt | hlt
  · exact insertMember_comm_of_lt v v' hlt sorted
  · exact (insertMember_comm_of_lt v' v hlt sorted).symm

end Insert

theorem sortMembers_perm (hperm : written.Perm members)
    (hkeys : (members.map Prod.fst).Nodup) : sortMembers written = sortMembers members := by
  apply hperm.foldl_eq'
  intro x hx y hy sorted
  rcases eq_or_ne x y with rfl | hne
  · rfl
  · apply insertMember_comm
    intro hkey
    have hinj := List.inj_on_of_nodup_map hkeys
    exact hne (hinj (hperm.subset hx) (hperm.subset hy) hkey.symm)

theorem canonicalItems_eq_map (items : List Json) :
    canonicalItems items = items.map canonical := by
  induction items with
  | nil => rfl
  | cons item rest ih => rw [canonicalItems, ih, List.map_cons]

theorem canonicalMembers_eq_map (members : List Member) :
    canonicalMembers members = members.map fun member ↦ (member.1, member.2.canonical) := by
  induction members with
  | nil => rfl
  | cons member rest ih => rw [canonicalMembers, ih, List.map_cons]

/-! ## Values that are the same -/

/-- A member with the same key that stands for the same value. -/
def SameMember (member found : Member) : Prop :=
  found.1 = member.1 ∧ found.2.canonical = member.2.canonical

theorem canonical_array_eq {found : List Json}
    (hfound : List.Forall₂ (fun item found ↦ found.canonical = item.canonical) items found) :
    (Json.array found).canonical = (Json.array items).canonical := by
  rw [canonical, canonical, canonicalItems_eq_map, canonicalItems_eq_map]
  congr 1
  induction hfound with
  | nil => rfl
  | cons hitem _ ih => rw [List.map_cons, List.map_cons, hitem, ih]

theorem canonical_object_eq (hfound : List.Forall₂ SameMember written found)
    (hperm : written.Perm members) (hkeys : (members.map Prod.fst).Nodup) :
    (Json.object found).canonical = (Json.object members).canonical := by
  have hsame : canonicalMembers found = canonicalMembers written := by
    rw [canonicalMembers_eq_map, canonicalMembers_eq_map]
    clear hperm
    induction hfound with
    | nil => rfl
    | cons hmember _ ih => rw [List.map_cons, List.map_cons, hmember.1, hmember.2, ih]
  rw [canonical, canonical, hsame]
  congr 1
  apply sortMembers_perm
  · rw [canonicalMembers_eq_map, canonicalMembers_eq_map]
    exact hperm.map _
  · rw [canonicalMembers_eq_map, List.map_map]
    exact hkeys

/-! ## Lookups -/

theorem lookup_cons (key k : String) (v : Json) (rest : List Member) :
    lookup key ((k, v) :: rest) = (lookup key rest).or (if k = key then some v else none) := by
  rw [lookup]
  cases lookup key rest <;> rfl

theorem mem_of_lookup_eq_some (hlookup : lookup key members = some value) :
    (key, value) ∈ members := by
  induction members with
  | nil => contradiction
  | cons member rest ih =>
    obtain ⟨k, v⟩ := member
    rw [lookup_cons] at hlookup
    rcases Option.or_eq_some_iff.mp hlookup with hlater | ⟨_, hfirst⟩
    · exact List.mem_cons_of_mem _ (ih hlater)
    · obtain ⟨rfl, hv⟩ := Option.ite_none_right_eq_some.mp hfirst
      rw [Option.some.inj hv]
      exact List.mem_cons_self

theorem lookup_eq_some_iff (hkeys : (members.map Prod.fst).Nodup) :
    lookup key members = some value ↔ (key, value) ∈ members := by
  induction members generalizing value with
  | nil => simp [lookup]
  | cons member rest ih =>
    obtain ⟨k, v⟩ := member
    rw [List.map_cons, List.nodup_cons] at hkeys
    have hrest (other : Json) : lookup key rest = some other ↔ (key, other) ∈ rest := ih hkeys.2
    have hfresh (other : Json) : (k, other) ∉ rest := fun hmem ↦
      hkeys.1 (List.mem_map.mpr ⟨(k, other), hmem, rfl⟩)
    rw [lookup_cons, List.mem_cons, ← hrest]
    cases hlater : lookup key rest with
    | some later =>
      have hne : k ≠ key := by
        rintro rfl
        exact hfresh later ((hrest later).mp hlater)
      have hout : (key, value) ≠ (k, v) := fun heq ↦ hne (congrArg Prod.fst heq).symm
      rw [or_iff_right hout, Option.some_or]
    | none =>
      rw [Option.none_or, or_iff_left (by simp)]
      by_cases hkey : k = key
      · simp [hkey, eq_comm]
      · simp [hkey, Ne.symm hkey]

theorem lookup_perm (hperm : written.Perm members) (hkeys : (members.map Prod.fst).Nodup) :
    lookup key written = lookup key members := by
  have hwritten : (written.map Prod.fst).Nodup := (hperm.map Prod.fst).nodup_iff.mpr hkeys
  ext value
  rw [lookup_eq_some_iff hwritten, lookup_eq_some_iff hkeys]
  exact hperm.mem_iff

/-- What a key is looked up as depends on the members up to sameness. -/
theorem map_lookup_eq (hfound : List.Forall₂ SameMember written found) :
    (lookup key found).map canonical = (lookup key written).map canonical := by
  induction hfound with
  | nil => rfl
  | @cons member other written found hmember _ ih =>
    obtain ⟨k, v⟩ := member
    obtain ⟨k', v'⟩ := other
    obtain ⟨hkey, hvalue⟩ := hmember
    have hkey : k' = k := hkey
    have hvalue : v'.canonical = v.canonical := hvalue
    rw [lookup_cons, lookup_cons, hkey]
    cases hlater : lookup key found with
    | some later =>
      rw [hlater] at ih
      obtain ⟨other, hother, hsame⟩ := Option.map_eq_some_iff.mp ih.symm
      rw [hother, Option.some_or, Option.some_or, Option.map_some, Option.map_some, hsame]
    | none =>
      rw [hlater] at ih
      rw [Option.map_eq_none_iff.mp ih.symm, Option.none_or, Option.none_or]
      split
      · exact congrArg some hvalue
      · rfl

end Courier.Json
