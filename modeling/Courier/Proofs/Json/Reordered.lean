import Courier.Proofs.Json.Sorted
import Mathlib.Data.List.Perm.Basic

/-!
# Values up to the order of members

Two values are the same up to the order of the members of their objects, at every depth, exactly if
they have one canonical value.  The items of lists keep their order.
-/

namespace Courier.Json

variable {v w : Json} {room room' : Nat} {items others : List Json} {members : List Member}

mutual

/-- The members of an object may stand in any order, those of its parts too. -/
inductive Reordered : Json → Json → Prop
  | null : Reordered .null .null
  | bool (value : Bool) : Reordered (.bool value) (.bool value)
  | number (n : Number) : Reordered (.number n) (.number n)
  | string (s : String) : Reordered (.string s) (.string s)
  | array {items others : List Json} (hitems : List.Forall₂ Reordered items others) :
      Reordered (.array items) (.array others)
  | object {members found moved : List Member} (hmembers : List.Forall₂ SameKey members found)
      (horder : found.Perm moved) : Reordered (.object members) (.object moved)

inductive SameKey : Member → Member → Prop
  | value {key : String} {v w : Json} (hvalue : Reordered v w) : SameKey (key, v) (key, w)

end

/-! ## Lists of parts -/

theorem forall₂_imp_of_mem {α β : Type} {p q : α → β → Prop} {l : List α} {l' : List β}
    (himp : ∀ a ∈ l, ∀ b ∈ l', p a b → q a b) (hall : List.Forall₂ p l l') :
    List.Forall₂ q l l' := by
  induction hall with
  | nil => exact .nil
  | cons hab _ ih =>
    apply List.Forall₂.cons
    · exact himp _ List.mem_cons_self _ List.mem_cons_self hab
    · exact ih fun a ha b hb ↦ himp a (List.mem_cons_of_mem _ ha) b (List.mem_cons_of_mem _ hb)

theorem forall₂_congr_of_mem {α β : Type} {p q : α → β → Prop} {l : List α} {l' : List β}
    (hiff : ∀ a ∈ l, ∀ b ∈ l', p a b ↔ q a b) : List.Forall₂ p l l' ↔ List.Forall₂ q l l' :=
  ⟨forall₂_imp_of_mem fun a ha b hb ↦ (hiff a ha b hb).mp,
    forall₂_imp_of_mem fun a ha b hb ↦ (hiff a ha b hb).mpr⟩

theorem map_eq_map_iff_forall₂ {α β : Type} {f : α → β} {l l' : List α} :
    l.map f = l'.map f ↔ List.Forall₂ (fun a b ↦ f a = f b) l l' := by
  rw [← List.forall₂_eq_eq_eq, List.forall₂_map_left_iff, List.forall₂_map_right_iff]

/-- Members with different keys are sorted to one list exactly if they are members in another
order. -/
theorem sortMembers_eq_iff {moved : List Member} (hkeys : (members.map Prod.fst).Nodup)
    (hmoved : (moved.map Prod.fst).Nodup) :
    sortMembers members = sortMembers moved ↔ members.Perm moved := by
  constructor
  · intro heq
    apply (perm_sortMembers hkeys).symm.trans
    rw [heq]
    exact perm_sortMembers hmoved
  · exact fun hperm ↦ sortMembers_perm hperm hmoved

/-- A list whose images are a permutation of other images is one up to equal images. -/
theorem map_perm_map_iff {α β : Type} {f : α → β} {l l' : List α} :
    (l.map f).Perm (l'.map f) ↔ ∃ found : List α, l.map f = found.map f ∧ found.Perm l' :=
  (iff_of_eq (congrFun (congrFun (List.eq_map_comp_perm f) (l.map f)) l')).symm

theorem keys_canonicalMember (members : List Member) :
    (members.map canonicalMember).map Prod.fst = members.map Prod.fst := by
  rw [List.map_map]
  rfl

theorem sameKey_iff {m other : Member} :
    SameKey m other ↔ m.1 = other.1 ∧ Reordered m.2 other.2 := by
  constructor
  · rintro ⟨hvalue⟩
    exact ⟨rfl, hvalue⟩
  · obtain ⟨key, v⟩ := m
    obtain ⟨key', w⟩ := other
    rintro ⟨rfl, hvalue⟩
    exact .value hvalue

theorem reordered_array_iff :
    Reordered (.array items) (.array others) ↔ List.Forall₂ Reordered items others := by
  constructor
  · intro hreordered
    cases hreordered with
    | array hitems => exact hitems
  · exact .array

theorem reordered_object_iff {moved : List Member} :
    Reordered (.object members) (.object moved) ↔
      ∃ found, List.Forall₂ SameKey members found ∧ found.Perm moved := by
  constructor
  · intro hreordered
    cases hreordered with
    | object hmembers horder => exact ⟨_, hmembers, horder⟩
  · rintro ⟨found, hmembers, horder⟩
    exact .object hmembers horder

/-! ## One canonical value -/

theorem canonical_array_eq_iff
    (hitems : ∀ item ∈ items, ∀ other ∈ others,
      item.canonical = other.canonical ↔ Reordered item other) :
    (Json.array items).canonical = (Json.array others).canonical ↔
      Reordered (.array items) (.array others) := by
  calc (Json.array items).canonical = (Json.array others).canonical
    _ ↔ items.map canonical = others.map canonical := by
      rw [canonical_array, canonical_array, Json.array.injEq]
    _ ↔ List.Forall₂ (fun item other ↦ item.canonical = other.canonical) items others :=
      map_eq_map_iff_forall₂
    _ ↔ List.Forall₂ Reordered items others := forall₂_congr_of_mem hitems
    _ ↔ Reordered (.array items) (.array others) := reordered_array_iff.symm

theorem canonical_object_eq_iff {moved : List Member} (hkeys : (members.map Prod.fst).Nodup)
    (hmovedKeys : (moved.map Prod.fst).Nodup)
    (hmembers : ∀ m ∈ members, ∀ other ∈ moved,
      m.2.canonical = other.2.canonical ↔ Reordered m.2 other.2) :
    (Json.object members).canonical = (Json.object moved).canonical ↔
      Reordered (.object members) (.object moved) := by
  calc (Json.object members).canonical = (Json.object moved).canonical
    _ ↔ (members.map canonicalMember).Perm (moved.map canonicalMember) := by
      rw [canonical_object, canonical_object, Json.object.injEq]
      apply sortMembers_eq_iff
      · rwa [keys_canonicalMember]
      · rwa [keys_canonicalMember]
    _ ↔ ∃ found : List Member,
        members.map canonicalMember = found.map canonicalMember ∧ found.Perm moved :=
      map_perm_map_iff
    _ ↔ ∃ found, List.Forall₂ SameKey members found ∧ found.Perm moved := by
      apply exists_congr
      intro found
      apply and_congr_left
      intro horder
      rw [map_eq_map_iff_forall₂]
      apply forall₂_congr_of_mem
      intro m hm other hother
      have hvalue := hmembers m hm other (horder.subset hother)
      rw [canonicalMember, canonicalMember, Prod.mk.injEq, hvalue, sameKey_iff]
    _ ↔ Reordered (.object members) (.object moved) := reordered_object_iff.symm

/-- Values are reordered exactly if they have one canonical value. -/
theorem canonical_eq_iff (hv : Plain room v) (hw : Plain room' w) :
    v.canonical = w.canonical ↔ Reordered v w := by
  -- Values of different kinds are neither reordered nor of one canonical value.
  induction hv generalizing w room' with
  | null =>
    cases hw with
    | null => exact iff_of_true rfl .null
    | _ => exact iff_of_false (by simp [canonical]) (by rintro ⟨⟩)
  | bool _ value =>
    cases hw with
    | bool _ other =>
      constructor
      · rintro ⟨⟩
        exact .bool value
      · rintro ⟨⟩
        rfl
    | _ => exact iff_of_false (by simp [canonical]) (by rintro ⟨⟩)
  | @integer _ n _ _ =>
    cases hw with
    | integer _ _ _ =>
      constructor
      · rintro ⟨⟩
        exact .number _
      · rintro ⟨⟩
        rfl
    | _ => exact iff_of_false (by simp [canonical]) (by rintro ⟨⟩)
  | string _ s =>
    cases hw with
    | string _ t =>
      constructor
      · rintro ⟨⟩
        exact .string s
      · rintro ⟨⟩
        rfl
    | _ => exact iff_of_false (by simp [canonical]) (by rintro ⟨⟩)
  | array _ ih =>
    cases hw with
    | array hothers =>
      exact canonical_array_eq_iff fun item hitem other hother ↦
        ih item hitem (hothers other hother)
    | _ => exact iff_of_false (by simp [canonical]) (by rintro ⟨⟩)
  | object hkeys _ ih =>
    cases hw with
    | object hmovedKeys hmoved =>
      exact canonical_object_eq_iff hkeys hmovedKeys fun m hm other hother ↦
        ih m hm (hmoved other hother)
    | _ => exact iff_of_false (by simp [canonical]) (by rintro ⟨⟩)

end Courier.Json
