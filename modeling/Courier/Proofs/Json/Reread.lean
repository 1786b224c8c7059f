import Courier.Proofs.Json.Printed

/-!
# Reading printed values

The printed text of a value is read back with each number as the number's own text is read.  An
integer is read as it was; a real number is scaled once from its shortest decimal, which need not
give the same number.
-/

namespace Courier.Json

open Reader

variable {room : Nat} {rest : Bytes} {v w : Json}

/-! ## Values of the reader -/

/-- At most `room` containers stand inside each other, and integers have 64 bits. -/
inductive Fits : Nat → Json → Prop
  | null (room : Nat) : Fits room .null
  | bool (room : Nat) (value : Bool) : Fits room (.bool value)
  | integer (room : Nat) {value : Int} (hlow : -2 ^ 63 ≤ value) (hhigh : value < 2 ^ 64) :
      Fits room (.number (.integer value))
  | real (room : Nat) (negative : Bool) (m : Magnitude) :
      Fits room (.number (.real negative m))
  | string (room : Nat) (s : String) : Fits room (.string s)
  | array {room : Nat} {items : List Json} (hitems : ∀ item ∈ items, Fits room item) :
      Fits (room + 1) (.array items)
  | object {room : Nat} {members : List Member} (hmembers : ∀ m ∈ members, Fits room m.2) :
      Fits (room + 1) (.object members)

theorem Plain.fits (hplain : Plain room v) : Fits room v := by
  induction hplain with
  | null room => exact .null room
  | bool room value => exact .bool room value
  | integer room hlow hhigh => exact .integer room hlow hhigh
  | string room s => exact .string room s
  | array _ ih => exact .array ih
  | object _ _ ih => exact .object ih

/-! ## Values read again -/

/-- The number that the text of a number is read as. -/
def Number.reread : Number → Option Number
  | .integer n => some (.integer n)
  | .real negative m =>
    let d := taken (m.shortest .toEven)
    (scaled negative d.digits d.exponent []).toOption.map Prod.fst

mutual

/-- The value with every number read again. -/
def reread : Json → Option Json
  | .number n => n.reread.map .number
  | .array items => (rereadItems items).map .array
  | .object members => (rereadMembers members).map .object
  | value => some value

def rereadItems : List Json → Option (List Json)
  | [] => some []
  | item :: rest => do
    let item ← item.reread
    let rest ← rereadItems rest
    some (item :: rest)

def rereadMembers : List Member → Option (List Member)
  | [] => some []
  | (key, value) :: rest => do
    let value ← value.reread
    let rest ← rereadMembers rest
    some ((key, value) :: rest)

end

/-- A member whose value is read again. -/
def MemberReread (m found : Member) : Prop := found.1 = m.1 ∧ m.2.reread = some found.2

theorem rereadItems_eq_some {items found : List Json} :
    rereadItems items = some found ↔
      List.Forall₂ (fun item found ↦ item.reread = some found) items found := by
  induction items generalizing found with
  | nil => cases found <;> simp [rereadItems]
  | cons item rest ih =>
    cases found with
    | nil => simp [rereadItems, Option.bind_eq_some_iff]
    | cons a found => simp [rereadItems, Option.bind_eq_some_iff, ih]

theorem rereadMembers_eq_some {members found : List Member} :
    rereadMembers members = some found ↔ List.Forall₂ MemberReread members found := by
  induction members generalizing found with
  | nil => cases found <;> simp [rereadMembers]
  | cons m rest ih =>
    obtain ⟨key, value⟩ := m
    cases found with
    | nil => simp [rereadMembers, Option.bind_eq_some_iff]
    | cons a found =>
      obtain ⟨key', value'⟩ := a
      simp only [rereadMembers, bind, Option.bind_eq_some_iff, Option.some.injEq, List.cons.injEq,
        Prod.mk.injEq, List.forall₂_cons, MemberReread, ← ih]
      constructor
      · rintro ⟨_, hvalue, _, hrest, ⟨rfl, rfl⟩, rfl⟩
        exact ⟨⟨rfl, hvalue⟩, hrest⟩
      · rintro ⟨⟨rfl, hvalue⟩, hrest⟩
        exact ⟨value', hvalue, found, hrest, ⟨rfl, rfl⟩, rfl⟩

/-! ## Numbers -/

theorem scaled_append {negative : Bool} {significand : Nat} {exponent : Int} {n : Number}
    (hread : (scaled negative significand exponent []).toOption.map Prod.fst = some n)
    (rest : Bytes) : scaled negative significand exponent rest = .ok (n, rest) := by
  unfold scaled at hread ⊢
  split at hread
  · next heq =>
    cases hread
    rfl
  · cases hread

/-- The text of a number is read as the number read again. -/
theorem value_number {n found : Number} (hfits : Fits room (.number n))
    (hfound : n.reread = some found) (hrest : Stops rest) :
    value room (Utf8.encodeChars n.chars ++ rest) = .ok (.number found, rest) := by
  cases n with
  | integer n =>
    cases hfound
    cases hfits with
    | integer _ hlow hhigh => exact value_integer hlow hhigh hrest
  | real negative m =>
    have hnumber : Reader.number negative (Utf8.encodeChars m.scientific ++ rest) =
        .ok (found, rest) := by
      rw [number_scientific m hrest]
      exact scaled_append hfound rest
    cases negative with
    | false =>
      obtain ⟨b, s, htext, hdigit⟩ := exists_encode_scientific m
      obtain ⟨hspace, hlist, _, hobject⟩ := digit_begins hdigit
      rw [htext] at hnumber
      calc value room (Utf8.encodeChars m.scientific ++ rest)
        _ = value.scalar (b :: (s ++ rest)) := by
          rw [htext, List.cons_append, value_eq_scalar hspace hlist hobject]
        _ = .ok (.number found, rest) := by
          rw [scalar_of_digit hdigit, ← List.cons_append, hnumber]
          rfl
    | true =>
      calc value room (45 :: (Utf8.encodeChars m.scientific ++ rest))
        _ = value.scalar (45 :: (Utf8.encodeChars m.scientific ++ rest)) :=
          value_eq_scalar (by decide) (by decide) (by decide) _
        _ = (Reader.number true (Utf8.encodeChars m.scientific ++ rest)).map
            fun found ↦ (.number found.1, found.2) := rfl
        _ = .ok (.number found, rest) := by
          rw [hnumber]
          rfl

/-! ## Values -/

theorem exists_of_forall₂ {α β : Type} {p : α → β → Prop} {l : List α} {found : List β}
    (hfound : List.Forall₂ p l found) : ∀ a ∈ l, ∃ b ∈ found, p a b := by
  induction hfound with
  | nil => simp
  | cons hab _ ih =>
    intro a ha
    rcases List.mem_cons.mp ha with rfl | ha
    · exact ⟨_, List.mem_cons_self, hab⟩
    · obtain ⟨b, hb, hab⟩ := ih a ha
      exact ⟨b, List.mem_cons_of_mem _ hb, hab⟩

/-- An item is taken up as its value read again. -/
theorem takenUp_bytes {item a : Json} (hsome : item.reread = some a)
    (hread : ∀ {a rest}, item.reread = some a → Stops rest →
      value room (item.bytes ++ rest) = .ok (a, rest)) :
    TakenUp nextItem (value room) (fun found ↦ item.reread = some found) item.bytes :=
  takenUp_of_head (exists_head_bytes item) fun _ hrest ↦ ⟨a, hsome, hread hsome hrest⟩

theorem takenUp_memberBytes {m found : Member} (hsome : MemberReread m found)
    (hread : ∀ {a rest}, m.2.reread = some a → Stops rest →
      value room (m.2.bytes ++ rest) = .ok (a, rest)) :
    TakenUp nextMember (member (value room)) (MemberReread m) (memberBytes m) := by
  obtain ⟨key, a⟩ := found
  obtain ⟨rfl, ha⟩ := hsome
  have hblank : IsBlank [] := by simp [IsBlank]
  have hvalue : ∀ rest, Stops rest → ∃ found, MemberReread m (m.1, found) ∧
      value room (m.2.bytes ++ rest) = .ok (found, rest) :=
    fun _ hrest ↦ ⟨a, ⟨rfl, ha⟩, hread ha hrest⟩
  have htaken := takenUp_of_key (stringSpells_stringChars m.1) hblank hblank hvalue
  rwa [List.nil_append, List.nil_append] at htaken

/-- The printed text of a value is read back as the value with its numbers read again. -/
theorem value_bytes (hfits : Fits room v) (hreread : v.reread = some w) (hrest : Stops rest) :
    value room (v.bytes ++ rest) = .ok (w, rest) := by
  induction hfits generalizing w rest with
  | null room =>
    cases hreread
    exact value_word (by decide) (by decide) (by decide) (fun _ ↦ rfl) rest
  | bool room value =>
    cases hreread
    cases value
    · exact value_word (by decide) (by decide) (by decide) (fun _ ↦ rfl) rest
    · exact value_word (by decide) (by decide) (by decide) (fun _ ↦ rfl) rest
  | integer room hlow hhigh =>
    cases hreread
    exact value_integer hlow hhigh hrest
  | real room negative m =>
    obtain ⟨found, hfound, rfl⟩ := Option.map_eq_some_iff.mp hreread
    exact value_number (.real room negative m) hfound hrest
  | string room s =>
    cases hreread
    exact value_string (stringSpells_stringChars s) rest
  | @array room items hitems ih =>
    obtain ⟨found, hparts, rfl⟩ := Option.map_eq_some_iff.mp hreread
    have hfound := rereadItems_eq_some.mp hparts
    obtain ⟨text, hlisted, htext⟩ := exists_listed_items items
    have htaken : ∀ item ∈ items, ∀ text, text = item.bytes →
        TakenUp nextItem (value room) (fun found ↦ item.reread = some found) text := by
      rintro item hitem _ rfl
      obtain ⟨a, _, ha⟩ := exists_of_forall₂ hfound item hitem
      exact takenUp_bytes ha (ih item hitem)
    obtain ⟨found', hfound', hvalue⟩ := value_array_of_parts hlisted htaken rest
    have hsame : found = found' :=
      Option.some.inj (hparts.symm.trans (rereadItems_eq_some.mpr hfound'))
    rw [htext, hsame, List.cons_append, List.append_assoc]
    exact hvalue
  | @object room members hmembers ih =>
    obtain ⟨found, hparts, rfl⟩ := Option.map_eq_some_iff.mp hreread
    have hfound := rereadMembers_eq_some.mp hparts
    obtain ⟨text, hlisted, htext⟩ := exists_listed_members members
    have htaken : ∀ m ∈ members, ∀ text, text = memberBytes m →
        TakenUp nextMember (member (value room)) (MemberReread m) text := by
      rintro m hm _ rfl
      obtain ⟨a, _, ha⟩ := exists_of_forall₂ hfound m hm
      exact takenUp_memberBytes ha (ih m hm)
    obtain ⟨found', hfound', hvalue⟩ := value_object_of_parts hlisted htaken rest
    have hsame : found = found' :=
      Option.some.inj (hparts.symm.trans (rereadMembers_eq_some.mpr hfound'))
    rw [htext, hsame, List.cons_append, List.append_assoc]
    exact hvalue

/-! ## Steady values -/

/-- Every number, at whatever depth, has the property. -/
inductive EveryNumber (p : Number → Prop) : Json → Prop
  | null : EveryNumber p .null
  | bool (value : Bool) : EveryNumber p (.bool value)
  | number {n : Number} (hn : p n) : EveryNumber p (.number n)
  | string (s : String) : EveryNumber p (.string s)
  | array {items : List Json} (hitems : ∀ item ∈ items, EveryNumber p item) :
      EveryNumber p (.array items)
  | object {members : List Member} (hmembers : ∀ m ∈ members, EveryNumber p m.2) :
      EveryNumber p (.object members)

theorem EveryNumber.imp {p q : Number → Prop} (himp : ∀ n, p n → q n) (hv : EveryNumber p v) :
    EveryNumber q v := by
  induction hv with
  | null => exact .null
  | bool value => exact .bool value
  | number hn => exact .number (himp _ hn)
  | string s => exact .string s
  | array _ ih => exact .array ih
  | object _ ih => exact .object ih

/-- The number is read as it was written. -/
def Steady (n : Number) : Prop := n.reread = some n

theorem reread_eq_of_steady (hsteady : EveryNumber Steady v) : v.reread = some v := by
  induction hsteady with
  | null => rfl
  | bool => rfl
  | string => rfl
  | number hn => rw [reread, hn, Option.map_some]
  | @array items _ ih =>
    rw [reread, rereadItems_eq_some.mpr (List.forall₂_same.mpr ih), Option.map_some]
  | @object members _ ih =>
    have hsame : List.Forall₂ MemberReread members members :=
      List.forall₂_same.mpr fun m hm ↦ ⟨rfl, ih m hm⟩
    rw [reread, rereadMembers_eq_some.mpr hsame, Option.map_some]

theorem Fits.steady (hfits : Fits room v) (hreread : v.reread = some v) :
    EveryNumber Steady v := by
  induction hfits with
  | null => exact .null
  | bool _ value => exact .bool value
  | string _ s => exact .string s
  | integer => exact .number rfl
  | real =>
    obtain ⟨found, hfound, hsame⟩ := Option.map_eq_some_iff.mp hreread
    cases hsame
    exact .number hfound
  | array _ ih =>
    obtain ⟨found, hfound, hsame⟩ := Option.map_eq_some_iff.mp hreread
    cases hsame
    have hitems := List.forall₂_same.mp (rereadItems_eq_some.mp hfound)
    exact .array fun item hitem ↦ ih item hitem (hitems item hitem)
  | object _ ih =>
    obtain ⟨found, hfound, hsame⟩ := Option.map_eq_some_iff.mp hreread
    cases hsame
    have hmembers := List.forall₂_same.mp (rereadMembers_eq_some.mp hfound)
    exact .object fun m hm ↦ ih m hm (hmembers m hm).2

/-- Values without real numbers are steady. -/
theorem Plain.steady (hplain : Plain room v) : EveryNumber Steady v := by
  induction hplain with
  | null => exact .null
  | bool _ value => exact .bool value
  | string _ s => exact .string s
  | integer => exact .number rfl
  | array _ ih => exact .array ih
  | object _ _ ih => exact .object ih

theorem Plain.reread (hplain : Plain room v) : v.reread = some v :=
  reread_eq_of_steady hplain.steady

theorem Fits.mono {more : Nat} (hfits : Fits room v) (hmore : room ≤ more) : Fits more v := by
  induction hfits generalizing more with
  | null => exact .null more
  | bool _ value => exact .bool more value
  | integer _ hlow hhigh => exact .integer more hlow hhigh
  | real _ negative m => exact .real more negative m
  | string _ s => exact .string more s
  | array _ ih =>
    obtain ⟨more, rfl⟩ := Nat.exists_eq_add_of_le' (Nat.one_le_of_lt hmore)
    exact .array fun item hitem ↦ ih item hitem (Nat.le_of_succ_le_succ hmore)
  | object _ ih =>
    obtain ⟨more, rfl⟩ := Nat.exists_eq_add_of_le' (Nat.one_le_of_lt hmore)
    exact .object fun m hm ↦ ih m hm (Nat.le_of_succ_le_succ hmore)

theorem stops_nil : Stops [] := by simp [Stops]

/-- Different values without real numbers have different texts. -/
theorem Plain.eq_of_bytes_eq {room' : Nat} (hv : Plain room v) (hw : Plain room' w)
    (hbytes : v.bytes = w.bytes) : v = w := by
  have hreadv := value_bytes (hv.fits.mono (le_max_left room room')) hv.reread stops_nil
  have hreadw := value_bytes (hw.fits.mono (le_max_right room room')) hw.reread stops_nil
  rw [hbytes, hreadw] at hreadv
  cases hreadv
  rfl

end Courier.Json
