import Courier.Event
import Courier.Proofs.Json.Accepted

/-!
# The members that count

An object is decoded as an event by the last members of four keys and by nothing else.  Three of
them have to be texts where they are there and not null; the first that is not is named.
-/

namespace Courier.Event

open Json Reader

variable {members others : List Member} {key : String}

/-- The value that counts for a key: the one that its last member has. -/
def last (key : String) (members : List Member) : Option Json :=
  (members.filter fun m ↦ m.1 = key).getLast?.map Prod.snd

theorem lookup_eq_last (key : String) (members : List Member) :
    lookup key members = last key members := by
  induction members with
  | nil => rfl
  | cons m rest ih =>
    obtain ⟨k, v⟩ := m
    rw [lookup_cons, ih, last, last, List.filter_cons]
    by_cases hk : k = key
    · simp only [hk, decide_true, if_true, List.getLast?_cons, Option.map_some]
      cases (rest.filter fun m ↦ m.1 = key).getLast? <;> rfl
    · simp [hk]

/-- The text that a value is taken for; null stands for none, as a value that is not there. -/
inductive IsText : Option Json → Option String → Prop
  | absent : IsText none none
  | null : IsText (some .null) none
  | string (text : String) : IsText (some (.string text)) (some text)

/-- The keys of texts, in the order in which they are looked at. -/
def textKeys : List String := ["type", "id", "source"]

/-- What the members of an object are decoded as. -/
inductive Decodes (members : List Member) : Except Problem Event → Prop
  | event {type id source : Option String} (htype : IsText (last "type" members) type)
      (hid : IsText (last "id" members) id) (hsource : IsText (last "source" members) source) :
      Decodes members (.ok ⟨type.getD "", id, source,
        ((last "data" members).getD (.object [])).canonical⟩)
  | malformed {before after : List String} {key : String} {found : Json}
      (hkeys : textKeys = before ++ key :: after)
      (hbefore : ∀ earlier ∈ before, ∃ text, IsText (last earlier members) text)
      (hfound : last key members = some found) (hbad : ∀ text, ¬ IsText (some found) text) :
      Decodes members (.error (.malformedPayload
        ("`" ++ key ++ "` must be a string, got " ++ found.canonical.text)))

/-- What a payload is decoded as, with the problem if there is one. -/
def outcome (payload : Bytes) : Except Problem Event := (decode payload).mapError Defect.problem

theorem textMember_cases (members : List Member) (key : String) :
    (∃ text, IsText (last key members) text ∧ textMember members key = .ok text) ∨
      ∃ found, last key members = some found ∧ (∀ text, ¬ IsText (some found) text) ∧
        textMember members key = .error (.notText key found.canonical) := by
  unfold textMember
  rw [lookup_eq_last]
  split
  · next hlast => exact .inl ⟨none, hlast ▸ .absent, rfl⟩
  · next hlast => exact .inl ⟨none, hlast ▸ .null, rfl⟩
  · next text hlast => exact .inl ⟨some text, hlast ▸ .string text, rfl⟩
  · next found hnull hstring hlast =>
    refine .inr ⟨found, hlast, ?_, rfl⟩
    rintro text (_ | _ | text)
    · exact hnull rfl
    · exact hstring text rfl

theorem decodes_ofMembers (members : List Member) :
    Decodes members ((ofMembers members).mapError Defect.problem) := by
  have hfirst : textKeys = [] ++ "type" :: ["id", "source"] := rfl
  have hsecond : textKeys = ["type"] ++ "id" :: ["source"] := rfl
  have hthird : textKeys = ["type", "id"] ++ "source" :: [] := rfl
  unfold ofMembers
  rcases textMember_cases members "type" with ⟨type, htype, hread⟩ | ⟨found, hfound, hbad, hread⟩
  · rw [hread]
    rcases textMember_cases members "id" with ⟨id, hid, hread⟩ | ⟨found, hfound, hbad, hread⟩
    · rw [hread]
      rcases textMember_cases members "source" with
        ⟨source, hsource, hread⟩ | ⟨found, hfound, hbad, hread⟩
      · rw [hread, lookup_eq_last]
        exact .event htype hid hsource
      · rw [hread]
        exact .malformed hthird (by simpa using ⟨⟨_, htype⟩, _, hid⟩) hfound hbad
    · rw [hread]
      exact .malformed hsecond (by simpa using ⟨_, htype⟩) hfound hbad
  · rw [hread]
    exact .malformed hfirst (by simp) hfound hbad

theorem Decodes.exists_event_iff {result : Except Problem Event} (hdecodes : Decodes members result) :
    (∃ event, result = .ok event) ↔ ∀ key ∈ textKeys, ∃ text, IsText (last key members) text := by
  cases hdecodes with
  | event htype hid hsource =>
    have hall : ∀ key ∈ textKeys, ∃ text, IsText (last key members) text := by
      simpa [textKeys] using ⟨⟨_, htype⟩, ⟨_, hid⟩, _, hsource⟩
    exact iff_of_true ⟨_, rfl⟩ hall
  | malformed hkeys _ hfound hbad =>
    refine iff_of_false (by simp) fun hall ↦ ?_
    obtain ⟨text, htext⟩ := hall _ (hkeys ▸ List.mem_append_right _ List.mem_cons_self)
    exact hbad text (hfound ▸ htext)

theorem textMember_congr (hsame : last key members = last key others) :
    textMember members key = textMember others key := by
  simp only [textMember, lookup_eq_last, hsame]

theorem ofMembers_congr (hsame : ∀ key ∈ "data" :: textKeys, last key members = last key others) :
    ofMembers members = ofMembers others := by
  have htype : textMember members "type" = textMember others "type" :=
    textMember_congr (hsame "type" (by simp [textKeys]))
  have hid : textMember members "id" = textMember others "id" :=
    textMember_congr (hsame "id" (by simp [textKeys]))
  have hsource : textMember members "source" = textMember others "source" :=
    textMember_congr (hsame "source" (by simp [textKeys]))
  have hdata : last "data" members = last "data" others := hsame "data" List.mem_cons_self
  simp only [ofMembers, htype, hid, hsource, lookup_eq_last, hdata]

theorem decode_of_accepted {payload : Bytes} (haccepted : Accepted (.object members) payload) :
    decode payload = ofMembers members := by
  rw [decode, read_eq_ok_iff.mpr haccepted]

theorem decode_of_not_object {payload : Bytes} {tree : Json} (haccepted : Accepted tree payload)
    (htree : ∀ members, tree ≠ .object members) : decode payload = .error .notObject := by
  rw [decode, read_eq_ok_iff.mpr haccepted]
  cases tree with
  | object members => exact absurd rfl (htree members)
  | _ => rfl

theorem decode_cases (payload : Bytes) :
    (∃ members, Accepted (.object members) payload) ∨
      ∃ defect, decode payload = .error defect := by
  cases hread : Json.read payload with
  | error fault => exact .inr ⟨_, by rw [decode, hread]⟩
  | ok tree =>
    cases tree with
    | object members => exact .inl ⟨members, read_eq_ok_iff.mp hread⟩
    | _ => exact .inr ⟨_, by rw [decode, hread]⟩

/-- A payload is decoded if it is a text of an object whose last members of the keys of texts are
texts, null or not there.  What an object is decoded as depends on its last members of these keys
and of the data only.  Whatever else a payload may be, it is malformed. -/
theorem decode_looks_at_four_keys (payload : Bytes) :
    ((∃ event, outcome payload = .ok event) ↔ ∃ members, Accepted (.object members) payload ∧
        ∀ key ∈ textKeys, ∃ text, IsText (last key members) text) ∧
      (∀ members, Accepted (.object members) payload → Decodes members (outcome payload) ∧
        ∀ others other, Accepted (.object others) other →
          (∀ key ∈ "data" :: textKeys, last key members = last key others) →
          outcome payload = outcome other) ∧
      (∀ tree, Accepted tree payload → (∀ members, tree ≠ .object members) →
        outcome payload = .error (.malformedPayload "top-level value is not an object")) ∧
      ((∀ members, ¬ Accepted (.object members) payload) →
        ∃ detail, outcome payload = .error (.malformedPayload detail)) := by
  have hdecodes : ∀ members, Accepted (.object members) payload →
      Decodes members (outcome payload) := by
    intro members haccepted
    rw [outcome, decode_of_accepted haccepted]
    exact decodes_ofMembers members
  refine ⟨⟨?_, ?_⟩, fun members haccepted ↦ ⟨hdecodes members haccepted, ?_⟩, ?_, ?_⟩
  · rintro ⟨event, hevent⟩
    rcases decode_cases payload with ⟨members, haccepted⟩ | ⟨defect, hdefect⟩
    · exact ⟨members, haccepted,
        (hdecodes members haccepted).exists_event_iff.mp ⟨event, hevent⟩⟩
    · rw [outcome, hdefect] at hevent
      cases hevent
  · rintro ⟨members, haccepted, hall⟩
    exact (hdecodes members haccepted).exists_event_iff.mpr hall
  · intro others other hother hsame
    rw [outcome, outcome, decode_of_accepted haccepted, decode_of_accepted hother,
      ofMembers_congr hsame]
  · intro tree haccepted htree
    rw [outcome, decode_of_not_object haccepted htree]
    rfl
  · intro hnone
    rcases decode_cases payload with ⟨members, haccepted⟩ | ⟨defect, hdefect⟩
    · exact absurd haccepted (hnone members)
    · exact ⟨defect.detail, by rw [outcome, hdefect]; rfl⟩

/-- A key twice, a member of no meaning and data that are null. -/
def crowded : Bytes := Utf8.encode
  "\x7b\"x\":[0,\x7b\x7d],\"type\":1,\"data\":null,\"type\":\"a\",\"id\":null\x7d"

/-- The members of `crowded` that count, in another order. -/
def sparse : Bytes := Utf8.encode " \x7b\"type\" : \"a\", \"id\" : null, \"data\" : null\x7d"

/-- Two payloads that are one event, a list, and no JSON at all. -/
theorem decode_looks_at_four_keys_crowded :
    (∃ event, outcome crowded = .ok event) ∧ outcome crowded = outcome sparse ∧
      outcome sparse = .ok ⟨"a", none, none, .null⟩ ∧
      outcome (Utf8.encode "[]") =
        .error (.malformedPayload "top-level value is not an object") ∧
      ∃ detail, outcome (Utf8.encode "\x7b\"id\":\x7d") = .error (.malformedPayload detail) := by
  let members : List Member := [("x", .array [.number (.integer 0), .object []]),
    ("type", .number (.integer 1)), ("data", .null), ("type", .string "a"), ("id", .null)]
  let others : List Member := [("type", .string "a"), ("id", .null), ("data", .null)]
  have hcrowded : Accepted (.object members) crowded := read_eq_ok_iff.mp rfl
  have hsparse : Accepted (.object others) sparse := read_eq_ok_iff.mp rfl
  have hlist : Accepted (.array []) (Utf8.encode "[]") := read_eq_ok_iff.mp rfl
  have hsame : ∀ key ∈ "data" :: textKeys, last key members = last key others := by
    simp [textKeys, last, members, others]
  have htexts : ∀ key ∈ textKeys, ∃ text, IsText (last key members) text := by
    simpa [textKeys, last, members] using ⟨⟨_, .string "a"⟩, ⟨_, .null⟩, _, .absent⟩
  have hevent : outcome sparse = .ok ⟨"a", none, none, .null⟩ := by
    rw [outcome, decode_of_accepted hsparse]
    rfl
  have hbroken : ∀ members, ¬ Accepted (.object members) (Utf8.encode "\x7b\"id\":\x7d") := by
    intro members haccepted
    have hnone : (Json.read (Utf8.encode "\x7b\"id\":\x7d")).toOption.isNone = true := by
      decide +kernel
    rw [read_eq_ok_iff.mpr haccepted] at hnone
    contradiction
  obtain ⟨hdecoded, hobject, _⟩ := decode_looks_at_four_keys crowded
  obtain ⟨_, _, hother, _⟩ := decode_looks_at_four_keys (Utf8.encode "[]")
  obtain ⟨_, _, _, hmalformed⟩ := decode_looks_at_four_keys (Utf8.encode "\x7b\"id\":\x7d")
  exact ⟨hdecoded.mpr ⟨members, hcrowded, htexts⟩,
    (hobject members hcrowded).2 others sparse hsparse hsame, hevent,
    hother _ hlist (fun _ htree ↦ nomatch htree), hmalformed hbroken⟩

end Courier.Event
