import Courier.Event
import Courier.Proofs.Json.Values

/-!
# Events from their texts

Every text of the object of an event is decoded as this event.
-/

namespace Courier.Event

open Json

variable {written found : List Member} {key : String}

/-- The members of an event; those that it has not are left out. -/
def members (event : Event) : List Member :=
  [("type", .string event.type)] ++ (event.id.map fun id ↦ ("id", Json.string id)).toList ++
    (event.source.map fun source ↦ ("source", Json.string source)).toList ++ [("data", event.data)]

def json (event : Event) : Json := .object event.members

theorem nodup_keys (event : Event) : (event.members.map Prod.fst).Nodup := by
  obtain ⟨type, id, source, data⟩ := event
  cases id <;> cases source <;> simp [members]

/-- What the four keys are looked up as. -/
theorem lookup_members (event : Event) :
    lookup "type" event.members = some (.string event.type) ∧
      lookup "id" event.members = event.id.map Json.string ∧
      lookup "source" event.members = event.source.map Json.string ∧
      lookup "data" event.members = some event.data := by
  obtain ⟨type, id, source, data⟩ := event
  cases id <;> cases source <;> simp [members, lookup]

theorem eq_string_of_canonical {v : Json} {t : String} (h : v.canonical = .string t) :
    v = .string t := by
  cases v with
  | string => exact h
  | _ => simp [canonical] at h

/-- Texts are found whatever the trees of the other members. -/
theorem textMember_eq {t : Option String}
    (hlookup : (lookup key found).map canonical = (t.map Json.string).map canonical) :
    textMember found key = .ok t := by
  unfold textMember
  cases t with
  | none => rw [Option.map_eq_none_iff.mp hlookup]
  | some t =>
    obtain ⟨v, hv, hcanonical⟩ := Option.map_eq_some_iff.mp hlookup
    rw [hv, eq_string_of_canonical hcanonical]

theorem ofMembers_eq (event : Event) (hsame : List.Forall₂ SameMember written found)
    (horder : written.Perm event.members) :
    ofMembers found = .ok { event with data := event.data.canonical } := by
  have hlookup (key : String) : (lookup key found).map canonical =
      (lookup key event.members).map canonical := by
    rw [map_lookup_eq hsame, lookup_perm horder event.nodup_keys]
  obtain ⟨htype, hid, hsource, hdata⟩ := event.lookup_members
  have htype : textMember found "type" = .ok (some event.type) := by
    apply textMember_eq
    rw [hlookup, htype]
    rfl
  have hid : textMember found "id" = .ok event.id := by
    apply textMember_eq
    rw [hlookup, hid]
  have hsource : textMember found "source" = .ok event.source := by
    apply textMember_eq
    rw [hlookup, hsource]
  have hfound := hlookup "data"
  rw [hdata] at hfound
  obtain ⟨data, hdata, hcanonical⟩ := Option.map_eq_some_iff.mp hfound
  rw [ofMembers, htype, hid, hsource, hdata]
  simp only [bind, Except.bind, Option.getD_some, hcanonical]

theorem plain_of_mem_members {event : Event} {room : Nat} (hdata : Plain room event.data) :
    ∀ m ∈ event.members, Plain room m.2 := by
  intro m hm
  simp only [members, List.mem_append, List.mem_singleton, Option.mem_toList,
    Option.map_eq_some_iff] at hm
  rcases hm with ((rfl | ⟨id, _, rfl⟩) | ⟨source, _, rfl⟩) | rfl
  · exact .string room event.type
  · exact .string room id
  · exact .string room source
  · exact hdata

/-- Every text of an event whose data lie within the limits is decoded as this event: in whatever
order its members stand at every depth, however its strings are escaped and with white space around
any part.  The data are given back as their canonical value. -/
theorem decode_of_text (event : Event) (text : Bytes) (hdata : Plain 126 event.data)
    (htext : TextOf event.json text) :
    decode text = .ok { event with data := event.data.canonical } ∧
      (event.data.canonical = event.data → decode text = .ok event) := by
  have hdecode : decode text = .ok { event with data := event.data.canonical } := by
    have hplain : ∀ m ∈ event.members, Plain 126 m.2 := plain_of_mem_members hdata
    cases htext with
    | @padded before text after hbefore htext hafter =>
      cases htext with
      | @object _ written text horder hwritten =>
        obtain ⟨found, hsame, hvalue⟩ := Reader.value_object hwritten
          (fun m hm _ htext ↦ Reader.readAs_of_spells (hplain m (horder.subset hm)) htext) after
        have hread : Json.read (before ++ (123 :: (text ++ [125]) ++ after)) =
            .ok (.object found) := by
          apply Reader.read_padded hbefore hafter
          rw [List.cons_append, List.append_assoc]
          exact hvalue
        rw [decode, hread]
        exact ofMembers_eq event hsame horder
  refine ⟨hdecode, fun hcanonical ↦ ?_⟩
  rw [hdecode, hcanonical]

/-- An event whose identifier is a character beyond U+FFFF. -/
def sample : Event :=
  ⟨"x", some (String.ofList [Char.ofNat 0x1F600]), none, .array [.number (.integer (-1))]⟩

/-- The members stand in reverse, and the values of two of them are escaped. -/
def sampleText : Bytes := Utf8.encode <|
  "\x7b \"data\":[-1 ],\"id\" :\"\\uD83d\\ude00\",\"type\": \"\\u0078\"\x7d\n"

theorem decode_of_text_sample :
    Plain 126 sample.data ∧ TextOf sample.json sampleText ∧ decode sampleText = .ok sample := by
  have hdata : Plain 126 sample.data := by
    apply Plain.array
    intro item hitem
    cases List.mem_singleton.mp hitem
    exact .integer 125 (by decide) (by decide)
  have hnone : IsBlank [] := by simp [IsBlank]
  have hspace : IsBlank [32] := by simp [IsBlank]
  have hline : IsBlank [10] := by simp [IsBlank]
  have htype : StringSpells "x" (34 :: ([[92, 117, 48, 48, 55, 56]].flatten ++ [34])) := by
    apply StringSpells.quoted
    have hchars : "x".toList = ['x'] := by decide
    rw [hchars]
    exact .cons (.basic (by decide)
      (.digits (by decide) (by decide) (by decide) (by decide))) .nil
  have hid : StringSpells (String.ofList [Char.ofNat 0x1F600])
      (34 :: ([[92, 117, 68, 56, 51, 100, 92, 117, 100, 101, 48, 48]].flatten ++ [34])) := by
    have hpair : CharSpells (Char.ofNat 0x1F600)
        (92 :: 117 :: ([68, 56, 51, 100] ++ 92 :: 117 :: [100, 101, 48, 48])) := by
      apply CharSpells.pair
      · decide
      · exact .digits (by decide) (by decide) (by decide) (by decide)
      · exact .digits (by decide) (by decide) (by decide) (by decide)
    apply StringSpells.quoted
    rw [String.toList_ofList]
    exact .cons hpair .nil
  have htypeKey := @stringSpells_encode "type" (by decide +kernel)
  have hidKey := @stringSpells_encode "id" (by decide +kernel)
  have hdataKey := @stringSpells_encode "data" (by decide +kernel)
  have htext : ∃ text, TextOf sample.json text ∧ text = sampleText := by
    refine ⟨_, .padded hnone (.object (List.reverse_perm sample.members)
      (.cons hspace (.colon hdataKey hnone hnone
          (.array (.last hnone (.integer (-1)) hspace))) hnone
        (.cons hnone (.colon hidKey hspace hnone (.string hid)) hnone
          (.last hnone (.colon htypeKey hnone hspace (.string htype)) hnone)))) hline, ?_⟩
    decide +kernel
  obtain ⟨_, htext, rfl⟩ := htext
  exact ⟨hdata, htext, (decode_of_text sample sampleText hdata htext).2 rfl⟩

end Courier.Event
