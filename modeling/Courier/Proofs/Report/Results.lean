import Courier.Proofs.Json.Shape
import Courier.Report.Reader

/-!
# Reading printed results

The text of a result is read back as this result: the status comes first, and the other members are
collected before they are given their meaning.
-/

namespace Courier

open Json Json.Reader

theorem FailureKind.named_name (kind : FailureKind) : named variants kind.name = .ok kind := by
  cases kind <;> decide +kernel

namespace Result

variable {lead rest tail : Bytes} {first : Bool} {status : Option Status} {others : List Member}
  {room : Nat}

/-- Members whose values are texts. -/
def textMembers (texts : List (String × String)) : List Member :=
  texts.map fun text ↦ (text.1, .string text.2)

/-! ## Collected members -/

theorem collect_status (room : Nat) (others : List Member) {name : String} {found : Status}
    (hlead : Lead first lead) (hname : named Status.variants name = .ok found)
    (htail : Stops tail) (fuel : Nat) :
    collect room (fuel + 1) first none others
        (lead ++ (memberBytes ("status", .string name) ++ tail)) =
      collect room fuel false (some found) others tail := by
  obtain ⟨s, hnext, hkey⟩ := nextMember_memberBytes hlead ("status", .string name) tail
  rw [collect, hnext]
  simp only [bind, Except.bind, if_true, hkey, Option.isSome_none, Bool.false_eq_true, if_false,
    colon_cons, identifier_takes hname tail htail]

theorem collect_text {key text : String} (hlead : Lead first lead) (hkey : key ≠ "status")
    (fuel : Nat) :
    collect room (fuel + 1) first status others
        (lead ++ (memberBytes (key, .string text) ++ tail)) =
      collect room fuel false status (others ++ [(key, .string text)]) tail := by
  obtain ⟨s, hnext, hread⟩ := nextMember_memberBytes hlead (key, .string text) tail
  have hvalue : Reader.value room ((Json.string text).bytes ++ tail) = .ok (.string text, tail) :=
    value_string (stringSpells_stringChars text) tail
  rw [collect, hnext]
  simp only [bind, Except.bind, if_true, hread, if_neg hkey, colon_cons, hvalue]

theorem collect_texts (room : Nat) (others : List Member) {texts : List (String × String)}
    (hkeys : ∀ text ∈ texts, text.1 ≠ "status") (rest : Bytes) : ∀ fuel > texts.length,
      collect room fuel false status others
          (Utf8.encodeChars (memberChars (textMembers texts)) ++ rest) =
        .ok ((status, others ++ textMembers texts), 125 :: rest) := by
  induction texts generalizing others with
  | nil =>
    intro fuel hfuel
    obtain ⟨fuel, rfl⟩ := Nat.exists_eq_add_of_le' hfuel
    rw [textMembers, List.map_nil, List.append_nil]
    rfl
  | cons text texts ih =>
    intro fuel hfuel
    obtain ⟨fuel, rfl⟩ := Nat.exists_eq_add_of_le' (Nat.one_le_of_lt hfuel)
    have hlead : Lead false ([] ++ [44]) := .later (by simp [IsBlank])
    have hkey : text.1 ≠ "status" := hkeys text List.mem_cons_self
    have hmore := ih (others ++ [(text.1, .string text.2)])
      (fun text htext ↦ hkeys text (List.mem_cons_of_mem _ htext)) fuel
      (Nat.lt_of_succ_lt_succ hfuel)
    rw [List.append_assoc, List.singleton_append] at hmore
    rw [textMembers, List.map_cons, encode_memberChars_cons, List.cons_append, List.append_assoc]
    exact (collect_text hlead hkey fuel).trans hmore

/-- A result is taken up from an object with its status and texts. -/
theorem reader_takes_object (room : Nat) {name : String} {found : Status} {result : Result}
    (texts : List (String × String)) (hname : named Status.variants name = .ok found)
    (hkeys : ∀ text ∈ texts, text.1 ≠ "status")
    (hmeaning : ofMembers found (textMembers texts) = .ok result) :
    Takes (reader room) (.object (("status", .string name) :: textMembers texts)) result := by
  intro rest _
  generalize hs : memberBytes ("status", .string name) ++
    (Utf8.encodeChars (memberChars (textMembers texts)) ++ rest) = s
  have hfuel : texts.length < s.length := by
    have hlength := length_lt_memberChars (textMembers texts)
    rw [textMembers, List.length_map] at hlength
    rw [← hs, textMembers, List.length_append, List.length_append]
    omega
  have hcollect : collect (room - 1) (s.length + 1) true none [] s =
      .ok ((some found, textMembers texts), 125 :: rest) := by
    have hstep := collect_status (room - 1) [] .first hname
      (stops_memberChars (textMembers texts) rest) s.length
    rw [List.nil_append, hs, collect_texts _ _ hkeys rest _ hfuel, List.nil_append] at hstep
    exact hstep
  have hclose : closeObject (125 :: rest) = .ok rest := rfl
  rw [bytes_object_cons, List.cons_append, List.append_assoc, hs, reader,
    skipSpace_cons (by decide)]
  simp only [if_true, bind, Except.bind, hcollect, Except.mapError, hclose, hmeaning, settled]

/-- The text of a result is read back. -/
theorem reader_takes (room : Nat) (result : Result) :
    Takes (reader room) result.json result := by
  cases result with
  | completed value =>
    apply reader_takes_object room [("value", value)] rfl
    · simp
    · rfl
  | failed reason detail =>
    apply reader_takes_object room [("reason", reason.name), ("detail", detail)] rfl
    · simp
    · have hreason : reasonIn (.string reason.name) = .ok reason := reason.named_name
      simp [ofMembers, textMembers, failedIn, hreason, textIn, bind, Except.bind]

end Result

end Courier
