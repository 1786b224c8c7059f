import Courier.Event
import Courier.Proofs.Json.Compact
import Courier.Proofs.Json.Limits
import Courier.Proofs.Json.Reordered
import Courier.Proofs.Json.Scaling

/-!
# Forwarded data

The data of an event are sent on as their canonical text.  Events whose data are the same up to the
order of members have one text, and no others do.  Read again, the text gives back the data with
every number read again.
-/

namespace Courier.Event

open Json

variable {event : Event} {payload : Bytes}

/-! ## One text for reordered data -/

/-- The text that is sent on is canonical for data without real numbers: it is the same exactly for
reordered data, and it shows them with the keys of every object ascending and without white space
outside strings. -/
theorem body_is_canonical (first second : Event) {room room' : Nat} (hfirst : Plain room first.data)
    (hsecond : Plain room' second.data) :
    (first.body = second.body ↔ Reordered first.data second.data) ∧
      ∃ shown, Reader.value room first.body = .ok (shown, []) ∧ Reordered first.data shown ∧
        Ascending shown ∧ ∀ b ∈ outside first.body, Reader.isSpace b = false := by
  have hshown := hfirst.canonical
  constructor
  · calc first.body = second.body
      _ ↔ first.data.canonical = second.data.canonical :=
        ⟨hshown.eq_of_bytes_eq hsecond.canonical, congrArg bytes⟩
      _ ↔ Reordered first.data second.data := canonical_eq_iff hfirst hsecond
  · refine ⟨first.data.canonical, ?_, ?_, hfirst.fits.ascending_canonical,
      hshown.compact.isSpace_eq_false⟩
    · have hread := value_bytes hshown.fits hshown.reread stops_nil
      rwa [List.append_nil] at hread
    · apply (canonical_eq_iff hfirst hshown).mp
      exact hfirst.fits.ascending_canonical.canonical_eq.symm

/-- Members in no order at two depths. -/
def mixed : Event :=
  ⟨"x", none, none, .object [("b", .array [.number (.integer 1),
    .object [("y", .string "a b"), ("x", .bool true)]]), ("a", .null)]⟩

/-- The data of `mixed` with all members in order. -/
def tidy : Event :=
  ⟨"", none, none, .object [("a", .null), ("b", .array [.number (.integer 1),
    .object [("x", .bool true), ("y", .string "a b")]])]⟩

theorem body_is_canonical_mixed :
    Plain 3 mixed.data ∧ Plain 3 tidy.data ∧ mixed.body = tidy.body ∧
      Reordered mixed.data tidy.data := by
  have hpair {first second : Member} {room : Nat} (hkeys : first.1 ≠ second.1)
      (hfirst : Plain room first.2) (hsecond : Plain room second.2) :
      Plain (room + 1) (.object [first, second]) := by
    apply Plain.object
    · simpa using hkeys
    · simpa using ⟨hfirst, hsecond⟩
  have hlist {object : Json} (hobject : Plain 1 object) :
      Plain 2 (.array [.number (.integer 1), object]) := by
    apply Plain.array
    simpa using ⟨.integer 1 (by decide) (by decide), hobject⟩
  have hmixed : Plain 3 mixed.data :=
    hpair (by decide) (hlist (hpair (by decide) (.string 0 _) (.bool 0 true))) (.null 2)
  have htidy : Plain 3 tidy.data :=
    hpair (by decide) (.null 2) (hlist (hpair (by decide) (.bool 0 true) (.string 0 _)))
  have hbody : mixed.body = tidy.body := by decide +kernel
  exact ⟨hmixed, htidy, hbody, (body_is_canonical mixed tidy hmixed htidy).1.mp hbody⟩

/-! ## Numbers read again -/

/-- What is sent on are data in order, within the limits of the reader. -/
theorem data_of_decode (hdecoded : decode payload = .ok event) :
    Fits 126 event.data ∧ Ascending event.data := by
  unfold decode at hdecoded
  split at hdecoded
  · cases hdecoded
  · next members hread =>
    unfold ofMembers at hdecoded
    obtain ⟨_, _, hdecoded⟩ := Reader.exists_of_bind_eq_ok hdecoded
    obtain ⟨_, _, hdecoded⟩ := Reader.exists_of_bind_eq_ok hdecoded
    obtain ⟨_, _, hdecoded⟩ := Reader.exists_of_bind_eq_ok hdecoded
    cases hdecoded
    have hdata : Fits 126 ((lookup "data" members).getD (.object [])) := by
      have hfits := Reader.fits_of_read hread
      cases hlookup : lookup "data" members with
      | none => exact .object (by simp)
      | some v =>
        cases hfits with
        | object hmembers => exact hmembers _ (mem_of_lookup_eq_some hlookup)
    exact ⟨hdata.canonical, hdata.ascending_canonical⟩
  · cases hdecoded

/-- The payload with the given data and nothing else. -/
def enclose (data : Bytes) : Bytes := Utf8.encode "\x7b\"data\":" ++ data ++ [125]

theorem read_bytes {v w : Json} (hfits : Fits Reader.nesting v) (hreread : v.reread = some w) :
    Json.read v.bytes = .ok w := by
  have hread := value_bytes hfits hreread stops_nil
  rw [List.append_nil] at hread
  rw [Json.read, hread]
  rfl

theorem bytes_enclosed (v : Json) : (Json.object [("data", v)]).bytes = enclose v.bytes := by
  have hkey : Utf8.encode "\x7b\"data\":" =
      123 :: (Utf8.encodeChars (stringChars "data") ++ [58]) := by decide
  rw [bytes_object_cons, memberBytes, enclose, hkey, memberChars]
  simp only [List.cons_append, List.append_assoc, List.nil_append]
  rfl

theorem decode_enclose {v w : Json} (hfits : Fits 126 v) (hascending : Ascending v)
    (hreread : v.reread = some w) : decode (enclose v.bytes) = .ok ⟨"", none, none, w⟩ := by
  have hobject : Fits Reader.nesting (.object [("data", v)]) := .object (by simpa using hfits)
  have hmember : (Json.object [("data", v)]).reread = some (.object [("data", w)]) := by
    simp [reread, rereadMembers, hreread]
  have hread := read_bytes hobject hmember
  rw [bytes_enclosed] at hread
  have hdata := (hascending.reread hreread).canonical_eq
  simp [decode, hread, ofMembers, textMember, lookup, hdata, bind, Except.bind]

/-- What is sent on is always read back, as the data with every number read again, and a payload
that holds it is decoded to these data.  They are the data that were sent on exactly when every
number in these is steady, and so whenever every number is modest. -/
theorem body_reads_back (hdecoded : decode payload = .ok event) :
    ∃ data, event.data.reread = some data ∧ Json.read event.body = .ok data ∧
      decode (enclose event.body) = .ok ⟨"", none, none, data⟩ ∧
      (data = event.data ↔ EveryNumber Steady event.data) ∧
      (EveryNumber Modest event.data → data = event.data) := by
  obtain ⟨hfits, hascending⟩ := data_of_decode hdecoded
  obtain ⟨data, hreread⟩ := hfits.exists_reread
  have hbody : event.body = event.data.bytes := congrArg bytes hascending.canonical_eq
  rw [hbody]
  have hsame (hsteady : EveryNumber Steady event.data) : data = event.data := by
    rw [reread_eq_of_steady hsteady] at hreread
    exact (Option.some.inj hreread).symm
  refine ⟨data, hreread, read_bytes (hfits.mono (by decide)) hreread,
    decode_enclose hfits hascending hreread, ⟨?_, hsame⟩, ?_⟩
  · rintro rfl
    exact hfits.steady hreread
  · intro hmodest
    exact hsame (hmodest.imp fun _ ↦ Modest.steady)

/-- Two modest numbers, `1.5` and `-2e-7`. -/
def rates : Event :=
  ⟨"", none, none, .array [.number (.real false ⟨4609434218613702656, by decide⟩),
    .number (.real true ⟨4506651814115716936, by decide⟩)]⟩

theorem modest_rates : EveryNumber Modest rates.data := by
  have hfirst : Modest (.real false ⟨4609434218613702656, by decide⟩) := by decide +kernel
  have hsecond : Modest (.real true ⟨4506651814115716936, by decide⟩) := by decide +kernel
  apply EveryNumber.array
  simpa using ⟨.number hfirst, .number hsecond⟩

theorem decode_rates : decode (enclose rates.body) = .ok rates := by
  have hascending : Ascending rates.data := by
    apply Ascending.array
    simpa using ⟨.number _, .number _⟩
  have hfits : Fits 126 rates.data := by
    apply Fits.array
    simpa using ⟨.real 125 false _, .real 125 true _⟩
  rw [body, hascending.canonical_eq]
  exact decode_enclose hfits hascending
    (reread_eq_of_steady (modest_rates.imp fun _ ↦ Modest.steady))

/-- A number that is sent on as one decimal and read back as another, and numbers that are read back
as they were sent on. -/
theorem body_reads_back_drifting :
    (∃ event data, decode (enclose (Utf8.encode "9718.2996371719896")) = .ok event ∧
      event.body = Utf8.encode "9718.299637171991" ∧ Json.read event.body = .ok data ∧
      data.canonical.bytes = Utf8.encode "9718.299637171993" ∧
        ¬ EveryNumber Steady event.data) ∧
    rates.body = Utf8.encode "[1.5,-2e-7]" ∧ EveryNumber Modest rates.data ∧
      Json.read rates.body = .ok rates.data := by
  constructor
  · have hfirst : (decode (enclose (Utf8.encode "9718.2996371719896"))).toOption.map body =
        some (Utf8.encode "9718.299637171991") := by decide +kernel
    have hsecond : (decode (enclose (Utf8.encode "9718.299637171991"))).toOption.map body =
        some (Utf8.encode "9718.299637171993") := by decide +kernel
    cases hdecoded : decode (enclose (Utf8.encode "9718.2996371719896")) with
    | error => simp [hdecoded, Except.toOption] at hfirst
    | ok event =>
      rw [hdecoded] at hfirst
      have hbody : event.body = Utf8.encode "9718.299637171991" := Option.some.inj hfirst
      obtain ⟨data, _, hread, hback, hsteady, _⟩ := body_reads_back hdecoded
      rw [← hbody, hback] at hsecond
      have hdata : data.canonical.bytes = Utf8.encode "9718.299637171993" :=
        Option.some.inj hsecond
      refine ⟨event, data, rfl, hbody, hread, hdata, ?_⟩
      intro hsame
      rw [hsteady.mpr hsame] at hdata
      exact absurd (hbody.symm.trans hdata) (by decide)
  · have hbody : rates.body = Utf8.encode "[1.5,-2e-7]" := by decide +kernel
    obtain ⟨data, _, hread, _, _, hsame⟩ := body_reads_back decode_rates
    rw [hsame modest_rates] at hread
    exact ⟨hbody, modest_rates, hread⟩

/-- Forwarded data need not be read back: the number that one payload is sent on as is itself sent
on as another. -/
theorem body_drifts :
    (decode (enclose (Utf8.encode "9718.2996371719896"))).toOption.map body =
        some (Utf8.encode "9718.299637171991") ∧
      (decode (enclose (Utf8.encode "9718.299637171991"))).toOption.map body =
        some (Utf8.encode "9718.299637171993") := by
  constructor <;> decide +kernel

end Courier.Event
