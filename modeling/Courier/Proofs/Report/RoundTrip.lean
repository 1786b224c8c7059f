import Courier.Proofs.Json.Compact
import Courier.Proofs.Report.Results
import Courier.Proofs.Time.Timestamp
import Courier.Proofs.Ulid

/-!
# Reading printed reports

The text of a report is read back as this report and stands on one line.
-/

namespace Courier

open Json Json.Reader

/-! ## Parts of records -/

theorem Ulid.reader_takes (u : Ulid) : Takes Ulid.reader (.string u.text) u := by
  intro rest hrest
  rw [Ulid.reader, text_takes "a string" u.text rest hrest]
  simp only [bind, Except.bind, u.read_text]

theorem Id.reader_takes {subject : Subject} (id : Id subject) :
    Takes Id.reader (.string id.ulid.text) id := by
  intro rest hrest
  rw [Id.reader, id.ulid.reader_takes rest hrest]
  rfl

theorem Timestamp.reader_takes {t : Timestamp} (ht : t.Valid) :
    Takes Timestamp.reader (.string t.text) t := by
  intro rest hrest
  have hread : Timestamp.read t.text.toList = .ok t := by
    rw [Timestamp.text, String.toList_ofList]
    exact read_chars ht
  rw [Timestamp.reader, text_takes _ t.text rest hrest]
  simp only [bind, Except.bind, hread]

theorem Reply.Kind.named_name (kind : Reply.Kind) : named variants kind.name = .ok kind := by
  cases kind <;> decide +kernel

/-! ## Records -/

namespace Record

/-- The state after all members of a record; a status that is not shown stays open. -/
def filled (record : Record) : Partial :=
  ⟨some record.id, some record.number, some record.kind, record.status.map some,
    some record.summary, some record.millis⟩

theorem ofPartial_filled (record : Record) : ofPartial record.filled = .ok record := by
  obtain ⟨id, number, kind, status, summary, millis⟩ := record
  cases status <;> rfl

/-- The member for the status, which is left out when there is none. -/
def statusMembers (record : Record) : List Member :=
  (record.status.map fun status ↦ ("status", Json.number (.integer status))).toList

theorem json_eq (record : Record) : record.json = .object
    ([("attempt_id", .string record.id.ulid.text),
      ("attempt_number", .number (.integer record.number)), ("kind", .string record.kind.name)] ++
        record.statusMembers ++
      [("summary", .string record.summary), ("duration_ms", .number (.integer record.millis))]) := by
  rw [json, statusMembers]
  cases record.status <;> rfl

/-- A record is taken up from its text. -/
theorem reader_takes {record : Record} (hfits : record.Fits) :
    Takes Record.reader record.json record := by
  obtain ⟨hnumber, hstatus, hmillis⟩ := hfits
  have hword32 : Numeral.greatest 32 ≤ greatestWord := by decide
  have hword16 : Numeral.greatest 16 ≤ greatestWord := by decide
  have hfirst : Fills fields ⟨none, none, none, none, none, none⟩
      [("attempt_id", .string record.id.ulid.text),
        ("attempt_number", .number (.integer record.number)), ("kind", .string record.kind.name)]
      ⟨some record.id, some record.number, some record.kind, none, none, none⟩ :=
    ((Fills.slot rfl rfl rfl record.id.reader_takes).append
      (Fills.slot rfl rfl rfl (whole_takes "u32" hnumber (hnumber.trans hword32)))).append
        (Fills.slot rfl rfl rfl (variant_takes record.kind.named_name))
  have hshown : Fills fields
      ⟨some record.id, some record.number, some record.kind, none, none, none⟩
      record.statusMembers
      ⟨some record.id, some record.number, some record.kind, record.status.map some, none,
        none⟩ := by
    unfold statusMembers
    cases hcase : record.status with
    | none => exact .nil _
    | some status =>
      have hstatus := hstatus status hcase
      exact Fills.slot rfl rfl rfl (optional_whole_takes "u16" hstatus (hstatus.trans hword16))
  have hlast : Fills fields
      ⟨some record.id, some record.number, some record.kind, record.status.map some, none, none⟩
      [("summary", .string record.summary), ("duration_ms", .number (.integer record.millis))]
      record.filled :=
    (Fills.slot rfl rfl rfl (text_takes "a string" record.summary)).append
      (Fills.slot rfl rfl rfl (whole_takes "u64" hmillis hmillis))
  rw [json_eq]
  exact record_takes ((hfirst.append hshown).append hlast) record.ofPartial_filled

theorem compact_json (record : Record) : Compact record.json.bytes := by
  have hshown : ∀ m ∈ record.statusMembers, Compact m.2.bytes := by
    unfold statusMembers
    cases record.status with
    | none => simp
    | some status => simpa using compact_integer status
  rw [json_eq]
  apply compact_object
  simp only [List.forall_mem_append, List.forall_mem_cons]
  exact ⟨⟨⟨compact_string _, compact_integer _, compact_string _, by simp⟩, hshown⟩,
    compact_string _, compact_integer _, by simp⟩

end Record

/-! ## Reports -/

namespace Report

/-- The state after all members of a report; an absent event type and an empty list of attempts stay
open. -/
def filled (report : Report) : Partial :=
  ⟨some report.runId, report.eventType.map some, some report.result,
    if report.attempts = [] then none else some report.attempts, some report.startedAt,
    some report.finishedAt⟩

theorem ofPartial_filled (report : Report) : ofPartial report.filled = .ok report := by
  obtain ⟨runId, eventType, result, attempts, startedAt, finishedAt⟩ := report
  cases eventType <;> cases attempts <;> rfl

/-- The member for the event type, which is left out when there is none. -/
def typeMembers (report : Report) : List Member :=
  (report.eventType.map fun type ↦ ("event_type", Json.string type)).toList

/-- The member for the attempts, which is left out when there were none. -/
def attemptMembers (report : Report) : List Member :=
  if report.attempts = [] then []
  else [("attempts", .array (report.attempts.map Record.json))]

theorem json_eq (report : Report) : report.json = .object
    ([("run_id", .string report.runId.ulid.text)] ++ report.typeMembers ++
      [("result", report.result.json)] ++ report.attemptMembers ++
        [("started_at", .string report.startedAt.text),
          ("finished_at", .string report.finishedAt.text)]) := by
  rw [json, typeMembers, attemptMembers]
  cases report.eventType <;> cases report.attempts <;> rfl

/-- A report is taken up from its text. -/
theorem reader_takes {report : Report} (hattempts : ∀ record ∈ report.attempts, record.Fits)
    (hstarted : report.startedAt.Valid) (hfinished : report.finishedAt.Valid) :
    Takes Report.reader report.json report := by
  have hid : Fills fields ⟨none, none, none, none, none, none⟩
      [("run_id", .string report.runId.ulid.text)]
      ⟨some report.runId, none, none, none, none, none⟩ :=
    Fills.slot rfl rfl rfl report.runId.reader_takes
  have htype : Fills fields ⟨some report.runId, none, none, none, none, none⟩
      report.typeMembers
      ⟨some report.runId, report.eventType.map some, none, none, none, none⟩ := by
    unfold typeMembers
    cases report.eventType with
    | none => exact .nil _
    | some type => exact Fills.slot rfl rfl rfl (optional_text_takes "a string" type)
  have hresult : Fills fields
      ⟨some report.runId, report.eventType.map some, none, none, none, none⟩
      [("result", report.result.json)]
      ⟨some report.runId, report.eventType.map some, some report.result, none, none, none⟩ :=
    Fills.slot rfl rfl rfl (report.result.reader_takes (nesting - 1))
  have hrecords : Fills fields
      ⟨some report.runId, report.eventType.map some, some report.result, none, none, none⟩
      report.attemptMembers
      ⟨some report.runId, report.eventType.map some, some report.result,
        if report.attempts = [] then none else some report.attempts, none, none⟩ := by
    unfold attemptMembers
    cases hcase : report.attempts with
    | nil => exact .nil _
    | cons first rest =>
      rw [hcase] at hattempts
      exact Fills.slot rfl rfl rfl
        (list_takes fun record hrecord ↦ Record.reader_takes (hattempts record hrecord))
  have htimes : Fills fields
      ⟨some report.runId, report.eventType.map some, some report.result,
        if report.attempts = [] then none else some report.attempts, none, none⟩
      [("started_at", .string report.startedAt.text),
        ("finished_at", .string report.finishedAt.text)] report.filled :=
    (Fills.slot rfl rfl rfl (Timestamp.reader_takes hstarted)).append
      (Fills.slot rfl rfl rfl (Timestamp.reader_takes hfinished))
  rw [json_eq]
  exact record_takes ((((hid.append htype).append hresult).append hrecords).append htimes)
    report.ofPartial_filled

theorem compact_json (report : Report) : Compact report.json.bytes := by
  have htype : ∀ m ∈ report.typeMembers, Compact m.2.bytes := by
    unfold typeMembers
    cases report.eventType with
    | none => simp
    | some type => simpa using compact_string type
  have hresult : Compact report.result.json.bytes := by
    cases report.result with
    | completed value =>
      exact compact_object (by simpa using ⟨compact_string _, compact_string value⟩)
    | failed reason detail =>
      exact compact_object (by
        simpa using ⟨compact_string _, compact_string reason.name, compact_string detail⟩)
  have hrecords : ∀ m ∈ report.attemptMembers, Compact m.2.bytes := by
    have hall : ∀ v ∈ report.attempts.map Record.json, Compact v.bytes := by
      intro v hv
      obtain ⟨record, _, rfl⟩ := List.mem_map.mp hv
      exact record.compact_json
    unfold attemptMembers
    split
    · simp
    · simpa using compact_array hall
  rw [json_eq]
  apply compact_object
  simp only [List.forall_mem_append, List.forall_mem_cons]
  exact ⟨⟨⟨⟨⟨compact_string _, by simp⟩, htype⟩, hresult, by simp⟩, hrecords⟩, compact_string _,
    compact_string _, by simp⟩

theorem read_json {report : Report} (hattempts : ∀ record ∈ report.attempts, record.Fits)
    (hstarted : report.startedAt.Valid) (hfinished : report.finishedAt.Valid) :
    read report.json.bytes = .ok report := by
  have hread := reader_takes hattempts hstarted hfinished [] stops_nil
  rw [List.append_nil] at hread
  rw [read, readAs, hread]
  rfl

/-- Every report is read back from its text, which has no line break. -/
theorem printed_report_reads_back (report : Report)
    (hattempts : ∀ record ∈ report.attempts, record.Fits) (hstarted : report.startedAt.Valid)
    (hfinished : report.finishedAt.Valid) :
    read report.json.bytes = .ok report ∧ ∀ b ∈ report.json.bytes, b ≠ 10 ∧ b ≠ 13 :=
  ⟨read_json hattempts hstarted hfinished, report.compact_json.not_break⟩

/-- A report without an event type that is finished in the leap second at the end of 2016; the body
that its only attempt quotes has line breaks. -/
def leaping : Report where
  runId := ⟨.ofNat (2 ^ 128 - 1)⟩
  eventType := none
  result := .failed .fatal "400: \r\n\"x\""
  attempts := [⟨⟨.ofNat 7⟩, 1, .httpFailure, some 400, "400: \r\n\"x\"", 0⟩]
  startedAt := ⟨-1, 500000000⟩
  finishedAt := ⟨1483228799, 1000000001⟩

theorem printed_report_reads_back_leaping :
    (∀ record ∈ leaping.attempts, record.Fits) ∧ leaping.startedAt.Valid ∧
      leaping.finishedAt.Valid ∧ read leaping.json.bytes = .ok leaping ∧
        ∀ b ∈ leaping.json.bytes, b ≠ 10 ∧ b ≠ 13 := by
  have hattempts : ∀ record ∈ leaping.attempts, record.Fits := by
    intro record hrecord
    rw [List.mem_singleton.mp hrecord]
    refine ⟨by decide, ?_, by decide⟩
    rintro status ⟨⟩
    decide
  have hstarted : leaping.startedAt.Valid := ⟨by decide, by decide⟩
  have hfinished : leaping.finishedAt.Valid := ⟨by decide, by decide⟩
  exact ⟨hattempts, hstarted, hfinished,
    printed_report_reads_back leaping hattempts hstarted hfinished⟩

end Report

end Courier
