import Courier.Proofs.Pool.History
import Courier.Proofs.Report.RoundTrip
import Courier.Proofs.Run.Rank

/-!
# Reports that runs make

The numbers in a report have widths of their own.  A run keeps to them as long as its strategy stops
in time and its link gives no status that is too wide, and so what a run or a pool reports is read
back from its text.
-/

namespace Courier

variable {σ : Type} {terms : Terms} {link : Link σ} {clock : Moment → Timestamp} {id : RunId}
  {report : Report}

/-- The status, if there is one, lies in the width that records have for it. -/
def Reply.Fits (reply : Reply) : Prop := ∀ status ∈ reply.status?, status ≤ Numeral.greatest 16

def Link.Fits (link : Link σ) : Prop :=
  ∀ request s reply, (link request s).1.answer = .ok reply → reply.Fits

theorem Record.fits_ofReply {number : Nat} {reply : Reply} (id : AttemptId) (duration : Span)
    (hnumber : number ≤ Numeral.greatest 32) (hreply : reply.Fits) :
    (ofReply id number reply duration).Fits :=
  ⟨hnumber, hreply, min_le_right _ _⟩

namespace Run

variable {run next : Run} {now : Moment} {cancelled : Bool} {s after : σ}

/-- All numbers that the run has recorded or may record fit. -/
structure Fits (run : Run) : Prop where
  within : run.Within (Numeral.greatest 32)
  records : ∀ record ∈ run.records, record.Fits
  pending : ∀ request since due reply,
    run.phase = .working request (.calling since due (.ok reply)) → reply.Fits

theorem Moves.fits (hmove : run.Moves terms link now cancelled s next after)
    (hcounts : terms.Counts) (hlink : link.Fits) (hrun : run.Fits) : next.Fits := by
  have hwithin := hmove.within hcounts hrun.within
  cases hmove with
  | @call request hphase =>
    refine ⟨hwithin, hrun.records, fun asked since due reply hcalling ↦ ?_⟩
    obtain ⟨_, hstage⟩ := Phase.working.inj hcalling
    obtain ⟨_, _, hanswer⟩ := Stage.calling.inj hstage
    exact hlink request s reply hanswer
  | @receive request since due reply hphase =>
    refine ⟨hwithin, fun record hrecord ↦ ?_, fun asked since' due' reply' hcalling ↦ ?_⟩
    · rw [receive_records] at hrecord
      rcases List.mem_append.mp hrecord with hrecord | hrecord
      · exact hrun.records record hrecord
      · rw [List.mem_singleton.mp hrecord]
        exact Record.fits_ofReply _ _ hrun.within.number (hrun.pending _ _ _ _ hphase)
    · rcases receive_cases terms run request since now reply with
        ⟨_, hover⟩ | ⟨_, _, _, _, _, hresting⟩
      · rw [hover] at hcalling
        exact nomatch hcalling
      · rw [hresting] at hcalling
        exact nomatch hcalling
  | _ => exact ⟨hwithin, hrun.records, fun _ _ _ _ hcalling ↦ nomatch hcalling⟩

theorem fits_start (terms : Terms) (payload : Bytes) (now : Moment) :
    (start terms payload now).Fits := by
  refine ⟨within_start terms payload now (by decide), ?_, ?_⟩
  · unfold start
    split <;> exact fun _ hrecord ↦ absurd hrecord List.not_mem_nil
  · unfold start
    split <;> exact fun _ _ _ _ hcalling ↦ nomatch hcalling

theorem kept_fits (hcounts : terms.Counts) (hlink : link.Fits) : Kept terms link Fits where
  start payload now := fits_start terms payload now
  move hmove hrun := hmove.fits hcounts hlink hrun

/-- The report of a run that fits is read back from its text. -/
theorem Fits.read_report (hrun : run.Fits) (hclock : ∀ moment, (clock moment).Valid)
    (hreport : run.report? id clock = some report) : Report.read report.json.bytes = .ok report := by
  unfold report? at hreport
  split at hreport
  · cases hreport
    exact Report.read_json hrun.records (hclock _) (hclock _)
  · contradiction

end Run

/-- Every report that a run makes is read back from its text, whatever its payload and its token. -/
theorem Solo.read_report_after (hcounts : terms.Counts) (hlink : link.Fits)
    (hclock : ∀ moment, (clock moment).Valid) (payload : Bytes) (token : Token) (s : σ) (count : Nat)
    (hreport : ((startWith terms payload token s).after terms link count).run.report? id clock =
      some report) : Report.read report.json.bytes = .ok report :=
  (kept_after (Run.kept_fits hcounts hlink) payload 0 0 token s count).read_report hclock hreport

/-- Whatever is done in a pool, all its reports are read back from their texts. -/
theorem Pool.read_reports_of_perform {setup : Setup σ} {n : Nat} {s : σ} {actions : List Action}
    {pool : Pool σ} (hcounts : setup.terms.Counts) (hlink : setup.link.Fits)
    (hclock : ∀ moment, (setup.clock moment).Valid)
    (h : perform setup actions (start n s) = some pool) :
    ∀ report ∈ pool.reports, Report.read report.json.bytes = .ok report := by
  intro report hreport
  obtain ⟨id, run, hrun, hmade⟩ :=
    (keeps_of_perform (Run.kept_fits hcounts hlink) h).reported report hreport
  exact hrun.read_report hclock hmade

end Courier
