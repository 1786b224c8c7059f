import Courier.Command.Plan
import Courier.Proofs.Command.Histories
import Courier.Proofs.Report.RoundTrip
import Courier.Proofs.Run.Attempts

/-!
# The outcome of a batch

A command line that comes to a plan bounds the attempts of all runs, so that the batch of its files
comes to an end.  Then each file before the first that cannot be read has its report, the reports
are written a line each unless the command line says otherwise, and the exit code tells whether all
files were read and all runs completed.
-/

namespace Courier

variable {σ : Type}

/-! ## Tallies -/

namespace Tally

theorem failed_record (tally : Tally) (result : Result) : (tally.record result).failed =
    tally.failed + if result.isCompleted then 0 else 1 := by
  cases result with
  | completed value => rfl
  | failed reason detail =>
    have hnot : (Result.failed reason detail).isCompleted = false := rfl
    cases reason <;> simp only [record, failed, hnot, Bool.false_eq_true, if_false] <;> omega

/-- Every result that is no completion counts once. -/
theorem failed_foldl (tally : Tally) (results : List Result) :
    (results.foldl record tally).failed =
      tally.failed + results.countP fun result ↦ !result.isCompleted := by
  induction results generalizing tally with
  | nil => rfl
  | cons result rest ih =>
    rw [List.foldl_cons, ih, failed_record, List.countP_cons]
    cases result.isCompleted <;> simp only [Bool.not_true, Bool.not_false, if_true,
      Bool.false_eq_true, if_false] <;> omega

theorem failed_ofResults_eq_zero_iff (results : List Result) :
    (ofResults results).failed = 0 ↔ ∀ result ∈ results, result.isCompleted = true := by
  rw [ofResults, failed_foldl, show empty.failed = 0 from rfl, Nat.zero_add, List.countP_eq_zero]
  simp

end Tally

/-! ## Plans -/

namespace Command

variable {arguments : List String} {lookup : String → Option String}
  {attemptId : Nat → AttemptId} {clockRange : ClockRange} {options : Options} {plan : Plan}

/-- The plan of a command line that comes to one. -/
def Opening.plan? : Opening → Option Plan
  | .plan plan => some plan
  | .display _ => none
  | .fail _ _ => none

theorem Opening.eq_of_plan? {opening : Opening} (hplan : opening.plan? = some plan) :
    opening = .plan plan := by
  cases opening with
  | plan other =>
    cases hplan
    rfl
  | _ => contradiction

theorem Plan.terms_of_ofOptions
    (hplan : ofOptions lookup attemptId clockRange options = .plan plan) :
    Terms.ofSettings plan.settings attemptId clockRange = .ok plan.terms := by
  unfold ofOptions at hplan
  split at hplan
  · contradiction
  · split at hplan
    · contradiction
    · next hterms =>
      cases hplan
      exact hterms

theorem terms_of_opening (hplan : opening arguments lookup attemptId clockRange = .plan plan) :
    Terms.ofSettings plan.settings attemptId clockRange = .ok plan.terms := by
  unfold opening at hplan
  split at hplan
  · contradiction
  · contradiction
  · contradiction
  · exact Plan.terms_of_ofOptions hplan

/-- A source with what was found when it was opened. -/
def Source.opened : Source → Except FileFault Bytes → PayloadFile
  | .file path, found => ⟨path, found⟩
  | .standardInput, found => ⟨"", found⟩

/-- The files of a plan with what was found in each. -/
def Plan.files (plan : Plan) (found : List (Except FileFault Bytes)) : List PayloadFile :=
  List.zipWith Source.opened plan.sources found

theorem map_content_opened {sources : List Source} {found : List (Except FileFault Bytes)}
    (hfound : found.length = sources.length) :
    (List.zipWith Source.opened sources found).map PayloadFile.content = found := by
  induction sources generalizing found with
  | nil => rw [List.length_eq_zero_iff.mp hfound, List.zipWith_nil_right, List.map_nil]
  | cons source rest ih =>
    cases found with
    | nil => contradiction
    | cons content more =>
      have hcontent : (source.opened content).content = content := by cases source <;> rfl
      rw [List.zipWith_cons_cons, List.map_cons, hcontent, ih (Nat.succ_inj.mp hfound)]

theorem Plan.readable_iff {found : List (Except FileFault Bytes)}
    (hfound : found.length = plan.sources.length) :
    (∀ file ∈ plan.files found, ∃ payload, file.content = .ok payload) ↔
      ∀ content ∈ found, ∃ payload, content = .ok payload := by
  have hcontents : (plan.files found).map PayloadFile.content = found := map_content_opened hfound
  rw [← List.forall_mem_map (f := PayloadFile.content)
    (P := fun content ↦ ∃ payload, content = .ok payload), hcontents]

/-- A plan bounds the attempts of its runs. -/
theorem exists_stopsBy_of_opening
    (hplan : opening arguments lookup attemptId clockRange = .plan plan) :
    ∃ bound, 0 < bound ∧ plan.terms.StopsBy bound := by
  have hterms := terms_of_opening hplan
  unfold Terms.ofSettings at hterms
  split at hterms
  · next policy hpolicy =>
    obtain ⟨_, _, hdecide, hpositive⟩ := Terms.ofPolicy_eq_ok hterms
    exact ⟨policy.attempts, hpositive, Terms.stopsBy_of_policy policy hdecide⟩
  · contradiction

end Command

/-! ## Outcomes -/

namespace Batch

variable {setup : Setup σ} {files : List PayloadFile} {batch last : Batch σ}

/-- What is written to standard output: a line for each report. -/
def standardOutput (quiet : Bool) (batch : Batch σ) : Bytes :=
  (batch.output quiet).flatMap fun report ↦ report.json.bytes ++ [10]

theorem exitCode_eq_zero_iff (batch : Batch σ) : batch.summary.exitCode = 0 ↔
    batch.fault = none ∧ ∀ report ∈ batch.pool.reports, report.result.isCompleted = true := by
  have hfailed := Tally.failed_ofResults_eq_zero_iff (batch.pool.reports.map Report.result)
  rw [List.forall_mem_map] at hfailed
  rw [← hfailed, ← Option.isNone_iff_eq_none]
  unfold Summary.exitCode
  split
  · next hwell =>
    obtain ⟨hread, hnone⟩ := Bool.and_eq_true_iff.mp hwell
    exact iff_of_true rfl ⟨hread, of_decide_eq_true hnone⟩
  · next hill =>
    refine iff_of_false Nat.one_ne_zero fun ⟨hread, hnone⟩ ↦ hill ?_
    exact Bool.and_eq_true_iff.mpr ⟨hread, decide_eq_true hnone⟩

/-- A finished batch has handed over all the files it could. -/
theorem Handles.exists_reports (hbatch : batch.Handles setup files) (hover : batch.isOver = true) :
    batch.fault = firstFault files ∧ ∃ reports, List.Forall₂ (Ticket.Yields setup.pool)
      (tickets setup (readable files)) reports ∧ reports.Perm batch.pool.reports := by
  obtain ⟨taken, hreadable, _, htends⟩ := hbatch.tends
  obtain ⟨worker, hworker⟩ := List.exists_mem_of_length_pos hbatch.manned
  have hgone := Pool.eq_gone_of_isFinished hover hworker
  have hspent := htends.goes.spent_of_through hworker (hgone ▸ rfl)
  have hfiles := hbatch.hung hspent.1
  have hfault := hbatch.fault
  rw [hfiles, firstFault, Option.or_none] at hfault
  rw [hfiles, readable, List.append_nil] at hreadable
  subst hreadable
  exact ⟨hfault, htends.exists_reports hbatch.manned hover⟩

/-- However a batch goes on, it is finished after a bounded number of actions and can act until
then, in the fixed order as well; and when it is finished something holds of it. -/
structure ComesToEnd (setup : Setup σ) (batch : Batch σ) (holds : Batch σ → Prop) : Prop where
  bounded : ∃ bound : Nat, ∀ (history : List Happening) (last : Batch σ),
    perform setup history batch = some last → history.countP Happening.isAct ≤ bound
  goes : ∀ (history : List Happening) (last : Batch σ),
    perform setup history batch = some last → last.isOver = false →
    ∃ action next, last.act setup action = some next
  finishes : ∃ enough last history, (∀ fuel ≥ enough, batch.finish? setup fuel = some last) ∧
    perform setup history batch = some last ∧ last.isOver = true
  holds : ∀ (history : List Happening) (last : Batch σ),
    perform setup history batch = some last → last.isOver = true → holds last

/-- What is kept by all steps holds at the end. -/
theorem Handles.comesToEnd {bound : Nat} (hbatch : batch.Handles setup files)
    (hstops : setup.pool.terms.StopsBy bound) (hbound : 0 < bound) {holds : Batch σ → Prop}
    (hholds : ∀ last : Batch σ, last.Handles setup files → last.isOver = true → holds last) :
    batch.ComesToEnd setup holds where
  bounded := ⟨_, fun _ _ hlast ↦
    Nat.le_of_add_right_le (acts_le_of_perform hlast hbatch hstops hbound)⟩
  goes _ _ hlast := (perform_handles hlast hbatch).exists_act
  finishes := hbatch.finishes hstops hbound
  holds _ last hlast := hholds last (perform_handles hlast hbatch)

/-- A command line that comes to a plan is a batch that comes to an end, over any link and with the
clock going on at any time, whatever was found in its files.  Then there is a report of a run of
each file before the first that could not be read, in the order of the files.  Unless the command
line is quiet, standard output consists of one line for each of these reports, in some order; if it
is quiet, nothing is written.  The exit code is zero just when every file was read and every run
completed. -/
theorem batch_reports_readable_files (arguments : List String) (lookup : String → Option String)
    (attemptId : Nat → AttemptId) (clockRange : ClockRange) (plan : Command.Plan)
    (found : List (Except FileFault Bytes))
    (setup : Setup σ) (s : σ)
    (hplan : Command.opening arguments lookup attemptId clockRange = .plan plan)
    (hfound : found.length = plan.sources.length) (hterms : setup.pool.terms = plan.terms) :
    (start plan.workers (plan.files found) s).ComesToEnd setup fun last ↦
      ∃ reports, List.Forall₂ (Ticket.Yields setup.pool)
          (tickets setup (readable (plan.files found))) reports ∧
        (plan.quiet = false → ∃ lines : List Bytes,
          lines.Perm (reports.map fun report ↦ report.json.bytes) ∧
          (∀ line ∈ lines, ∀ b ∈ line, b ≠ 10 ∧ b ≠ 13) ∧
          last.standardOutput plan.quiet = lines.flatMap (· ++ [10])) ∧
        (plan.quiet = true → last.standardOutput plan.quiet = []) ∧
        (last.summary.exitCode = 0 ↔ (∀ content ∈ found, ∃ payload, content = .ok payload) ∧
          ∀ report ∈ reports, report.result.isCompleted = true) := by
  obtain ⟨bound, hbound, hstops⟩ := Command.exists_stopsBy_of_opening hplan
  refine (handles_start setup plan.workers (plan.files found) s).comesToEnd (hterms ▸ hstops) hbound
    fun last hlast hover ↦ ?_
  obtain ⟨hfault, reports, hyields, hperm⟩ := hlast.exists_reports hover
  refine ⟨reports, hyields, fun hloud ↦ ?_, fun hquiet ↦ ?_, ?_⟩
  · refine ⟨last.pool.reports.map fun report ↦ report.json.bytes, (hperm.map _).symm, ?_, ?_⟩
    · intro line hline
      obtain ⟨report, _, rfl⟩ := List.mem_map.mp hline
      exact report.compact_json.not_break
    · rw [standardOutput, output, hloud, if_neg Bool.false_ne_true, List.flatMap_map]
  · rw [standardOutput, output, hquiet, if_pos rfl]
    rfl
  · rw [exitCode_eq_zero_iff, hfault, firstFault_eq_none_iff, Command.Plan.readable_iff hfound]
    simp only [hperm.mem_iff]

/-- An event, something that is no event, a file that is not there and a file that is not opened. -/
def mixedFiles : List (Except FileFault Bytes) :=
  [.ok "{}".toUTF8.toList, .ok "x".toUTF8.toList, .error .missing, .ok "{}".toUTF8.toList]

/-- Two payloads are run by two workers over a link that answers after ten seconds. -/
theorem batch_reports_readable_files_mixed : ∃ plan : Command.Plan,
    Command.opening ["a", "b", "--concurrency=2", "c", "d"] (fun _ ↦ none)
        (fun k ↦ ⟨Ulid.ofNat k⟩) .usual = .plan plan ∧
      mixedFiles.length = plan.sources.length ∧ plan.workers = 2 ∧
      ∃ (setup : Setup Unit) (enough : Nat) (last : Batch Unit) (lines : List Bytes),
        setup.pool.terms = plan.terms ∧ setup.pool.link = Pool.slowSetup.link ∧
        (∀ fuel ≥ enough,
          (start plan.workers (plan.files mixedFiles) ()).finish? setup fuel = some last) ∧
        last.isOver = true ∧ lines.length = 2 ∧ (∀ line ∈ lines, ∀ b ∈ line, b ≠ 10 ∧ b ≠ 13) ∧
        last.standardOutput plan.quiet = lines.flatMap (· ++ [10]) ∧
        last.summary.exitCode ≠ 0 := by
  have hany : ((Command.opening ["a", "b", "--concurrency=2", "c", "d"] (fun _ ↦ none)
      (fun k ↦ ⟨Ulid.ofNat k⟩) .usual).plan?.any fun plan ↦
        decide (plan.sources.length = 4 ∧ plan.workers = 2 ∧ plan.quiet = false ∧
          (readable (plan.files mixedFiles)).length = 2)) = true := by decide +kernel
  obtain ⟨plan, hopening, hholds⟩ := (Option.any_eq_true _ _).mp hany
  have hplan := Command.Opening.eq_of_plan? hopening
  obtain ⟨hlength, hworkers, hloud, hcount⟩ := of_decide_eq_true hholds
  let setup : Setup Unit := ⟨{ Pool.slowSetup with terms := plan.terms }, fun k ↦ ⟨Ulid.ofNat k⟩⟩
  have hends := batch_reports_readable_files _ _ _ _ plan mixedFiles setup () hplan hlength.symm rfl
  obtain ⟨enough, last, history, hfinish, hperform, hover⟩ := hends.finishes
  obtain ⟨reports, hyields, hlines, _, hcode⟩ := hends.holds history last hperform hover
  obtain ⟨lines, hperm, hbreaks, houtput⟩ := hlines hloud
  refine ⟨plan, hplan, hlength.symm, hworkers, setup, enough, last, lines, rfl, rfl, hfinish,
    hover, ?_, hbreaks, houtput, fun hzero ↦ ?_⟩
  · rw [hperm.length_eq, List.length_map, ← hyields.length_eq, tickets, List.length_mapIdx,
      hcount]
  · obtain ⟨payload, hpayload⟩ := (hcode.mp hzero).1 (.error .missing) (by simp [mixedFiles])
    exact nomatch hpayload

end Batch

end Courier
