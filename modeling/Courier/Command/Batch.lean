import Courier.Pool.Schedule
import Courier.Report.Tally

/-!
# Batches

A batch hands the payloads of its files to a pool, each after the one before has been taken into the
inbox.  A file that cannot be read ends the handing over, but everything handed over before is still
run and reported.  The batch is over when all workers have left; it went well when every file was
read and every run completed.

Like the pool, a batch is a machine with labelled actions whose order is left open.
-/

namespace Courier

/-- Why a file cannot be read. -/
inductive FileFault where
  | missing
  | directory
  | other (text : String)
  deriving DecidableEq

def FileFault.message : FileFault → String
  | .missing => "No such file or directory (os error 2)"
  | .directory => "Is a directory (os error 21)"
  | .other text => text

/-- A payload file with what was found when it was opened. -/
structure PayloadFile where
  path : String
  content : Except FileFault Bytes

structure Batch (σ : Type) where
  pool : Pool σ
  /-- Files that have not been handed over. -/
  files : List PayloadFile
  submitted : Nat
  /-- The first file that could not be read. -/
  fault : Option (String × FileFault)

namespace Batch

variable {σ : Type}

def start (workers : Nat) (files : List PayloadFile) (s : σ) : Batch σ :=
  ⟨Pool.start workers s, files, 0, none⟩

inductive Action where
  /-- Opens the next file and hands its payload over. -/
  | submit
  /-- Gives up the right to submit. -/
  | hangUp
  | pool (action : Pool.Inner)
  | tick

/-- What a batch is made with. -/
structure Setup (σ : Type) where
  pool : Pool.Setup σ
  /-- The identifier of the run that is submitted after some others. -/
  runId : Nat → RunId

def submit (setup : Setup σ) (batch : Batch σ) : Option (Batch σ) :=
  match batch.files with
  | [] => none
  | ⟨path, content⟩ :: rest =>
    if !batch.pool.senders.isEmpty then none
    else
      match content with
      | .error fault => some { batch with files := [], fault := some (path, fault) }
      | .ok payload => do
        let pool ← batch.pool.outer (.submit ⟨setup.runId batch.submitted, payload⟩)
        some { batch with pool, files := rest, submitted := batch.submitted + 1 }

def hangUp (batch : Batch σ) : Option (Batch σ) :=
  if batch.files.isEmpty && batch.pool.senders.isEmpty then
    (batch.pool.outer .dropSubmitter).map fun pool ↦ { batch with pool }
  else none

/-- What an action leads to, where it is possible. -/
def act (setup : Setup σ) (batch : Batch σ) : Action → Option (Batch σ)
  | .submit => batch.submit setup
  | .hangUp => batch.hangUp
  | .pool action => (batch.pool.inner setup.pool action).map fun pool ↦ { batch with pool }
  | .tick => (batch.pool.tick? setup.pool).map fun pool ↦ { batch with pool }

/-- Whether all workers have left. -/
def isOver (batch : Batch σ) : Bool := batch.pool.isFinished

/-- One action in a fixed order: handing over first, then the pool, then the clock. -/
def next? (setup : Setup σ) (batch : Batch σ) : Option (Batch σ) :=
  match batch.submit setup with
  | some batch => some batch
  | none =>
    match batch.hangUp with
    | some batch => some batch
    | none =>
      match batch.pool.next? setup.pool with
      | some pool => some { batch with pool }
      | none => batch.act setup .tick

/-- The batch when it is over, if `fuel` actions are enough. -/
def finish? (setup : Setup σ) : Nat → Batch σ → Option (Batch σ)
  | 0, batch => if batch.isOver then some batch else none
  | fuel + 1, batch =>
    if batch.isOver then some batch
    else
      match batch.next? setup with
      | some batch => finish? setup fuel batch
      | none => none

/-! ## Outcomes -/

/-- A cause below a message, line by line. -/
def indent (text : String) : String :=
  String.ofList (text.toList.flatMap fun c ↦ if c = '\n' then "\n    ".toList else [c])

/-- A message with its cause. -/
def complaint (message : String) (cause : Option String) : String :=
  "Error: " ++ message ++
    match cause with
    | some cause => "\n\nCaused by:\n    " ++ indent cause ++ "\n"
    | none => "\n"

/-- What counts in the end: the first file that could not be read, and how the runs ended. -/
structure Summary where
  fault : Option (String × FileFault)
  tally : Tally
  deriving DecidableEq

namespace Summary

/-- What is complained about: an unreadable file, or else runs that failed. -/
def complaints (summary : Summary) : String :=
  match summary.fault with
  | some (path, fault) => complaint ("read payload " ++ path) (some fault.message)
  | none =>
    if summary.tally.failed = 0 then ""
    else
      let failed := toString summary.tally.failed
      complaint (failed ++ " of " ++ toString summary.tally.total ++ " runs failed") none

def exitCode (summary : Summary) : Nat :=
  if summary.fault.isNone && summary.tally.failed = 0 then 0 else 1

end Summary

def summary (batch : Batch σ) : Summary :=
  ⟨batch.fault, Tally.ofResults (batch.pool.reports.map Report.result)⟩

/-- What is written to standard output: nothing, or one line for each report. -/
def output (quiet : Bool) (batch : Batch σ) : List Report :=
  if quiet then [] else batch.pool.reports

end Batch

end Courier
