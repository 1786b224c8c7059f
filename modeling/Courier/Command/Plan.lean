import Courier.Command.Batch
import Courier.Command.Options

/-!
# Plans

What a command line and an environment come to: something to show at once, or a batch to be run.
The settings are read before anything else is done, and the number of workers on the command line
takes the place of the one in the settings.
-/

namespace Courier

namespace Command

/-- Where a payload comes from. -/
inductive Source where
  | file (path : String)
  | standardInput
  deriving DecidableEq

structure Plan where
  settings : Settings
  terms : Terms
  workers : Nat
  quiet : Bool
  sources : List Source

inductive Opening where
  | plan (plan : Plan)
  /-- Lines for standard output. -/
  | display (lines : List String)
  /-- A text for standard error and an exit code. -/
  | fail (text : String) (code : Nat)

namespace Plan

/-- One payload from standard input stands for a missing list of files. -/
def sourcesOf (options : Options) : List Source :=
  if options.payloads.isEmpty then [.standardInput] else options.payloads.map .file

def workersOf (options : Options) (settings : Settings) : Nat :=
  match options.concurrency with
  | some n => max 1 (min n Settings.mostWorkers)
  | none => settings.concurrency

def ofOptions (lookup : String → Option String) (attemptId : Nat → AttemptId)
    (clockRange : ClockRange) (options : Options) : Opening :=
  match Settings.ofLookup lookup with
  | .error defect =>
    .fail (Batch.complaint "load configuration" (some defect.problem.message)) 1
  | .ok settings =>
    match Terms.ofSettings settings attemptId clockRange with
    | .error defect =>
      .fail (Batch.complaint "build activity options" (some defect.problem.message)) 1
    | .ok terms =>
      .plan ⟨settings, terms, workersOf options settings, options.quiet, sourcesOf options⟩

end Plan

def opening (arguments : List String) (lookup : String → Option String)
    (attemptId : Nat → AttemptId) (clockRange : ClockRange) : Opening :=
  match Wish.read arguments with
  | .help => .display helpLines
  | .version => .display [versionText]
  | .misuse misuse => .fail misuse.text 2
  | .run options => Plan.ofOptions lookup attemptId clockRange options

end Command

end Courier
