import Courier.Retry.Policy
import Courier.Text.Blank

/-!
# Settings

Settings come from seven named variables.  A variable that is missing or blank counts as unset and
leaves the default.  Numbers are trimmed before they are read and texts are taken as they are.
-/

namespace Courier

structure Settings where
  linkAddress : String
  taskQueue : String
  orchestrator : String
  orchestratorNamespace : String
  timeout : Span
  attempts : Nat
  concurrency : Nat
  deriving DecidableEq

namespace Settings

/-- The most workers of a pool. -/
def mostWorkers : Nat := 1024

/-- The longest time limit in seconds: one year. -/
def longestTimeout : Nat := 365 * 86400

def standard : Settings where
  linkAddress := "http://localhost:3500"
  taskQueue := "order-processing"
  orchestrator := "localhost:7233"
  orchestratorNamespace := "default"
  timeout := Span.ofSeconds 30
  attempts := 3
  concurrency := 4

/-- Why variables give no settings. -/
inductive Defect where
  | number (key value : String) (defect : Numeral.Defect)
  | linkAddress (value : String)
  | timeout
  | concurrency
  | policy (defect : Policy.Defect)

def Defect.problem : Defect → Problem
  | .number key value defect => .settings (key ++ "=" ++ value ++ ": " ++ defect.message)
  | .linkAddress value =>
    .settings ("FISO_LINK_ADDR must be an http(s) address, got '" ++ value ++ "'")
  | .timeout =>
    .settings ("START_TO_CLOSE_TIMEOUT_SECS must be between 1 and " ++ toString longestTimeout)
  | .concurrency => .settings ("WORKER_CONCURRENCY must be between 1 and " ++ toString mostWorkers)
  | .policy defect => defect.problem

/-- The value of a variable that is set and not blank. -/
def present (lookup : String → Option String) (key : String) : Option String :=
  (lookup key).filter fun value ↦ ¬ (Text.trim value.toList).isEmpty

/-- A number with a limit, or the default of a variable that is unset. -/
def numberAt (lookup : String → Option String) (key : String) (limit default : Nat) :
    Except Defect Nat :=
  match present lookup key with
  | none => .ok default
  | some value =>
    match Numeral.read limit (Text.trim value.toList) with
    | .ok n => .ok n
    | .error defect => .error (.number key value defect)

/-- The policy that the settings stand for. -/
def policy (settings : Settings) : Except Policy.Defect Policy :=
  Policy.ofAttempts settings.attempts

/-- Whether the address names one of the two schemes. -/
def hasScheme (address : String) : Bool :=
  "http://".toList.isPrefixOf address.toList || "https://".toList.isPrefixOf address.toList

def check (settings : Settings) : Except Defect Settings :=
  if ¬ hasScheme settings.linkAddress then .error (.linkAddress settings.linkAddress)
  else if settings.timeout = 0 ∨ Span.ofSeconds longestTimeout < settings.timeout then
    .error .timeout
  else if settings.concurrency = 0 ∨ mostWorkers < settings.concurrency then .error .concurrency
  else
    match settings.policy with
    | .ok _ => .ok settings
    | .error defect => .error (.policy defect)

/-- The settings of an environment. -/
def ofLookup (lookup : String → Option String) : Except Defect Settings := do
  let seconds ←
    numberAt lookup "START_TO_CLOSE_TIMEOUT_SECS" (Numeral.greatest 64) standard.timeout.seconds
  let attempts ← numberAt lookup "MAX_ATTEMPTS" (Numeral.greatest 32) standard.attempts
  let concurrency ← numberAt lookup "WORKER_CONCURRENCY" (Numeral.greatest 64) standard.concurrency
  check
    { linkAddress := (present lookup "FISO_LINK_ADDR").getD standard.linkAddress
      taskQueue := (present lookup "TASK_QUEUE").getD standard.taskQueue
      orchestrator := (present lookup "TEMPORAL_HOST").getD standard.orchestrator
      orchestratorNamespace :=
        (present lookup "TEMPORAL_NAMESPACE").getD standard.orchestratorNamespace
      timeout := Span.ofSeconds seconds
      attempts
      concurrency }

end Settings

end Courier
