import Courier.Command.Plan
import Courier.Http.Exchange
import Std.Async.DNS
import Std.Async.TCP
import Std.Async.Timer
import Std.Sync.Mutex

/-!
# The relay command

Runs the plan of a command line against the real clock, files and network.  Every worker takes one
payload after another; reading the file belongs to taking it, so that nothing behind an unreadable
file is ever taken.
-/

namespace Courier

namespace Relay

open Std.Async

/-! ## Network -/

/-- The addresses of the host of a request. -/
def addresses (out : Http.Outgoing) : Async (Array Std.Net.IPAddr) :=
  match out.url.host with
  | some host =>
    match host with
    | .six _ => DNS.getAddrInfo (String.ofList ((host.text.drop 1).dropLast)) ""
    | _ => DNS.getAddrInfo (String.ofList host.text) ""
  | none => pure #[]

def socketAddress (service : UInt16) : Std.Net.IPAddr → Std.Net.SocketAddress
  | .v4 addr => .v4 ⟨addr, service⟩
  | .v6 addr => .v6 ⟨addr, service⟩

/-- Receives until the answer is settled or the server closes. -/
partial def receive (client : TCP.Socket.Client) (soFar : ByteArray) : Async ByteArray := do
  if Http.Response.isSettled soFar.toList then pure soFar
  else
    match ← client.recv? 65536 with
    | some bytes => receive client (soFar ++ bytes)
    | none => pure soFar

/-- One connection to one of the addresses. -/
def connection (out : Http.Outgoing) (address : Std.Net.IPAddr) : Async Http.Response := do
  let client ← TCP.Socket.Client.mk
  client.connect (socketAddress (UInt16.ofNat (out.url.service.getD 80)) address)
  client.send (ByteArray.mk out.bytes.toArray)
  let bytes ← receive client ByteArray.empty
  pure (Http.Response.read bytes.toList)

/-- The answer to a request; only plain connections are made. -/
def exchange (out : Http.Outgoing) : Async Http.Response := do
  if out.url.scheme ≠ "http".toList then pure .noHead
  else
    try
      match (← addresses out)[0]? with
      | some address => connection out address
      | none => pure .noHead
    catch _ => pure .noHead

/-- The answer to a call, or nothing when the limit comes first. -/
def call (request : Request) (limit : Span) : IO (Option Answer) := do
  match Http.prepare request with
  | .error refusal => pure (some (.error refusal.problem.message))
  | .ok out =>
    let answered : Async (Option Answer) := do
      pure (some (.ok (Http.replyOf out.url (← exchange out))))
    let late : Async (Option Answer) := do
      sleep ⟨Int.ofNat (Span.ceilMillis limit / 1000000)⟩
      pure none
    (Async.race answered late).block

/-! ## Runs -/

def markText : Mark → String
  | .number n => toString n
  | .text s => s

def logLine (entry : Entry) : String :=
  let fields := entry.fields.map fun (name, mark) ↦ " " ++ name ++ "=" ++ markText mark
  entry.level.name ++ " " ++ entry.message ++ String.join fields

def log (entries : List Entry) : IO Unit :=
  for entry in entries do
    if entry.level ≠ .debug then IO.eprintln (logLine entry)

/-- The time since the zero of the clock. -/
def elapsed (origin : Nat) : IO Moment := do
  pure ((← IO.monoNanosNow) - origin)

/-- Moves a run on until it is over. -/
partial def carryOut (terms : Terms) (origin : Nat) (run : Run) : IO Run := do
  let now ← elapsed origin
  let (step, later) ←
    match run.phase with
    | .working request .ready => do
      let limit := run.watch.remaining now
      if limit = 0 then pure (⟨.error "", 0⟩, now)
      else
        match ← call request limit with
        | some answer =>
          let later ← elapsed origin
          pure ((⟨answer, later - now⟩ : Step), later)
        | none => pure (⟨.error "", limit⟩, ← elapsed origin)
    | _ => pure ((⟨.error "", 0⟩ : Step), now)
  match run.step terms (fun _ () ↦ (step, ())) now false () with
  | some (next, ()) => do
    log (next.log.drop run.log.length)
    carryOut terms origin next
  | none =>
    match nextMoment run.alarms with
    | none => pure run
    | some moment => do
      IO.sleep (UInt32.ofNat (max 1 ((moment - later) / 1000000)))
      carryOut terms origin run

def wallClock : IO Timestamp := do
  let now ← Std.Time.Timestamp.now
  let nanos := now.toNanosecondsSinceUnixEpoch.val
  pure ⟨nanos / 1000000000, (nanos % 1000000000).toNat⟩

/-- One run of a payload, with fresh identifiers. -/
def runPayload (terms : Terms) (payload : Bytes) : IO (Option Report) := do
  let origin ← IO.monoNanosNow
  let wall ← wallClock
  let runBits ← IO.rand 0 (Ulid.randomRange - 1)
  let attemptBits ← IO.rand 0 (Ulid.randomRange - 1)
  let terms := { terms with attemptId := fun k ↦ ⟨Ulid.mint wall (attemptBits + k)⟩ }
  let first := Run.start terms payload 0
  log first.log
  let run ← carryOut terms origin first
  pure (run.report? ⟨Ulid.mint wall runBits⟩ wall.later)

/-! ## Batches -/

def fault : IO.Error → FileFault
  | .noFileOrDirectory _ _ _ => .missing
  | .inappropriateType _ code text =>
    if code = 21 then .directory else .other (text ++ " (os error " ++ toString code ++ ")")
  | .permissionDenied _ code text => .other (text ++ " (os error " ++ toString code ++ ")")
  | other => .other (toString other)

partial def readInput (input : IO.FS.Stream) (soFar : ByteArray) : IO ByteArray := do
  let bytes ← input.read 65536
  if bytes.isEmpty then pure soFar else readInput input (soFar ++ bytes)

def openSource : Command.Source → IO PayloadFile
  | .standardInput => do
    let bytes ← readInput (← IO.getStdin) ByteArray.empty
    pure ⟨"", .ok bytes.toList⟩
  | .file path => do
    try
      let bytes ← IO.FS.readBinFile path
      pure ⟨path, .ok bytes.toList⟩
    catch error => pure ⟨path, .error (fault error)⟩

/-- What the workers share. -/
structure Shared where
  sources : List Command.Source
  summary : Batch.Summary

/-- Takes the next payload, if there is one. -/
def take : Std.AtomicT Shared IO (Option Bytes) := do
  let shared ← get
  match shared.sources with
  | [] => pure none
  | source :: rest =>
    let file ← openSource source
    match file.content with
    | .ok payload =>
      set ({ shared with sources := rest } : Shared)
      pure (some payload)
    | .error problem =>
      set (⟨[], { shared.summary with fault := some (file.path, problem) }⟩ : Shared)
      pure none

def deliver (quiet : Bool) (report : Report) : Std.AtomicT Shared IO Unit := do
  if quiet then log [Entry.ofReport report] else IO.println report.json.text
  modify fun shared ↦
    { shared with
      summary := { shared.summary with tally := shared.summary.tally.record report.result } }

partial def work (plan : Command.Plan) (shared : Std.Mutex Shared) : IO Unit := do
  match ← shared.atomically take with
  | none => pure ()
  | some payload =>
    match ← runPayload plan.terms payload with
    | some report => shared.atomically (deliver plan.quiet report)
    | none => pure ()
    work plan shared

def runPlan (plan : Command.Plan) : IO UInt32 := do
  let shared ← Std.Mutex.new (⟨plan.sources, ⟨none, Tally.empty⟩⟩ : Shared)
  let workers ← (List.range (min plan.workers plan.sources.length)).mapM fun _ ↦
    IO.asTask (work plan shared) .dedicated
  for worker in workers do
    match ← IO.wait worker with
    | .ok () => pure ()
    | .error error => throw error
  let summary ← shared.atomically (do pure (← get).summary)
  IO.eprint summary.complaints
  pure (UInt32.ofNat summary.exitCode)

/-- The variables that settings are read from. -/
def environment : IO (String → Option String) := do
  let keys := ["FISO_LINK_ADDR", "TASK_QUEUE", "TEMPORAL_HOST", "TEMPORAL_NAMESPACE",
    "START_TO_CLOSE_TIMEOUT_SECS", "MAX_ATTEMPTS", "WORKER_CONCURRENCY"]
  let found ← keys.mapM fun key ↦ do pure (key, ← IO.getEnv key)
  pure fun key ↦ (found.lookup key).join

def launch (arguments : List String) : IO UInt32 := do
  match Command.opening arguments (← environment) (fun k ↦ ⟨Ulid.ofNat k⟩) .usual with
  | .display lines =>
    for line in lines do IO.println line
    pure 0
  | .fail text code =>
    IO.eprint text
    pure (UInt32.ofNat code)
  | .plan plan => runPlan plan

end Relay

end Courier

def main (arguments : List String) : IO UInt32 := Courier.Relay.launch arguments
