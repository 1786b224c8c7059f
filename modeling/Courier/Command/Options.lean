import Courier.Text.Likeness
import Courier.Text.Numeral

/-!
# Command lines

A command line names payload files and options.  After a double dash everything is a file.  An option
that takes a value takes the next argument unless that looks like an option.  The first mistake ends
the reading, but an argument that is none at all is found before a bad value just ahead of it.
-/

namespace Courier

namespace Command

structure Options where
  payloads : List String
  concurrency : Option Nat
  quiet : Bool
  deriving DecidableEq

inductive Flag where
  | concurrency
  | quiet
  | help
  | version
  deriving DecidableEq

namespace Flag

def all : List Flag := [.concurrency, .quiet, .help, .version]

def name : Flag → String
  | .concurrency => "concurrency"
  | .quiet => "quiet"
  | .help => "help"
  | .version => "version"

/-- The option as it is shown to the user. -/
def shown : Flag → String
  | .concurrency => "--concurrency <CONCURRENCY>"
  | flag => "--" ++ flag.name

def ofName (name : String) : Option Flag := all.find? fun flag ↦ flag.name = name

end Flag

/-- What is wrong with a command line; `given` tells whether some option or file came before. -/
inductive Misuse where
  | unknown (argument : String) (similar : Option Flag) (given : Bool)
  | missingValue
  | badValue (value : String) (defect : Numeral.Defect)
  | repeated (flag : Flag)
  | needlessValue (value : String) (flag : Flag) (given : Bool)
  deriving DecidableEq

/-- What a command line asks for. -/
inductive Wish where
  | run (options : Options)
  | help
  | version
  | misuse (misuse : Misuse)
  deriving DecidableEq

namespace Options

def empty : Options := ⟨[], none, false⟩

def isEmpty (options : Options) : Bool := options = empty

end Options

/-- An argument by its looks. -/
inductive Argument where
  | doubleDash
  | long (name : String) (value : Option String)
  | short (first : Char)
  | plain

namespace Argument

def ofChars : List Char → Argument
  | ['-', '-'] => .doubleDash
  | '-' :: '-' :: cs =>
    let value := (cs.dropWhile (· ≠ '=')).drop 1
    .long (String.ofList (cs.takeWhile (· ≠ '=')))
      (if cs.contains '=' then some (String.ofList value) else none)
  | '-' :: c :: _ => .short c
  | _ => .plain

def ofText (text : String) : Argument := ofChars text.toList

/-- The mistake that an argument is wherever it stands. -/
def misuse? (options : Options) : Argument → Option Misuse
  | .long name value =>
    match Flag.ofName name, value with
    | none, _ =>
      let similar := (Likeness.closest name (Flag.all.map Flag.name)).bind Flag.ofName
      some (.unknown ("--" ++ name) similar (!options.isEmpty))
    | some .concurrency, _ => none
    | some flag, some value => some (.needlessValue value flag (!options.isEmpty))
    | some _, none => none
  | .short c =>
    if c = 'h' ∨ c = 'V' then none
    else some (.unknown (String.ofList ['-', c]) none (!options.isEmpty))
  | _ => none

end Argument

def Options.withConcurrency (options : Options) (value : String) : Except Misuse Options :=
  if options.concurrency.isSome then .error (.repeated .concurrency)
  else
    match Numeral.read (Numeral.greatest 64) value.toList with
    | .ok n => .ok { options with concurrency := some n }
    | .error defect => .error (.badValue value defect)

def Options.withQuiet (options : Options) : Except Misuse Options :=
  if options.quiet then .error (.repeated .quiet) else .ok { options with quiet := true }

/-- A mistake that comes to light when the next argument is looked at, unless that is one itself. -/
def lateMisuse (options : Options) (misuse : Misuse) : List String → Misuse
  | [] => misuse
  | next :: _ => ((Argument.ofText next).misuse? options).getD misuse

/-- Reads the arguments after those that gave the options so far. -/
def Wish.readFrom (options : Options) : List String → Wish
  | [] => .run options
  | argument :: rest =>
    match (Argument.ofText argument).misuse? options with
    | some mistake => .misuse mistake
    | none =>
      match Argument.ofText argument with
      | .doubleDash => .run { options with payloads := options.payloads ++ rest }
      | .plain => readFrom { options with payloads := options.payloads ++ [argument] } rest
      | .short c => if c = 'h' then .help else .version
      | .long name attached =>
        match Flag.ofName name with
        | some .help => .help
        | some .quiet =>
          match options.withQuiet with
          | .ok options => readFrom options rest
          | .error mistake => .misuse mistake
        | some .concurrency =>
          match attached, rest with
          | some value, rest =>
            match options.withConcurrency value with
            | .ok options => readFrom options rest
            | .error mistake => .misuse mistake
          | none, [] => .misuse .missingValue
          | none, value :: rest =>
            match Argument.ofText value with
            | .plain =>
              match options.withConcurrency value with
              | .ok options => readFrom options rest
              | .error mistake => .misuse (lateMisuse options mistake rest)
            | next => .misuse ((next.misuse? options).getD .missingValue)
        | _ => .version

def Wish.read (arguments : List String) : Wish := readFrom Options.empty arguments

/-! ## Texts -/

def usageText : String := "Usage: relay [OPTIONS] [PAYLOADS]..."

def versionText : String := "relay 0.1.0"

def helpLines : List String :=
  ["Run event payloads through the link proxy under the start-to-close timeout and retry policy. " ++
      "Prints",
    "one JSON run report per line",
    "",
    usageText,
    "",
    "Arguments:",
    "  [PAYLOADS]...  Payload files, one event per file. Reads a single payload from stdin when " ++
      "none are",
    "                 given",
    "",
    "Options:",
    "      --concurrency <CONCURRENCY>  Concurrent runs (overrides WORKER_CONCURRENCY)",
    "      --quiet                      Log each report instead of printing it as JSON",
    "  -h, --help                       Print help",
    "  -V, --version                    Print version"]

/-- The usage that is shown for a mistake after some options or with an option that was meant. -/
def usageAfter (given : Bool) (similar : Option Flag) : String :=
  let group := "<PAYLOADS|--concurrency <CONCURRENCY>|--quiet>"
  match similar, given with
  | none, false => usageText
  | none, true => "Usage: relay " ++ group
  | some .help, false => "Usage: relay --help [PAYLOADS]..."
  | some .version, false => "Usage: relay --version [PAYLOADS]..."
  | some .help, true => "Usage: relay --help " ++ group
  | some .version, true => "Usage: relay --version " ++ group
  | some _, _ => "Usage: relay " ++ group

namespace Misuse

def problem : Misuse → String
  | .unknown argument _ _ => "unexpected argument '" ++ argument ++ "' found"
  | .missingValue =>
    "a value is required for '" ++ Flag.shown .concurrency ++ "' but none was supplied"
  | .badValue value defect =>
    "invalid value '" ++ value ++ "' for '" ++ Flag.shown .concurrency ++ "': " ++ defect.message
  | .repeated flag => "the argument '" ++ flag.shown ++ "' cannot be used multiple times"
  | .needlessValue value flag _ =>
    "unexpected value '" ++ value ++ "' for '" ++ flag.shown ++ "' found; no more were expected"

/-- Paragraphs between the problem and the last one. -/
def advice : Misuse → List String
  | .unknown argument none given =>
    ["  tip: to pass '" ++ argument ++ "' as a value, use '-- " ++ argument ++ "'",
      usageAfter given none]
  | .unknown _ (some flag) given =>
    ["  tip: a similar argument exists: '--" ++ flag.name ++ "'", usageAfter given (some flag)]
  | .missingValue | .badValue _ _ => []
  | .repeated _ => [usageText]
  | .needlessValue _ _ given => [usageAfter given none]

def text (misuse : Misuse) : String :=
  "\n\n".intercalate
    (("error: " ++ misuse.problem) :: misuse.advice ++ ["For more information, try '--help'.\n"])

end Misuse

end Command

end Courier
