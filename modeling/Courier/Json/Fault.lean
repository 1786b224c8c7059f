import Courier.Json.Printer
import Courier.Text.Visible

/-!
# Faults of JSON texts

A fault is a cause and a site.  Readers know a site by the bytes that still lie ahead of it; only
the report of a fault turns that into a line and a column.  A fault of meaning, such as a missing
field, may have no site of its own yet: it then carries the text ahead, and the container in which it
arose gives it one.
-/

namespace Courier

namespace Json

/-- A value that stands where another kind was expected. -/
inductive Found where
  | null
  | bool (value : Bool)
  | integer (value : Int)
  | real (negative : Bool) (magnitude : Magnitude)
  | string (value : String)
  | sequence
  | map
  deriving DecidableEq

inductive Cause where
  | endInValue
  | endInString
  | endInList
  | endInObject
  | expectedColon
  | expectedCommaOrBracket
  | expectedCommaOrBrace
  | expectedIdent
  | expectedValue
  | invalidEscape
  | invalidNumber
  | numberOutOfRange
  | invalidCodePoint
  | controlCharacter
  | keyNotString
  | loneSurrogate
  | trailingComma
  | trailingCharacters
  | unfinishedSurrogate
  | tooDeep
  | wrongType (found : Found) (expected : String)
  | wrongValue (found : Found) (expected : String)
  | wrongLength (length : Nat) (expected : String)
  | unknownVariant (name : String) (variants : List String)
  | missingField (name : String)
  | duplicateField (name : String)
  | other (message : String)
  deriving DecidableEq

/-- Where a fault is: `placed` by the number of bytes ahead, or still `floating` before a text. -/
inductive Site where
  | placed (ahead : Nat)
  | floating (rest : Bytes)

structure Fault where
  cause : Cause
  site : Site

namespace Found

/-- A text between quotation marks as it is shown in messages. -/
def quoteChar (c : Char) : List Char :=
  if c = '"' then ['\\', '"']
  else if c = '\\' then ['\\', '\\']
  else if c = '\n' then ['\\', 'n']
  else if c = '\r' then ['\\', 'r']
  else if c = '\t' then ['\\', 't']
  else if c.toNat = 0 then ['\\', '0']
  else if Text.isVisible c then [c]
  else ['\\', 'u', '\x7b'] ++ Nat.toDigits 16 c.toNat ++ ['\x7d']

def message : Found → String
  | .null => "null"
  | .bool true => "boolean `true`"
  | .bool false => "boolean `false`"
  | .integer n => "integer `" ++ String.ofList (Number.integer n).chars ++ "`"
  | .real negative m => "floating point `" ++ String.ofList (Number.real negative m).chars ++ "`"
  | .string s => "string \"" ++ String.ofList (s.toList.flatMap quoteChar) ++ "\""
  | .sequence => "sequence"
  | .map => "map"

end Found

namespace Cause

/-- Names between grave accents, joined as alternatives. -/
def alternatives : List String → String
  | [] => "there are no variants"
  | [a] => "expected `" ++ a ++ "`"
  | [a, b] => "expected `" ++ a ++ "` or `" ++ b ++ "`"
  | names => "expected one of " ++ String.intercalate ", " (names.map fun n ↦ "`" ++ n ++ "`")

def message : Cause → String
  | .endInValue => "EOF while parsing a value"
  | .endInString => "EOF while parsing a string"
  | .endInList => "EOF while parsing a list"
  | .endInObject => "EOF while parsing an object"
  | .expectedColon => "expected `:`"
  | .expectedCommaOrBracket => "expected `,` or `]`"
  | .expectedCommaOrBrace => "expected `,` or `\x7d`"
  | .expectedIdent => "expected ident"
  | .expectedValue => "expected value"
  | .invalidEscape => "invalid escape"
  | .invalidNumber => "invalid number"
  | .numberOutOfRange => "number out of range"
  | .invalidCodePoint => "invalid unicode code point"
  | .controlCharacter => "control character (\\u0000-\\u001F) found while parsing a string"
  | .keyNotString => "key must be a string"
  | .loneSurrogate => "lone leading surrogate in hex escape"
  | .trailingComma => "trailing comma"
  | .trailingCharacters => "trailing characters"
  | .unfinishedSurrogate => "unexpected end of hex escape"
  | .tooDeep => "recursion limit exceeded"
  | .wrongType found expected => "invalid type: " ++ found.message ++ ", expected " ++ expected
  | .wrongValue found expected => "invalid value: " ++ found.message ++ ", expected " ++ expected
  | .wrongLength length expected =>
    "invalid length " ++ toString length ++ ", expected " ++ expected
  | .unknownVariant name variants => "unknown variant `" ++ name ++ "`, " ++ alternatives variants
  | .missingField name => "missing field `" ++ name ++ "`"
  | .duplicateField name => "duplicate field `" ++ name ++ "`"
  | .other message => message

end Cause

/-- Line and column after the given bytes: lines count from one, and the column is the number of
bytes since the last line feed. -/
def position (bytes : Bytes) : Nat × Nat :=
  let next (place : Nat × Nat) (b : UInt8) : Nat × Nat :=
    if b = 10 then (place.1 + 1, 0) else (place.1, place.2 + 1)
  bytes.foldl next (1, 0)

/-- The fault as reported for the whole text. -/
def Fault.message (source : Bytes) (fault : Fault) : String :=
  match fault.site with
  | .floating _ => fault.cause.message
  | .placed ahead =>
    let (line, column) := position (source.take (source.length - ahead))
    fault.cause.message ++ " at line " ++ toString line ++ " column " ++ toString column

/-- A fault at the current place. -/
def faultAt {α : Type} (cause : Cause) (rest : Bytes) : Except Fault α :=
  .error ⟨cause, .placed rest.length⟩

/-- A fault at the byte that comes next, or at the end. -/
def faultNext {α : Type} (cause : Cause) (rest : Bytes) : Except Fault α :=
  .error ⟨cause, .placed (rest.length - 1)⟩

/-- A fault that has no site yet. -/
def faultHere {α : Type} (cause : Cause) (rest : Bytes) : Except Fault α :=
  .error ⟨cause, .floating rest⟩

/-- Gives a fault without a site the place that is left after `close`. -/
def Fault.settle (close : Bytes → Bytes) (fault : Fault) : Fault :=
  match fault.site with
  | .placed _ => fault
  | .floating rest => ⟨fault.cause, .placed (close rest).length⟩

end Json

end Courier
