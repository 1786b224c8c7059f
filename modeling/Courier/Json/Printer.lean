import Courier.Binary64.Notation
import Courier.Json.Value
import Courier.Text.Utf8

/-!
# JSON text

The compact text of a value: no white space outside strings, members as they stand.  Strings escape
the quotation mark, the reverse solidus and the control characters below U+0020, with short escapes
where there are any.
-/

namespace Courier

namespace Json

/-- A hexadecimal digit in lower case. -/
def hexDigit (n : Nat) : Char := Nat.digitChar (n % 16)

def escapeChar (c : Char) : List Char :=
  if c = '"' then ['\\', '"']
  else if c = '\\' then ['\\', '\\']
  else if c = '\n' then ['\\', 'n']
  else if c = '\r' then ['\\', 'r']
  else if c = '\t' then ['\\', 't']
  else if c.toNat = 8 then ['\\', 'b']
  else if c.toNat = 12 then ['\\', 'f']
  else if c.toNat < 32 then ['\\', 'u', '0', '0', hexDigit (c.toNat / 16), hexDigit c.toNat]
  else [c]

def stringChars (s : String) : List Char := '"' :: s.toList.flatMap escapeChar ++ ['"']

def Number.chars : Number → List Char
  | .integer (.ofNat n) => Nat.toDigits 10 n
  | .integer (.negSucc n) => '-' :: Nat.toDigits 10 (n + 1)
  | .real negative m => if negative then '-' :: m.scientific else m.scientific

mutual

def chars : Json → List Char
  | .null => "null".toList
  | .bool true => "true".toList
  | .bool false => "false".toList
  | .number n => n.chars
  | .string s => stringChars s
  | .array [] => ['[', ']']
  | .array (item :: rest) => '[' :: item.chars ++ itemChars rest
  | .object [] => ['{', '}']
  | .object ((key, value) :: rest) =>
    '{' :: stringChars key ++ ':' :: value.chars ++ memberChars rest

/-- The items after the first one, and the closing bracket. -/
def itemChars : List Json → List Char
  | [] => [']']
  | item :: rest => ',' :: item.chars ++ itemChars rest

/-- The members after the first one, and the closing brace. -/
def memberChars : List Member → List Char
  | [] => ['}']
  | (key, value) :: rest => ',' :: stringChars key ++ ':' :: value.chars ++ memberChars rest

end

def text (value : Json) : String := String.ofList value.chars

def bytes (value : Json) : Bytes := Utf8.encodeChars value.chars

end Json

end Courier
