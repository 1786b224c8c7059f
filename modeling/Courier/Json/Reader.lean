import Courier.Binary64.Arithmetic
import Courier.Json.Fault
import Courier.Text.Numeral

/-!
# Reading JSON text

Readers take the bytes ahead and answer what they read with the bytes after it, or a fault.  The
parts of a text come first (white space, words, strings, numbers), then the two loops over list items
and object members, which are open in the reader of a single item, and last the reader of a whole
value with its limit on nesting.

A number with a fraction or an exponent is read as a 64-bit whole number, from which digits that no
longer fit are dropped, and one multiplication or division by a power of ten; both round, so the
result need not be the nearest binary64 value.
-/

namespace Courier

namespace Json

/-- Answers a value and the bytes after it. -/
abbrev Reader (α : Type) := Bytes → Except Fault (α × Bytes)

namespace Reader

def isSpace (b : UInt8) : Bool := b == 32 || b == 10 || b == 9 || b == 13

def skipSpace (s : Bytes) : Bytes := s.dropWhile isSpace

def isDigit (b : UInt8) : Bool := 48 ≤ b && b ≤ 57

def digitValue (b : UInt8) : Nat := b.toNat - 48

/-- The given bytes and nothing else. -/
def word : Bytes → Bytes → Except Fault Bytes
  | [], s => .ok s
  | _ :: _, [] => faultAt .endInValue []
  | c :: cs, b :: s => if b = c then word cs s else faultAt .expectedIdent s

/-! ## Strings -/

def hexValue (b : UInt8) : Option Nat :=
  let n := b.toNat
  if 48 ≤ n ∧ n ≤ 57 then some (n - 48)
  else if 65 ≤ n ∧ n ≤ 70 then some (n - 55)
  else if 97 ≤ n ∧ n ≤ 102 then some (n - 87)
  else none

/-- Four hexadecimal digits. -/
def hexFour : Reader Nat
  | a :: b :: c :: d :: s =>
    match hexValue a, hexValue b, hexValue c, hexValue d with
    | some a, some b, some c, some d => .ok (((a * 16 + b) * 16 + c) * 16 + d, s)
    | _, _, _, _ => faultAt .invalidEscape s
  | _ => faultAt .endInString []

/-- The byte that has to follow the first half of a surrogate pair. -/
def surrogateMark (mark : UInt8) : Bytes → Except Fault Bytes
  | [] => faultAt .endInString []
  | b :: s => if b = mark then .ok s else faultAt .unfinishedSurrogate s

/-- The character of a `\u` escape; two escapes form a surrogate pair. -/
def unicodeEscape : Reader Char := fun s ↦ do
  let (n, s) ← hexFour s
  if 0xDC00 ≤ n ∧ n ≤ 0xDFFF then faultAt .loneSurrogate s
  else if n < 0xD800 ∨ 0xDBFF < n then .ok (Char.ofNat n, s)
  else
    let s ← surrogateMark 92 s
    let s ← surrogateMark 117 s
    let (m, s) ← hexFour s
    if m < 0xDC00 ∨ 0xDFFF < m then faultAt .loneSurrogate s
    else .ok (Char.ofNat (0x10000 + (n - 0xD800) * 1024 + (m - 0xDC00)), s)

/-- The bytes that the escape after a reverse solidus stands for. -/
def escape : Reader Bytes
  | [] => faultAt .endInString []
  | b :: s =>
    match Char.ofNat b.toNat with
    | '"' => .ok ([34], s)
    | '\\' => .ok ([92], s)
    | '/' => .ok ([47], s)
    | 'b' => .ok ([8], s)
    | 'f' => .ok ([12], s)
    | 'n' => .ok ([10], s)
    | 'r' => .ok ([13], s)
    | 't' => .ok ([9], s)
    | 'u' => (unicodeEscape s).map fun (c, s) ↦ (Utf8.encodeChar c, s)
    | _ => faultAt .invalidEscape s

/-- The bytes up to the closing quotation mark, escapes resolved.  Every step takes at least one
byte, so the number of bytes is fuel enough. -/
def stringBytes : Nat → Reader Bytes
  | 0, s => faultAt .endInString s
  | _ + 1, [] => faultAt .endInString []
  | fuel + 1, b :: s =>
    if b = 34 then .ok ([], s)
    else if b = 92 then do
      let (meant, s) ← escape s
      let (more, s) ← stringBytes fuel s
      .ok (meant ++ more, s)
    else if b < 32 then faultAt .controlCharacter s
    else do
      let (more, s) ← stringBytes fuel s
      .ok (b :: more, s)

/-- The text after an opening quotation mark.  Bytes that are no UTF-8 are a fault, which stands as
far before the end of the string as the first malformed sequence does in what the string means. -/
def stringBody : Reader String := fun s ↦ do
  let (bytes, rest) ← stringBytes s.length s
  match Utf8.decode? bytes with
  | some text => .ok (text, rest)
  | none =>
    .error ⟨.invalidCodePoint, .placed (rest.length + bytes.length - (Utf8.sound bytes).length)⟩

/-! ## Numbers -/

/-- The greatest 64-bit whole number. -/
def greatestWord : Nat := Numeral.greatest 64

/-- `10 ^ n`, rounded. -/
def powerOfTen (n : Nat) : Binary64 := Binary64.ofNat (Nat.pow 10 n)

/-- Scales by a power of ten, in steps of 308 for small values; `none` is too large a value. -/
def scaleTen : Nat → Binary64 → Int → Option Binary64
  | 0, value, _ => some value
  | fuel + 1, value, exponent =>
    if exponent.natAbs ≤ 308 then
      if 0 ≤ exponent then
        let product := value.mul (powerOfTen exponent.natAbs)
        if product.isFinite then some product else none
      else some (value.div (powerOfTen exponent.natAbs))
    else if value = Binary64.ofNat 0 then some value
    else if 0 ≤ exponent then none
    else scaleTen fuel (value.div (powerOfTen 308)) (exponent + 308)

/-- The number `significand * 10 ^ exponent` with a sign. -/
def scaled (negative : Bool) (significand : Nat) (exponent : Int) : Reader Number := fun s ↦
  match scaleTen (exponent.natAbs / 308 + 1) (Binary64.ofNat significand) exponent with
  | some (.finite _ m) => .ok (.real negative m, s)
  | _ => faultAt .numberOutOfRange s

/-- Digits of an exponent after the value `soFar`, below `2 ^ 31`; `none` when there are too many,
with the bytes after the digit that overflows. -/
def exponentDigits : Nat → Bytes → Option Nat × Bytes
  | soFar, [] => (some soFar, [])
  | soFar, b :: s =>
    if isDigit b then
      let value := soFar * 10 + digitValue b
      if value ≤ Numeral.greatest 31 then exponentDigits value s else (none, s)
    else (some soFar, b :: s)

/-- The exponent after its letter.  An exponent past every bound gives zero when it is negative or
nothing is scaled, and a number out of range otherwise. -/
def exponentPart (negative : Bool) (significand : Nat) (start : Int) : Reader Number := fun s ↦
  let (positive, s) := match s with
    | 43 :: s => (true, s)
    | 45 :: s => (false, s)
    | s => (true, s)
  match s with
  | [] => faultAt .endInValue []
  | b :: s =>
    if isDigit b then
      match exponentDigits (digitValue b) s with
      | (some n, s) => scaled negative significand (if positive then start + n else start - n) s
      | (none, s) =>
        if significand ≠ 0 ∧ positive then faultAt .numberOutOfRange s
        else .ok (.real negative Magnitude.zero, s.dropWhile isDigit)
    else faultAt .invalidNumber s

/-- After the digits of a fraction: an exponent or the end. -/
def afterFraction (negative : Bool) (significand : Nat) (exponent : Int) : Reader Number
  | 101 :: s | 69 :: s => exponentPart negative significand exponent s
  | s => scaled negative significand exponent s

/-- Digits of a fraction; `read` tells whether one came before.  From the first digit that no longer
fits, digits are dropped. -/
def fractionDigits (negative : Bool) (read : Bool) : Nat → Int → Reader Number
  | significand, exponent, [] =>
    if read then scaled negative significand exponent [] else faultNext .endInValue []
  | significand, exponent, b :: s =>
    if isDigit b then
      let value := significand * 10 + digitValue b
      if value ≤ greatestWord then fractionDigits negative true value (exponent - 1) s
      else afterFraction negative significand exponent (s.dropWhile isDigit)
    else if read then afterFraction negative significand exponent (b :: s)
    else faultNext .invalidNumber (b :: s)

/-- Whole digits that no longer fit: each raises the exponent. -/
def droppedDigits (negative : Bool) (significand : Nat) : Int → Reader Number
  | exponent, [] => scaled negative significand exponent []
  | exponent, b :: s =>
    if isDigit b then droppedDigits negative significand (exponent + 1) s
    else if b = 46 then fractionDigits negative false significand exponent s
    else afterFraction negative significand exponent (b :: s)

/-- After whole digits that fit: a fraction, an exponent, or an integer.  A negative integer below
`-2 ^ 63` and minus zero become binary64 values. -/
def afterDigits (negative : Bool) (significand : Nat) : Reader Number
  | 46 :: s => fractionDigits negative false significand 0 s
  | 101 :: s | 69 :: s => exponentPart negative significand 0 s
  | s =>
    if negative then
      if significand = 0 ∨ greatestWord / 2 + 1 < significand then scaled true significand 0 s
      else .ok (.integer (-significand), s)
    else .ok (.integer significand, s)

def wholeDigits (negative : Bool) : Nat → Reader Number
  | significand, [] => afterDigits negative significand []
  | significand, b :: s =>
    if isDigit b then
      let value := significand * 10 + digitValue b
      if value ≤ greatestWord then wholeDigits negative value s
      else droppedDigits negative significand 0 (b :: s)
    else afterDigits negative significand (b :: s)

/-- A number after its sign.  A leading zero stands alone. -/
def number (negative : Bool) : Reader Number
  | [] => faultAt .endInValue []
  | b :: s =>
    if b = 48 then
      match s with
      | [] => afterDigits negative 0 []
      | d :: s =>
        if isDigit d then faultNext .invalidNumber (d :: s) else afterDigits negative 0 (d :: s)
    else if isDigit b then wholeDigits negative (digitValue b) s
    else faultAt .invalidNumber s

/-! ## Lists and objects -/

/-- Whether another item follows, with the bytes it starts at; else the closing bracket is next. -/
def nextItem (first : Bool) (s : Bytes) : Except Fault (Bool × Bytes) :=
  match skipSpace s with
  | [] => faultNext .endInList []
  | b :: s =>
    if b = 93 then .ok (false, b :: s)
    else if first then .ok (true, b :: s)
    else if b = 44 then
      match skipSpace s with
      | [] => faultNext .endInValue []
      | c :: s => if c = 93 then faultNext .trailingComma (c :: s) else .ok (true, c :: s)
    else faultNext .expectedCommaOrBracket (b :: s)

/-- Whether another member follows, with the bytes after the opening quotation mark of its key; else
the closing brace is next. -/
def nextMember (first : Bool) (s : Bytes) : Except Fault (Bool × Bytes) :=
  let key (s : Bytes) : Except Fault (Bool × Bytes) :=
    match s with
    | [] => faultNext .endInValue []
    | b :: s =>
      if b = 34 then .ok (true, s)
      else if b = 125 then faultNext .trailingComma (b :: s)
      else faultNext .keyNotString (b :: s)
  match skipSpace s with
  | [] => faultNext .endInObject []
  | b :: s =>
    if b = 125 then .ok (false, b :: s)
    else if first then key (b :: s)
    else if b = 44 then key (skipSpace s)
    else faultNext .expectedCommaOrBrace (b :: s)

/-- The colon between a key and its value. -/
def colon (s : Bytes) : Except Fault Bytes :=
  match skipSpace s with
  | [] => faultNext .endInObject []
  | b :: s => if b = 58 then .ok s else faultNext .expectedColon (b :: s)

/-- The end of a list whose last item has been read. -/
def closeList (s : Bytes) : Except Fault Bytes :=
  match skipSpace s with
  | [] => faultNext .endInList []
  | b :: s =>
    if b = 93 then .ok s
    else if b = 44 then
      match skipSpace s with
      | 93 :: s => faultNext .trailingComma (93 :: s)
      | s => faultNext .trailingCharacters s
    else faultNext .trailingCharacters (b :: s)

/-- The end of an object whose last member has been read. -/
def closeObject (s : Bytes) : Except Fault Bytes :=
  match skipSpace s with
  | [] => faultNext .endInObject []
  | b :: s =>
    if b = 125 then .ok s
    else if b = 44 then faultNext .trailingComma (b :: s)
    else faultNext .trailingCharacters (b :: s)

/-- The items up to the closing bracket, which is left. -/
def items {α : Type} (item : Reader α) : Nat → Bool → Reader (List α)
  | 0, _, s => .ok ([], s)
  | fuel + 1, first, s => do
    let (more, s) ← nextItem first s
    if more then
      let (a, s) ← item s
      let (rest, s) ← items item fuel false s
      .ok (a :: rest, s)
    else .ok ([], s)

/-- The members up to the closing brace, which is left. -/
def members (value : Reader Json) : Nat → Bool → Reader (List Member)
  | 0, _, s => .ok ([], s)
  | fuel + 1, first, s => do
    let (more, s) ← nextMember first s
    if more then
      let (key, s) ← stringBody s
      let s ← colon s
      let (v, s) ← value s
      let (rest, s) ← members value fuel false s
      .ok ((key, v) :: rest, s)
    else .ok ([], s)

/-! ## Values -/

/-- Containers that a text may open inside each other. -/
def nesting : Nat := 127

/-- A value with at most `room` containers inside each other. -/
def value : Nat → Reader Json
  | 0, s => scalar s
  | room + 1, s =>
    match skipSpace s with
    | 91 :: s => do
      let (found, s) ← items (value room) (s.length + 1) true s
      .ok (.array found, ← closeList s)
    | 123 :: s => do
      let (found, s) ← members (value room) (s.length + 1) true s
      .ok (.object found, ← closeObject s)
    | s => scalar s
where
  /-- A value that is no container. -/
  scalar (s : Bytes) : Except Fault (Json × Bytes) :=
    match skipSpace s with
    | [] => faultNext .endInValue []
    | b :: s =>
      match Char.ofNat b.toNat with
      | 'n' => (word (Utf8.encode "ull") s).map fun s ↦ (.null, s)
      | 't' => (word (Utf8.encode "rue") s).map fun s ↦ (.bool true, s)
      | 'f' => (word (Utf8.encode "alse") s).map fun s ↦ (.bool false, s)
      | '-' => (number true s).map fun (n, s) ↦ (.number n, s)
      | '"' => (stringBody s).map fun (t, s) ↦ (.string t, s)
      | '[' | '\x7b' => faultNext .tooDeep (b :: s)
      | _ =>
        if isDigit b then (number false (b :: s)).map fun (n, s) ↦ (.number n, s)
        else faultNext .expectedValue (b :: s)

/-- Only white space may be left. -/
def finish (s : Bytes) : Except Fault Unit :=
  match skipSpace s with
  | [] => .ok ()
  | s => faultNext .trailingCharacters s

end Reader

open Reader in
/-- A whole text with one value. -/
def read (source : Bytes) : Except Fault Json := do
  let (v, rest) ← value nesting source
  finish rest
  .ok v

end Json

end Courier
