import Courier.Http.Url.Domain
import Courier.Text.Percent

/-!
# Hosts of addresses

A host is a name, an IPv4 number or an IPv6 address in brackets.  A name whose last label is a number
has to be an IPv4 number, whose parts may be decimal, octal or hexadecimal and whose last part fills
all places that the others leave.
-/

namespace Courier

inductive Host where
  | name (chars : List Char)
  | four (address : Nat)
  | six (groups : List Nat)
  deriving DecidableEq

namespace Host

/-- Why a text is no host. -/
inductive Defect where
  | empty
  | name
  | four
  | six
  | opaqueName
  deriving DecidableEq

def digitValue? (base : Nat) (c : Char) : Option Nat :=
  let n := c.toNat
  let value :=
    if 48 ≤ n ∧ n ≤ 57 then n - 48
    else if 65 ≤ n ∧ n ≤ 70 then n - 55
    else if 97 ≤ n ∧ n ≤ 102 then n - 87
    else 16
  if value < base then some value else none

/-- The value of digits in a base; no digits are zero. -/
def readDigits (base : Nat) (digits : List Char) : Option Nat :=
  digits.foldlM (fun n c ↦ (digitValue? base c).map (n * base + ·)) 0

/-! ## IPv4 -/

/-- One part of an IPv4 number. -/
def readPart : List Char → Option Nat
  | [] => none
  | '0' :: 'x' :: digits => readDigits 16 digits
  | '0' :: 'X' :: digits => readDigits 16 digits
  | '0' :: c :: digits => readDigits 8 (c :: digits)
  | digits => readDigits 10 digits

/-- The parts of a name; a final dot does not count. -/
def parts (name : List Char) : List (List Char) :=
  match (Text.pieces (· = '.') name).reverse with
  | [] :: last :: others => (last :: others).reverse
  | all => all.reverse

def endsInNumber (name : List Char) : Bool :=
  match (parts name).getLast? with
  | none | some [] => false
  | some last => last.all Char.isDigit || (readPart last).isSome

/-- The number that the parts stand for: all but the last are bytes. -/
def joinParts (leading : List Nat) (last : Nat) : Option Nat :=
  if leading.length ≤ 3 ∧ last < Nat.pow 256 (4 - leading.length) ∧ leading.all (· < 256) then
    some (leading.foldl (fun n b ↦ n * 256 + b) 0 * Nat.pow 256 (4 - leading.length) + last)
  else none

def readFour (name : List Char) : Option Nat := do
  let numbers ← (parts name).mapM readPart
  let last ← numbers.getLast?
  joinParts numbers.dropLast last

def fourText (address : Nat) : List Char :=
  let byte (place : Nat) : List Char := Nat.toDigits 10 (address / Nat.pow 256 place % 256)
  byte 3 ++ '.' :: byte 2 ++ '.' :: byte 1 ++ '.' :: byte 0

/-! ## IPv6 -/

/-- One group of an IPv6 address. -/
def readGroup (digits : List Char) : Option Nat :=
  if digits.isEmpty ∨ 4 < digits.length then none else readDigits 16 digits

/-- One decimal byte without needless zeros. -/
def readByte : List Char → Option Nat
  | [] => none
  | '0' :: _ :: _ => none
  | digits => (readDigits 10 digits).filter (· < 256)

/-- Groups between single colons, the last of which may be a dotted IPv4 number. -/
def readGroups : List (List Char) → Option (List Nat)
  | [] => some []
  | [last] =>
    if last.contains '.' then
      match (Text.pieces (· = '.') last).mapM readByte with
      | some [a, b, c, d] => some [a * 256 + b, c * 256 + d]
      | _ => none
    else (readGroup last).map ([·])
  | group :: rest => do
    let value ← readGroup group
    let values ← readGroups rest
    some (value :: values)

/-- The texts before and after the first double colon. -/
def cutDouble : List Char → Option (List Char × List Char)
  | ':' :: ':' :: rest => some ([], rest)
  | c :: rest => (cutDouble rest).map fun (before, after) ↦ (c :: before, after)
  | [] => none

def readSide (side : List Char) : Option (List Nat) :=
  if side.isEmpty then some [] else readGroups (Text.pieces (· = ':') side)

/-- Eight groups, or fewer with a double colon for a run of zeros. -/
def readSix (cs : List Char) : Option (List Nat) :=
  match cutDouble cs with
  | none => (readGroups (Text.pieces (· = ':') cs)).filter (·.length = 8)
  | some (before, after) => do
    let left ← if before.contains '.' then none else readSide before
    let right ← readSide after
    if left.length + right.length ≤ 7 then
      some (left ++ List.replicate (8 - left.length - right.length) 0 ++ right)
    else none

/-- The length of the run of zeros at the start. -/
def zeros (groups : List Nat) : Nat := (groups.takeWhile (· = 0)).length

/-- The start and length of the first longest run of zeros. -/
def longestRun : List Nat → Nat × Nat
  | [] => (0, 0)
  | group :: rest =>
    let (start, length) := longestRun rest
    let here := zeros (group :: rest)
    if length ≤ here then (0, here) else (start + 1, length)

def groupsText (groups : List Nat) : List Char :=
  (groups.map (Nat.toDigits 16)).intersperse [':'] |>.flatten

def sixText (groups : List Nat) : List Char :=
  let (start, length) := longestRun groups
  if length < 2 then groupsText groups
  else groupsText (groups.take start) ++ ':' :: ':' :: groupsText (groups.drop (start + length))

/-! ## Hosts -/

/-- The name that the bytes spell, in ASCII. -/
def readName (bytes : Bytes) : Option (List Char) := do Domain.toAscii (← Utf8.decodeChars? bytes)

/-- The host of an address that has to have one. -/
def read (cs : List Char) : Except Defect Host :=
  match cs with
  | [] => .error .empty
  | '[' :: rest =>
    if rest.getLast? = some ']' then
      match readSix rest.dropLast with
      | some groups => .ok (.six groups)
      | none => .error .six
    else .error .six
  | cs =>
    match readName (Percent.decode (Utf8.encodeChars cs)) with
    | none => .error .name
    | some [] => .error .empty
    | some chars =>
      if endsInNumber chars then
        match readFour chars with
        | some address => .ok (.four address)
        | none => .error .four
      else .ok (.name chars)

/-- The host of an address of a foreign scheme: a name is taken as it is. -/
def readOpaque (cs : List Char) : Except Defect Host :=
  match cs with
  | '[' :: _ => read cs
  | cs =>
    if cs.any (fun c ↦ c = '\x00' || " #/:<>?@[\\]^|".toList.contains c) then .error .opaqueName
    else .ok (.name (Percent.encode (fun c ↦ 0x20 ≤ c.toNat && c.toNat < 0x7F) cs))

def text : Host → List Char
  | .name chars => chars
  | .four address => fourText address
  | .six groups => '[' :: sixText groups ++ [']']

end Host

end Courier
