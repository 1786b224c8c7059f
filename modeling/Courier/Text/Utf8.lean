/-!
# UTF-8

`Utf8.encode` writes text as bytes.  Reading is a single left-to-right scan that yields one
character for every well-formed sequence and one gap for every maximal malformed one: a byte that
cannot continue the open sequence closes it as malformed and is looked at afresh.  Strict decoding
refuses a gap, lossy decoding shows it as U+FFFD.
-/

namespace Courier

/-- A byte string. -/
abbrev Bytes := List UInt8

namespace Utf8

/-- The bytes of one character. -/
def encodeChar (c : Char) : Bytes :=
  let n := c.toNat
  if n < 0x80 then [UInt8.ofNat n]
  else if n < 0x800 then [UInt8.ofNat (0xC0 + n / 64), UInt8.ofNat (0x80 + n % 64)]
  else if n < 0x10000 then
    [UInt8.ofNat (0xE0 + n / 4096), UInt8.ofNat (0x80 + n / 64 % 64), UInt8.ofNat (0x80 + n % 64)]
  else
    [UInt8.ofNat (0xF0 + n / 262144), UInt8.ofNat (0x80 + n / 4096 % 64),
      UInt8.ofNat (0x80 + n / 64 % 64), UInt8.ofNat (0x80 + n % 64)]

def encodeChars (cs : List Char) : Bytes := cs.flatMap encodeChar

def encode (s : String) : Bytes := encodeChars s.toList

/-- An open sequence: the continuation bytes still owed, the bits read so far, and the range of the
next byte. -/
structure Pending where
  owed : Nat
  bits : Nat
  low : Nat
  high : Nat

/-- What a first byte begins. -/
inductive Start where
  | char (c : Char)
  | open (pending : Pending)
  | malformed

/-- Ranges that would spell a surrogate, a number past U+10FFFF or a needlessly long form are shut
out by the range of the second byte. -/
def start (b : Nat) : Start :=
  if b < 0x80 then .char (Char.ofNat b)
  else if b < 0xC2 then .malformed
  else if b < 0xE0 then .open ⟨1, b - 0xC0, 0x80, 0xBF⟩
  else if b < 0xF0 then
    .open ⟨2, b - 0xE0, if b = 0xE0 then 0xA0 else 0x80, if b = 0xED then 0x9F else 0xBF⟩
  else if b < 0xF5 then
    .open ⟨3, b - 0xF0, if b = 0xF0 then 0x90 else 0x80, if b = 0xF4 then 0x8F else 0xBF⟩
  else .malformed

/-- Characters and gaps, from a state between sequences (`none`) or inside one. -/
def scan : Option Pending → Bytes → List (Option Char)
  | none, [] => []
  | some _, [] => [none]
  | none, b :: rest =>
    match start b.toNat with
    | .char c => some c :: scan none rest
    | .open p => scan (some p) rest
    | .malformed => none :: scan none rest
  | some p, b :: rest =>
    if p.low ≤ b.toNat ∧ b.toNat ≤ p.high then
      let bits := p.bits * 64 + (b.toNat - 0x80)
      if p.owed = 1 then some (Char.ofNat bits) :: scan none rest
      else scan (some ⟨p.owed - 1, bits, 0x80, 0xBF⟩) rest
    else
      match start b.toNat with
      | .char c => none :: some c :: scan none rest
      | .open p => none :: scan (some p) rest
      | .malformed => none :: none :: scan none rest

/-- The characters of well-formed bytes. -/
def decodeChars? (bytes : Bytes) : Option (List Char) := (scan none bytes).mapM id

def decode? (bytes : Bytes) : Option String := (decodeChars? bytes).map String.ofList

/-- The well-formed bytes before the first gap. -/
def sound (bytes : Bytes) : Bytes :=
  encodeChars (((scan none bytes).takeWhile Option.isSome).filterMap id)

/-- The characters of any bytes, with U+FFFD for each gap. -/
def lossyChars (bytes : Bytes) : List Char :=
  (scan none bytes).map fun c ↦ c.getD (Char.ofNat 0xFFFD)

def lossy (bytes : Bytes) : String := String.ofList (lossyChars bytes)

end Utf8

end Courier
