import Courier.Time.Timestamp
import Courier.Text.Utf8

/-!
# ULIDs

A ULID is a 128-bit number whose upper 48 bits are a time in milliseconds.  Its text has 26 digits of
Crockford's base 32; reading takes either case and drops bits above the 128.
-/

namespace Courier

structure Ulid where
  value : BitVec 128
  deriving DecidableEq

namespace Ulid

instance : LT Ulid := ⟨fun a b ↦ a.value < b.value⟩

instance : LE Ulid := ⟨fun a b ↦ a.value ≤ b.value⟩

instance (a b : Ulid) : Decidable (a < b) := inferInstanceAs (Decidable (a.value < b.value))

instance (a b : Ulid) : Decidable (a ≤ b) := inferInstanceAs (Decidable (a.value ≤ b.value))

def ofNat (n : Nat) : Ulid := ⟨BitVec.ofNat 128 n⟩

/-- The number of values of the lower 80 bits. -/
def randomRange : Nat := Nat.pow 2 80

/-- The low 48 bits of the time over 80 further bits. -/
def ofParts (millis bits : Nat) : Ulid :=
  ofNat (millis % Nat.pow 2 48 * randomRange + bits % randomRange)

/-- Milliseconds in the upper 48 bits. -/
def millis (u : Ulid) : Nat := u.value.toNat / randomRange

/-- A new ULID at a time, given its 80 random bits; times before 1970 count as 1970. -/
def mint (now : Timestamp) (bits : Nat) : Ulid := ofParts now.unixMillis.toNat bits

def alphabet : List Char := "0123456789ABCDEFGHJKMNPQRSTVWXYZ".toList

def digitChar (n : Nat) : Char := alphabet.getD n '0'

/-- `count` base-32 digits, the most significant first. -/
def digits : Nat → Nat → List Char
  | 0, _ => []
  | count + 1, n => digits count (n / 32) ++ [digitChar (n % 32)]

def chars (u : Ulid) : List Char := digits 26 u.value.toNat

def text (u : Ulid) : String := String.ofList u.chars

/-- Why a text is no ULID. -/
inductive Defect where
  | invalidLength
  | invalidCharacter
  deriving DecidableEq

def Defect.message : Defect → String
  | .invalidLength => "invalid length"
  | .invalidCharacter => "invalid character"

def digitValue? (c : Char) : Option Nat := alphabet.findIdx? (· == c.toUpper)

/-- Base-32 digits after the value `soFar`. -/
def readDigits : Nat → List Char → Except Defect Nat
  | soFar, [] => .ok soFar
  | soFar, c :: rest =>
    match digitValue? c with
    | some d => readDigits (soFar * 32 + d) rest
    | none => .error .invalidCharacter

def read (s : String) : Except Defect Ulid :=
  if (Utf8.encode s).length ≠ 26 then .error .invalidLength
  else (readDigits 0 s.toList).map ofNat

end Ulid

/-- What an identifier names. -/
inductive Subject where
  | run
  | attempt
  deriving DecidableEq

/-- An identifier of a run or of an attempt; those of different subjects cannot be mixed up. -/
structure Id (subject : Subject) where
  ulid : Ulid
  deriving DecidableEq

abbrev RunId := Id .run

abbrev AttemptId := Id .attempt

namespace Id

variable {subject : Subject}

instance : LT (Id subject) := ⟨fun a b ↦ a.ulid < b.ulid⟩

instance (a b : Id subject) : Decidable (a < b) := inferInstanceAs (Decidable (a.ulid < b.ulid))

/-- A new identifier at a time, given its 80 random bits. -/
def mint (now : Timestamp) (bits : Nat) : Id subject := ⟨Ulid.mint now bits⟩

end Id

/-- The ULID after the name of its subject. -/
def Id.text {subject : Subject} (id : Id subject) : String :=
  (match subject with
    | .run => "run-"
    | .attempt => "attempt-") ++ id.ulid.text

end Courier
