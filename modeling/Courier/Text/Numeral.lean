/-!
# Decimal numerals

Reading a natural number with an upper limit.  A numeral is an optional plus sign and at least one
ASCII digit; the limit is watched from left to right, so a numeral that is both too large and
misspelt further on counts as too large.
-/

namespace Courier

namespace Numeral

/-- Why a text is no numeral. -/
inductive Defect where
  | empty
  | invalidDigit
  | tooLarge
  deriving DecidableEq

def Defect.message : Defect → String
  | .empty => "cannot parse integer from empty string"
  | .invalidDigit => "invalid digit found in string"
  | .tooLarge => "number too large to fit in target type"

/-- The greatest number of so many bits. -/
def greatest (bits : Nat) : Nat := Nat.pow 2 bits - 1

/-- Reads digits after the value `soFar`. -/
def readDigits (limit : Nat) : Nat → List Char → Except Defect Nat
  | soFar, [] => .ok soFar
  | soFar, c :: rest =>
    if c.isDigit then
      let value := soFar * 10 + (c.toNat - 48)
      if value ≤ limit then readDigits limit value rest else .error .tooLarge
    else .error .invalidDigit

def read (limit : Nat) : List Char → Except Defect Nat
  | [] => .error .empty
  | ['+'] => .error .invalidDigit
  | '+' :: rest => readDigits limit 0 rest
  | cs => readDigits limit 0 cs

/-- The number with leading zeros up to a width. -/
def padded (width n : Nat) : List Char :=
  let digits := Nat.toDigits 10 n
  List.replicate (width - digits.length) '0' ++ digits

end Numeral

end Courier
