import Courier.Text.Utf8

/-!
# Percent encoding

A character that may not stand for itself is written as its UTF-8 bytes, each as a percent sign and
two upper-case hexadecimal digits.  Decoding takes a percent sign that two digits of either case do
not follow for itself.
-/

namespace Courier

namespace Percent

def digit (n : Nat) : Char := "0123456789ABCDEF".toList.getD n '0'

def encodeByte (b : UInt8) : List Char := ['%', digit (b.toNat / 16), digit (b.toNat % 16)]

/-- The text with every character that is not kept encoded. -/
def encode (keep : Char → Bool) (cs : List Char) : List Char :=
  cs.flatMap fun c ↦ if keep c then [c] else (Utf8.encodeChar c).flatMap encodeByte

/-- The value of a hexadecimal digit. -/
def value? (b : UInt8) : Option Nat :=
  let n := b.toNat
  if 48 ≤ n ∧ n ≤ 57 then some (n - 48)
  else if 65 ≤ n ∧ n ≤ 70 then some (n - 55)
  else if 97 ≤ n ∧ n ≤ 102 then some (n - 87)
  else none

def decode : Bytes → Bytes
  | 37 :: a :: b :: rest =>
    match value? a, value? b with
    | some high, some low => UInt8.ofNat (16 * high + low) :: decode rest
    | _, _ => 37 :: decode (a :: b :: rest)
  | b :: rest => b :: decode rest
  | [] => []

end Percent

end Courier
