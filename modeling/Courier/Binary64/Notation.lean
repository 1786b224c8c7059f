import Courier.Binary64.Shortest

/-!
# Written forms of binary64 numbers

Two notations of the shortest decimal: `plain` never uses an exponent, writes integral values without
a point and takes the larger of two decimals at equal distance; `scientific` takes the even one, keeps
a point in every positional form and turns to an exponent, whose sign is always written, below
`10 ^ -5` and from `10 ^ 16` on.
-/

namespace Courier

namespace Decimal

/-- Positional digits with the point after `point` of them; no point when no digit follows it. -/
def positional (digits : List Char) (point : Int) : List Char :=
  if point ≤ 0 then '0' :: '.' :: (List.replicate (-point).toNat '0' ++ digits)
  else if digits.length ≤ point.toNat then
    digits ++ List.replicate (point.toNat - digits.length) '0'
  else digits.take point.toNat ++ '.' :: digits.drop point.toNat

/-- Positional digits that always hold a point. -/
def pointed (digits : List Char) (point : Int) : List Char :=
  if digits.length ≤ point then positional digits point ++ ['.', '0'] else positional digits point

/-- One digit, the others after a point, and a signed exponent. -/
def exponential (digits : List Char) (point : Int) : List Char :=
  let mantissa :=
    match digits with
    | [] => []
    | [d] => [d]
    | d :: rest => d :: '.' :: rest
  let exponent := point - 1
  mantissa ++ 'e' :: (if exponent < 0 then '-' else '+') :: Nat.toDigits 10 exponent.natAbs

end Decimal

namespace Magnitude

def plain (m : Magnitude) : List Char :=
  let d := m.shortest .upward
  let digits := Nat.toDigits 10 d.digits
  Decimal.positional digits (digits.length + d.exponent)

def scientific (m : Magnitude) : List Char :=
  let d := m.shortest .toEven
  let digits := Nat.toDigits 10 d.digits
  let point : Int := digits.length + d.exponent
  if -5 < point ∧ point ≤ 16 then Decimal.pointed digits point
  else Decimal.exponential digits point

end Magnitude

namespace Binary64

def plain : Binary64 → List Char
  | .nan => "NaN".toList
  | .infinite negative => if negative then "-inf".toList else "inf".toList
  | .finite negative m => if negative then '-' :: m.plain else m.plain

end Binary64

end Courier
