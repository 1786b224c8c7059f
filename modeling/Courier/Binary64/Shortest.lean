import Courier.Binary64.Basic

/-!
# Shortest decimals

The decimals that round to a given positive magnitude form an interval around it, reaching half way
to its neighbours and holding its ends exactly when the magnitude is even.  `Magnitude.shortest` is
the decimal of that interval with the fewest digits; of two with equally few digits it is the nearer
one, and at equal distance the one that the notation asks for.
-/

namespace Courier

/-- The number `digits * 10 ^ exponent`. -/
structure Decimal where
  digits : Nat
  exponent : Int
  deriving DecidableEq

namespace Decimal

/-- Drops trailing zeros; the first argument bounds how many. -/
def trim : Nat → Decimal → Decimal
  | 0, d => d
  | fuel + 1, d =>
    if d.digits % 10 = 0 then trim fuel ⟨d.digits / 10, d.exponent + 1⟩ else d

end Decimal

namespace Magnitude

/-- Half the distance to the next larger value, in quarter units. -/
def reachUp (m : Magnitude) : Nat := 2 * Nat.pow 2 m.spacing

/-- Half the distance to the next smaller value, in quarter units: below a power of two the values
stand twice as close. -/
def reachDown (m : Magnitude) : Nat :=
  if m.place % binade = 0 ∧ 2 * binade ≤ m.place then Nat.pow 2 m.spacing else m.reachUp

/-- Whether `x / y` quarter units round to the magnitude. -/
def attracts (m : Magnitude) (x y : Nat) : Bool :=
  let low := (4 * m.units - m.reachDown) * y
  let high := (4 * m.units + m.reachUp) * y
  if m.place % 2 = 0 then decide (low ≤ x ∧ x ≤ high) else decide (low < x ∧ x < high)

/-- The multiple of `10 ^ exponent` nearest to the magnitude among those that round to it. -/
def onGrid (tie : Tie) (m : Magnitude) (exponent : Int) : Option Nat :=
  let step := 4 * Binary64.scale * Nat.pow 10 exponent.toNat
  let unit := Nat.pow 10 (-exponent).toNat
  let value := 4 * m.units * unit
  let below := value / step
  match m.attracts (below * step) unit, m.attracts ((below + 1) * step) unit with
  | true, true => some (roundHalf tie value step)
  | true, false => some below
  | false, true => some (below + 1)
  | false, false => none

/-- The exponent `e` with `10 ^ (e - 1) ≤ m < 10 ^ e`. -/
def decimalExponent (m : Magnitude) : Int :=
  (Nat.toDigits 10 (m.units * Nat.pow 10 400 / Binary64.scale)).length - 400

/-- Tries grids with `digits` digits and more; seventeen digits always suffice. -/
def shortestFrom (tie : Tie) (m : Magnitude) (top : Int) : Nat → Nat → Decimal
  | 0, _ => ⟨0, 0⟩
  | fuel + 1, digits =>
    match m.onGrid tie (top - digits) with
    | some n => Decimal.trim 20 ⟨n, top - digits⟩
    | none => shortestFrom tie m top fuel (digits + 1)

def shortest (tie : Tie) (m : Magnitude) : Decimal :=
  if m.place = 0 then ⟨0, 0⟩ else m.shortestFrom tie m.decimalExponent 17 1

end Magnitude

end Courier
