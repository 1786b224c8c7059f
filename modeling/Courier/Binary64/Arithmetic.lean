import Courier.Binary64.Basic

/-!
# Correctly rounded arithmetic

Every operation is the exact result rounded once, to nearest with ties to even.  Exact values are
quotients of natural numbers in units of `2 ^ -1074`; `roundedPlace` finds the place of the nearest
representable value and `ofQuotient` turns a place past the largest finite value into infinity.
-/

namespace Courier

namespace Binary64

/-- Place of the value nearest to `num / den` units.  Above `2 ^ 53` units the spacing doubles with
every doubling of the value, so 53 significant bits are kept. -/
def roundedPlace (num den : Nat) : Nat :=
  let spacing := (num / den).log2 - 52
  spacing * binade + roundHalfEven num (den * Nat.pow 2 spacing)

/-- The number nearest to `num / den` units of `2 ^ -1074`. -/
def ofQuotient (negative : Bool) (num den : Nat) : Binary64 :=
  if h : roundedPlace num den < magnitudes then .finite negative ⟨roundedPlace num den, h⟩
  else .infinite negative

/-- The number nearest to a natural number. -/
def ofNat (n : Nat) : Binary64 := ofQuotient false (n * scale) 1

def one : Binary64 := ofNat 1

def mul : Binary64 → Binary64 → Binary64
  | .finite p a, .finite q b => ofQuotient (p != q) (a.units * b.units) scale
  | .infinite p, .finite q b => if b.units = 0 then .nan else .infinite (p != q)
  | .finite p a, .infinite q => if a.units = 0 then .nan else .infinite (p != q)
  | .infinite p, .infinite q => .infinite (p != q)
  | _, _ => .nan

def div : Binary64 → Binary64 → Binary64
  | .finite p a, .finite q b =>
    if b.units = 0 then if a.units = 0 then .nan else .infinite (p != q)
    else ofQuotient (p != q) (a.units * scale) b.units
  | .infinite p, .finite q _ => .infinite (p != q)
  | .finite p _, .infinite q => .finite (p != q) Magnitude.zero
  | _, _ => .nan

/-- Sum of two numbers that are not negative. -/
def addNonneg : Binary64 → Binary64 → Binary64
  | .finite _ a, .finite _ b => ofQuotient false (a.units + b.units) 1
  | .nan, _ => .nan
  | _, .nan => .nan
  | _, _ => .infinite false

/-- Repeated squaring from the lowest bit of the exponent, every product rounded.  The first
argument bounds the number of bits. -/
def powerLoop : Nat → Binary64 → Binary64 → Nat → Binary64
  | 0, result, _, _ => result
  | bits + 1, result, square, exponent =>
    let result := if exponent % 2 = 1 then result.mul square else result
    if exponent / 2 = 0 then result
    else powerLoop bits result (square.mul square) (exponent / 2)

/-- The power with a natural exponent, by repeated squaring. -/
def power (base : Binary64) (exponent : Nat) : Binary64 :=
  powerLoop (exponent + 1) one base exponent

end Binary64

end Courier
