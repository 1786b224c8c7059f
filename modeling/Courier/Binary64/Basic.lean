import Courier.Rounding

/-!
# Binary64 numbers

A nonnegative finite value is a `Magnitude`, named by its place in increasing order: zero has place
`0` and the next representable value has the next place.  Its exact value is `Magnitude.units`
counted in the least positive value, `2 ^ -1074`.  A `Binary64` adds the sign, the infinities and a
single not-a-number.
-/

namespace Courier

/-- Values from a power of two up to the next one. -/
def binade : Nat := Nat.pow 2 52

/-- The number of nonnegative finite values. -/
def magnitudes : Nat := 2047 * binade

/-- A nonnegative finite binary64 value, by its place in increasing order. -/
structure Magnitude where
  place : Nat
  place_lt : place < magnitudes
  deriving DecidableEq

namespace Magnitude

def zero : Magnitude := ⟨0, by decide⟩

/-- Exponent of the distance to the next larger value, counted from `2 ^ -1074`. -/
def spacing (m : Magnitude) : Nat := m.place / binade - 1

/-- The exact value, in units of `2 ^ -1074`. -/
def units (m : Magnitude) : Nat := (m.place - m.spacing * binade) * Nat.pow 2 m.spacing

end Magnitude

/-- A binary64 number; all not-a-number patterns are one. -/
inductive Binary64 where
  | nan
  | infinite (negative : Bool)
  | finite (negative : Bool) (magnitude : Magnitude)
  deriving DecidableEq

namespace Binary64

/-- Units of `2 ^ -1074` in the number one. -/
def scale : Nat := Nat.pow 2 1074

/-- The bit that is set for negative numbers. -/
def signBit : Nat := Nat.pow 2 63

/-- The number whose pattern of sign, exponent and fraction bits is `bits`. -/
def ofBits (bits : UInt64) : Binary64 :=
  let negative := decide (signBit ≤ bits.toNat)
  let place := bits.toNat % signBit
  if h : place < magnitudes then .finite negative ⟨place, h⟩
  else if place = magnitudes then .infinite negative
  else .nan

def toBits : Binary64 → UInt64
  | .nan => UInt64.ofNat (magnitudes + binade / 2)
  | .infinite negative => UInt64.ofNat ((if negative then signBit else 0) + magnitudes)
  | .finite negative m => UInt64.ofNat ((if negative then signBit else 0) + m.place)

def isFinite : Binary64 → Bool
  | .finite _ _ => true
  | _ => false

/-- Place on the ordered line of numbers; both zeros stand at `0`, not-a-number stands nowhere. -/
def rank : Binary64 → Option Int
  | .nan => none
  | .infinite negative => some (if negative then -magnitudes else magnitudes)
  | .finite negative m => some (if negative then -m.place else m.place)

/-- Numeric comparison, false when either side is not a number. -/
def less (a b : Binary64) : Bool :=
  match a.rank, b.rank with
  | some x, some y => decide (x < y)
  | _, _ => false

/-- Numeric comparison, false when either side is not a number. -/
def atMost (a b : Binary64) : Bool :=
  match a.rank, b.rank with
  | some x, some y => decide (x ≤ y)
  | _, _ => false

end Binary64

end Courier
