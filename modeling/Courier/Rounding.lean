/-!
# Rounding a quotient

Quotients of natural numbers are rounded to the nearest natural number.  A quotient halfway between
two of them goes to the even one, or upward where that is asked for.
-/

namespace Courier

/-- Where an exact half goes. -/
inductive Tie where
  | toEven
  | upward
  deriving DecidableEq

/-- What a tie adds to the whole part. -/
def Tie.step : Tie → Nat → Nat
  | .toEven, whole => whole % 2
  | .upward, _ => 1

/-- The natural number nearest to `num / den`. -/
def roundHalf (tie : Tie) (num den : Nat) : Nat :=
  let whole := num / den
  let rest := num % den
  if 2 * rest < den then whole
  else if den < 2 * rest then whole + 1
  else whole + tie.step whole

/-- The natural number nearest to `num / den`, an exact half going to the even neighbour. -/
def roundHalfEven (num den : Nat) : Nat := roundHalf .toEven num den

end Courier
