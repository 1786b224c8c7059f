import Courier.Binary64.Arithmetic
import Courier.Time.Span

/-!
# Spans as numbers of seconds

A span becomes a binary64 number as whole seconds plus the fraction, each rounded; a number of
seconds becomes a span by rounding to the nearest nanosecond, a half to the even one.
-/

namespace Courier

namespace Span

def inSeconds (s : Span) : Binary64 :=
  (Binary64.ofNat s.seconds).addNonneg
    ((Binary64.ofNat s.subsecond).div (Binary64.ofNat 1000000000))

/-- The span nearest to a magnitude in seconds. -/
def ofMagnitude (m : Magnitude) : Span := roundHalfEven (m.units * 1000000000) Binary64.scale

end Span

end Courier
