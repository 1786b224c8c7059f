import Courier.Text.Numeral

/-!
# Spans of time

A span is a whole number of nanoseconds, and a moment is the span since the zero of the clock.  The
clock itself moves in whole milliseconds: a wait for a moment is over at the first whole millisecond
that reaches it.
-/

namespace Courier

/-- A length of time in nanoseconds. -/
abbrev Span := Nat

/-- The span since the zero of the clock. -/
abbrev Moment := Span

namespace Span

def ofMillis (n : Nat) : Span := n * 1000000

def ofSeconds (n : Nat) : Span := n * 1000000000

/-- Whole seconds in the span. -/
def seconds (s : Span) : Nat := s / 1000000000

/-- Nanoseconds beyond the whole seconds. -/
def subsecond (s : Span) : Nat := s % 1000000000

/-- Whole milliseconds in the span. -/
def millis (s : Span) : Nat := s / 1000000

/-- The least whole number of milliseconds that reaches the span. -/
def ceilMillis (s : Span) : Span := (s + 999999) / 1000000 * 1000000

/-- The longest span that can be written down: 64 bits of seconds and a fraction. -/
def longest : Span := ofSeconds (Numeral.greatest 64) + 999999999

/-- Thirty years: the longest single wait, and the stand-in for a span too long for the clock. -/
def thirtyYears : Span := ofSeconds (30 * 365 * 86400)

/-- The moment at which a wait for a span is over; a longer wait than thirty years is cut short. -/
def waitEnd (now : Moment) (s : Span) : Moment := now + min s thirtyYears

/-- A whole number and a decimal fraction without its trailing zeros. -/
def decimalText (whole fraction width : Nat) : List Char :=
  let digits := ((Numeral.padded width fraction).reverse.dropWhile (· == '0')).reverse
  Nat.toDigits 10 whole ++ if fraction = 0 then [] else '.' :: digits

/-- The span in the largest of s, ms, µs and ns that has a whole part. -/
def text (s : Span) : String :=
  if 1000000000 ≤ s then String.ofList (decimalText (s / 1000000000) (s % 1000000000) 9) ++ "s"
  else if 1000000 ≤ s then String.ofList (decimalText (s / 1000000) (s % 1000000) 6) ++ "ms"
  else if 1000 ≤ s then String.ofList (decimalText (s / 1000) (s % 1000) 3) ++ "µs"
  else toString (s : Nat) ++ "ns"

end Span

/-- How far a clock reaches: it holds the moments before a bound, which is more than thirty years
after its zero. -/
structure ClockRange where
  bound : Moment
  thirtyYears_lt : Span.thirtyYears < bound

namespace ClockRange

/-- The range of a clock that counts seconds in 63 bits and has used up at most a day of them at its
zero. -/
def usual : ClockRange := ⟨Span.ofSeconds (Numeral.greatest 63 - 86400), by decide⟩

/-- The moment a span after another, or thirty years after it when the clock does not reach so far;
a moment that is thirty years off is always taken to be within reach. -/
def after (range : ClockRange) (now : Moment) (s : Span) : Moment :=
  if now + s < range.bound then now + s else now + Span.thirtyYears

theorem bound_pos (range : ClockRange) : 0 < range.bound :=
  Nat.zero_lt_of_lt range.thirtyYears_lt

theorem lt_after (range : ClockRange) (now : Moment) {s : Span} (hpositive : 0 < s) :
    now < range.after now s := by
  unfold after
  split
  · exact Nat.lt_add_of_pos_right hpositive
  · exact Nat.lt_add_of_pos_right (by decide)

end ClockRange

end Courier
