import Courier.Time.Calendar
import Courier.Time.Span

/-!
# Timestamps

A wall-clock instant in UTC: whole seconds since 1970-01-01 and nanoseconds.  Nanoseconds from one
thousand million on stand for a leap second, which follows the last second of a minute and is
written as second 60.
-/

namespace Courier

structure Timestamp where
  seconds : Int
  nanos : Nat
  deriving DecidableEq

namespace Timestamp

/-- Years that a timestamp may lie in. -/
def leastYear : Int := -262143

def greatestYear : Int := 262142

/-- Leap seconds only follow second 59, and the year is in range. -/
def Valid (t : Timestamp) : Prop :=
  (t.nanos < 1000000000 ∨ t.seconds % 60 = 59 ∧ t.nanos < 2000000000) ∧
    leastYear ≤ (Date.ofDayNumber (t.seconds / 86400)).year ∧
    (Date.ofDayNumber (t.seconds / 86400)).year ≤ greatestYear

/-- The instant a number of milliseconds after 1970-01-01. -/
def ofUnixMillis (ms : Int) : Timestamp := ⟨ms / 1000, (ms % 1000).toNat * 1000000⟩

/-- Milliseconds since 1970-01-01; a leap second counts on past its minute. -/
def unixMillis (t : Timestamp) : Int := t.seconds * 1000 + t.nanos / 1000000

/-- The instant a span later.  From inside a leap second one first leaves that second, unless the
sum is still in it. -/
def later (t : Timestamp) (s : Span) : Timestamp :=
  if 1000000000 ≤ t.nanos ∧ t.nanos + s < 2000000000 then ⟨t.seconds, t.nanos + s⟩
  else
    let nanos := (if 1000000000 ≤ t.nanos then t.nanos - 1000000000 else t.nanos) + s
    ⟨t.seconds + (nanos / 1000000000 : Nat), nanos % 1000000000⟩

/-- A year of four digits, or a sign and at least four digits outside 0 to 9999. -/
def yearText (year : Int) : List Char :=
  if 0 ≤ year ∧ year ≤ 9999 then Numeral.padded 4 year.toNat
  else (if year < 0 then '-' else '+') :: Numeral.padded 4 year.natAbs

/-- The fraction of a second with 0, 3, 6 or 9 digits, as few as are exact. -/
def fractionText (nanos : Nat) : List Char :=
  if nanos = 0 then []
  else if nanos % 1000000 = 0 then '.' :: Numeral.padded 3 (nanos / 1000000)
  else if nanos % 1000 = 0 then '.' :: Numeral.padded 6 (nanos / 1000)
  else '.' :: Numeral.padded 9 nanos

/-- The RFC 3339 form in UTC. -/
def chars (t : Timestamp) : List Char :=
  let date := Date.ofDayNumber (t.seconds / 86400)
  let daySecond := (t.seconds % 86400).toNat
  let second := daySecond % 60 + if 1000000000 ≤ t.nanos then 1 else 0
  yearText date.year ++ '-' :: Numeral.padded 2 date.month ++ '-' :: Numeral.padded 2 date.day ++
    'T' :: Numeral.padded 2 (daySecond / 3600) ++ ':' :: Numeral.padded 2 (daySecond / 60 % 60) ++
    ':' :: Numeral.padded 2 second ++ fractionText (t.nanos % 1000000000) ++ ['Z']

def text (t : Timestamp) : String := String.ofList t.chars

end Timestamp

end Courier
