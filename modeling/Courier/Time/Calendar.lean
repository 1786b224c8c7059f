/-!
# The proleptic Gregorian calendar

Dates correspond to day numbers counted from 1970-01-01.  Years are cut at the first of March, so
that the leap day is the last day of its year, and 400 years always have 146097 days.
-/

namespace Courier

structure Date where
  year : Int
  month : Nat
  day : Nat
  deriving DecidableEq

namespace Date

def isLeapYear (year : Int) : Bool :=
  (year % 4 == 0 && year % 100 != 0) || year % 400 == 0

def daysInMonth (year : Int) (month : Nat) : Nat :=
  match month with
  | 2 => if isLeapYear year then 29 else 28
  | 4 | 6 | 9 | 11 => 30
  | _ => 31

/-- Days between the first of March and the first of the month that is `index` months later. -/
def daysBefore (index : Nat) : Nat := (153 * index + 2) / 5

/-- Days of the first `years` years of a cycle of 400. -/
def daysOfYears (years : Nat) : Nat := 365 * years + years / 4 - years / 100

/-- Days from 1970-01-01 to the date. -/
def dayNumber (d : Date) : Int :=
  let year := if d.month ≤ 2 then d.year - 1 else d.year
  let index := (d.month + 9) % 12
  let cycleDay := daysOfYears (year % 400).toNat + daysBefore index + (d.day - 1)
  year / 400 * 146097 + cycleDay - 719468

/-- The date that is `n` days after 1970-01-01. -/
def ofDayNumber (n : Int) : Date :=
  let shifted := n + 719468
  let cycleDay := (shifted % 146097).toNat
  let years := (cycleDay - cycleDay / 1460 + cycleDay / 36524 - cycleDay / 146096) / 365
  let yearDay := cycleDay - daysOfYears years
  let index := (5 * yearDay + 2) / 153
  let month := if index < 10 then index + 3 else index - 9
  let year := shifted / 146097 * 400 + years
  ⟨if month ≤ 2 then year + 1 else year, month, yearDay - daysBefore index + 1⟩

end Date

end Courier
