import Courier.Time.Calendar
import Mathlib.Order.Lattice

/-!
# Dates from day numbers

The date of a day number is a date that exists, and its day number is that number.
-/

namespace Courier.Date

/-! ## Years -/

/-- The year of a cycle that a day lies in. -/
def yearOfCycle (day : Nat) : Nat := (day - day / 1460 + day / 36524 - day / 146096) / 365

/-- A day of a cycle by its century, its four years, its year and its day of the year.  Day 365 ends
a leap year, which is the last of four years, and of a century only the fourth time. -/
structure Parts (century four year rest : Nat) : Prop where
  century_le : century ≤ 3
  four_le : four ≤ 24
  year_le : year ≤ 3
  rest_le : rest ≤ 364 ∨ rest = 365 ∧ year = 3 ∧ (four < 24 ∨ century = 3)

theorem exists_parts {day : Nat} (hday : day < 146097) :
    ∃ century four year rest, Parts century four year rest ∧
      day = 36524 * century + 1461 * four + 365 * year + rest := by
  obtain ⟨century, hcentury⟩ : ∃ century, century = min (day / 36524) 3 := ⟨_, rfl⟩
  obtain ⟨four, hfour⟩ : ∃ four, four = (day - 36524 * century) / 1461 := ⟨_, rfl⟩
  obtain ⟨year, hyear⟩ : ∃ year, year = min ((day - 36524 * century) % 1461 / 365) 3 := ⟨_, rfl⟩
  refine ⟨century, four, year, day - 36524 * century - 1461 * four - 365 * year,
    ⟨?_, ?_, ?_, ?_⟩, ?_⟩
  all_goals omega

variable {century four year rest : Nat}

/-- Centuries are full but for the leap day of the fourth. -/
theorem Parts.div_century (hparts : Parts century four year rest) {day : Nat}
    (hday : 36524 * century + 1461 * four + 365 * year + rest = day) :
    day / 36524 = century + day / 146096 := by
  obtain ⟨hcentury, hfour, hyear, hrest⟩ := hparts
  have hcases : 1461 * four + 365 * year + rest < 36524 ∨ day = 146096 ∧ century = 3 := by omega
  rcases hcases with hless | ⟨rfl, rfl⟩
  · have hfirst : day / 36524 = century := by omega
    have hcycle : day / 146096 = 0 := by omega
    rw [hfirst, hcycle, Nat.add_zero]
  · rfl

/-- The divisions take off the leap days before the day, and the leap day itself. -/
theorem Parts.yearOfCycle_eq (hparts : Parts century four year rest) {day : Nat}
    (hday : 36524 * century + 1461 * four + 365 * year + rest = day) :
    yearOfCycle day = 100 * century + 4 * four + year := by
  have hcenturies := hparts.div_century hday
  obtain ⟨hcentury, hfour, hyear, hrest⟩ := hparts
  obtain ⟨leap, hleap⟩ : ∃ leap, leap = (24 * century + four + 365 * year + rest) / 1460 :=
    ⟨_, rfl⟩
  have hbounds : leap ≤ rest ∧ rest ≤ 364 + leap := by
    rcases hrest with hrest | ⟨rfl, rfl, _⟩ <;> omega
  have hyears : day / 1460 = 25 * century + four + leap := by omega
  rw [yearOfCycle, hyears, hcenturies]
  clear hleap hcenturies hyears hrest
  omega

theorem Parts.daysOfYears_eq (hparts : Parts century four year rest) :
    daysOfYears (100 * century + 4 * four + year) = 36524 * century + 1461 * four + 365 * year := by
  have hfour := hparts.four_le
  have hyear := hparts.year_le
  unfold daysOfYears
  omega

/-! ## Months -/

/-- The month, from March, that a day of the year lies in. -/
def monthIndex (day : Nat) : Nat := (5 * day + 2) / 153

/-- The length of a month, from March; the last one is long enough for a leap year. -/
def monthLength (index : Nat) : Nat :=
  if index = 11 then 29 else if index ∈ [1, 3, 6, 8] then 30 else 31

theorem monthIndex_bounds {day : Nat} (hday : day ≤ 365) :
    monthIndex day ≤ 11 ∧ daysBefore (monthIndex day) ≤ day ∧
      day < daysBefore (monthIndex day) + monthLength (monthIndex day) := by
  have hindex : monthIndex day ≤ 11 := by
    unfold monthIndex
    omega
  refine ⟨hindex, ?_⟩
  unfold monthIndex at hindex ⊢
  generalize h : (5 * day + 2) / 153 = index at hindex ⊢
  have hcases : index = 0 ∨ index = 1 ∨ index = 2 ∨ index = 3 ∨ index = 4 ∨ index = 5 ∨ index = 6 ∨
      index = 7 ∨ index = 8 ∨ index = 9 ∨ index = 10 ∨ index = 11 := by omega
  rcases hcases with rfl | rfl | rfl | rfl | rfl | rfl | rfl | rfl | rfl | rfl | rfl | rfl <;>
    simp [daysBefore, monthLength] <;> omega

/-! ## Dates -/

/-- The date of a day of a year, both counted from March. -/
def ofYearDay (year : Int) (day : Nat) : Date :=
  let month := if monthIndex day < 10 then monthIndex day + 3 else monthIndex day - 9
  ⟨if month ≤ 2 then year + 1 else year, month, day - daysBefore (monthIndex day) + 1⟩

theorem exists_ofYearDay (n : Int) :
    ∃ (cycle : Int) (century four year rest : Nat), Parts century four year rest ∧
      n = cycle * 146097 + (36524 * century + 1461 * four + 365 * year + rest : Nat) - 719468 ∧
      ofDayNumber n = ofYearDay (cycle * 400 + (100 * century + 4 * four + year : Nat)) rest := by
  have hlt : ((n + 719468) % 146097).toNat < 146097 := by omega
  obtain ⟨century, four, year, rest, hparts, hday⟩ := exists_parts hlt
  refine ⟨(n + 719468) / 146097, century, four, year, rest, hparts, by omega, ?_⟩
  have hyears := hparts.yearOfCycle_eq hday.symm
  have hrest : ((n + 719468) % 146097).toNat - daysOfYears (100 * century + 4 * four + year) =
      rest := by
    rw [hparts.daysOfYears_eq]
    omega
  unfold yearOfCycle at hyears
  rw [ofDayNumber]
  simp only [hyears, hrest]
  rfl

section YearDay

variable {cycle : Int}

theorem dayNumber_ofYearDay (hparts : Parts century four year rest) :
    (ofYearDay (cycle * 400 + (100 * century + 4 * four + year : Nat)) rest).dayNumber =
      cycle * 146097 + (36524 * century + 1461 * four + 365 * year + rest : Nat) - 719468 := by
  have hyears : 100 * century + 4 * four + year < 400 := by
    have := hparts.century_le
    have := hparts.four_le
    have := hparts.year_le
    omega
  have hdays := hparts.daysOfYears_eq
  obtain ⟨hindex, hbefore, _⟩ := monthIndex_bounds (by have := hparts.rest_le; omega : rest ≤ 365)
  generalize 100 * century + 4 * four + year = years at hyears hdays ⊢
  unfold ofYearDay dayNumber
  generalize monthIndex rest = index at hindex hbefore ⊢
  dsimp only
  have hmonth : ((if index < 10 then index + 3 else index - 9) + 9) % 12 = index := by
    split <;> omega
  have hyear : (if (if index < 10 then index + 3 else index - 9) ≤ 2 then
      (if (if index < 10 then index + 3 else index - 9) ≤ 2 then cycle * 400 + (years : Int) + 1
        else cycle * 400 + years) - 1
      else (if (if index < 10 then index + 3 else index - 9) ≤ 2 then
        cycle * 400 + (years : Int) + 1 else cycle * 400 + years)) = cycle * 400 + years := by
    split <;> omega
  have hcycle : (cycle * 400 + (years : Int)) / 400 = cycle := by omega
  have hrest : ((cycle * 400 + (years : Int)) % 400).toNat = years := by omega
  rw [hmonth, hyear, hcycle, hrest, hdays]
  omega

theorem isLeapYear_of_rest (hparts : Parts century four year 365) :
    isLeapYear (cycle * 400 + (100 * century + 4 * four + year : Nat) + 1) = true := by
  rcases hparts.rest_le with hrest | ⟨_, rfl, hleap⟩
  · exact absurd hrest (by decide)
  · have hfour := hparts.four_le
    have hcentury := hparts.century_le
    generalize hyear : cycle * 400 + (100 * century + 4 * four + 3 : Nat) + 1 = year
    have hfours : year % 4 = 0 := by omega
    have hcenturies : year % 100 ≠ 0 ∨ year % 400 = 0 := by omega
    rcases hcenturies with hcenturies | hcycles
    · simp [isLeapYear, hfours, hcenturies]
    · simp [isLeapYear, hcycles]

theorem daysInMonth_of_index {year : Int} {index : Nat} (hindex : index ≤ 11) :
    daysInMonth year (if index < 10 then index + 3 else index - 9) =
      if index = 11 ∧ isLeapYear year = false then 28 else monthLength index := by
  have hcases : index = 11 ∨ index = 0 ∨ index = 1 ∨ index = 2 ∨ index = 3 ∨ index = 4 ∨
      index = 5 ∨ index = 6 ∨ index = 7 ∨ index = 8 ∨ index = 9 ∨ index = 10 := by omega
  rcases hcases with rfl | rfl | rfl | rfl | rfl | rfl | rfl | rfl | rfl | rfl | rfl | rfl
  · cases hleap : isLeapYear year <;> simp [daysInMonth, monthLength, hleap]
  all_goals simp [daysInMonth, monthLength]

/-- The date exists. -/
theorem ofYearDay_exists (hparts : Parts century four year rest) :
    let date := ofYearDay (cycle * 400 + (100 * century + 4 * four + year : Nat)) rest
    1 ≤ date.month ∧ date.month ≤ 12 ∧ 1 ≤ date.day ∧
      date.day ≤ daysInMonth date.year date.month := by
  have hrest : rest ≤ 365 := by
    have := hparts.rest_le
    omega
  obtain ⟨hindex, hbefore, hlength⟩ := monthIndex_bounds hrest
  have hleap : rest = 365 →
      isLeapYear (cycle * 400 + (100 * century + 4 * four + year : Nat) + 1) = true := by
    rintro rfl
    exact isLeapYear_of_rest hparts
  generalize cycle * 400 + ((100 * century + 4 * four + year : Nat) : Int) = years at hleap ⊢
  dsimp only [ofYearDay]
  refine ⟨by split <;> omega, by split <;> omega, by omega, ?_⟩
  have hmonth (hlast : monthIndex rest = 11) :
      (if monthIndex rest < 10 then monthIndex rest + 3 else monthIndex rest - 9) ≤ 2 := by
    rw [hlast]
    decide
  rw [daysInMonth_of_index hindex]
  generalize monthIndex rest = index at hindex hbefore hlength hmonth ⊢
  rcases Decidable.em (index = 11 ∧ isLeapYear (if (if index < 10 then index + 3 else index - 9) ≤ 2
      then years + 1 else years) = false) with hshort | hlong
  · rw [if_pos hshort]
    obtain ⟨rfl, hcommon⟩ := hshort
    rw [if_pos (hmonth rfl)] at hcommon
    have hne : rest ≠ 365 := by
      intro heq
      rw [hleap heq] at hcommon
      contradiction
    simp only [daysBefore, monthLength, if_true] at hbefore hlength ⊢
    omega
  · rw [if_neg hlong]
    omega

end YearDay

/-- The date of a day number exists and has this day number. -/
theorem ofDayNumber_spec (n : Int) :
    let date := ofDayNumber n
    (1 ≤ date.month ∧ date.month ≤ 12 ∧ 1 ≤ date.day ∧
      date.day ≤ daysInMonth date.year date.month) ∧ date.dayNumber = n := by
  obtain ⟨cycle, century, four, year, rest, hparts, hn, hdate⟩ := exists_ofYearDay n
  rw [hdate]
  exact ⟨ofYearDay_exists hparts, (dayNumber_ofYearDay hparts).trans hn.symm⟩

theorem daysInMonth_le (year : Int) (month : Nat) : daysInMonth year month ≤ 31 := by
  unfold daysInMonth
  split
  · split <;> decide
  all_goals decide

end Courier.Date
