import Courier.Text.Pieces

/-!
# Tables of characters

A table is written as entries between blanks.  An entry names one character by its number, or a range
`low-high`, or every second one of a range, `low-high/2`; the values that belong to it follow an
equals sign, with commas between them.  All numbers are hexadecimal.
-/

namespace Courier

namespace Text

/-- The characters `low`, `low + step` and so on up to `high`, and what belongs to them. -/
structure Table.Entry where
  low : Nat
  high : Nat
  step : Nat
  values : List Nat
  deriving DecidableEq

abbrev Table := List Table.Entry

namespace Table

/-- Whether the entry is about a character. -/
def Entry.covers (entry : Entry) (n : Nat) : Bool :=
  decide (entry.low ≤ n ∧ n ≤ entry.high ∧ (n - entry.low) % entry.step = 0)

def find? (table : Table) (n : Nat) : Option Entry := List.find? (·.covers n) table

def covers (table : Table) (n : Nat) : Bool := table.any (·.covers n)

/-! ## Reading -/

def digit (c : Char) : Nat := if c.toNat < 65 then c.toNat - 48 else c.toNat - 55

def number (digits : List Char) : Nat := digits.foldl (fun n c ↦ n * 16 + digit c) 0

/-- The first piece and the second, if there is one. -/
def halves (separator : Char) (cs : List Char) : List Char × Option (List Char) :=
  match pieces (· = separator) cs with
  | [] => ([], none)
  | [only] => (only, none)
  | first :: second :: _ => (first, some second)

def readEntry (cs : List Char) : Entry :=
  let (key, values) := halves '=' cs
  let (range, step) := halves '/' key
  let (low, high) := halves '-' range
  { low := number low
    high := number (high.getD low)
    step := (step.map number).getD 1
    values := match values with
      | none => []
      | some values => (pieces (· = ',') values).map number }

def readLine (line : String) : List Entry := (pieces (· = ' ') line.toList).map readEntry

def read (lines : List String) : Table := lines.flatMap readLine

end Table

end Text

end Courier
