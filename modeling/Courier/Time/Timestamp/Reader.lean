import Courier.Text.Blank
import Courier.Time.Timestamp

/-!
# Reading timestamps

The accepted texts are more than the written ones: white space may stand around every number, the
date and the time may be joined by `T`, `t` or a space, numbers may lack leading zeros, a year may
carry a sign and any number of digits, digits past the ninth of a fraction are dropped, and the zone
is `Z`, `UTC` in any case, or an offset whose colon is optional.  Offsets are taken out, so the
result is in UTC.
-/

namespace Courier

namespace Timestamp

/-- Why a text is no timestamp. -/
inductive Defect where
  | tooShort
  | tooLong
  | invalid
  | outOfRange
  | impossible
  deriving DecidableEq

def Defect.message : Defect → String
  | .tooShort => "premature end of input"
  | .tooLong => "trailing input"
  | .invalid => "input contains invalid characters"
  | .outOfRange => "input is out of range"
  | .impossible => "no possible date and time matching input"

namespace Reader

/-- Digits after the value `soFar`, at most `width` of them, below `2 ^ 63`. -/
def digits : Nat → Nat → List Char → Except Defect (Nat × List Char)
  | 0, soFar, cs => .ok (soFar, cs)
  | _ + 1, soFar, [] => .ok (soFar, [])
  | width + 1, soFar, c :: rest =>
    if c.isDigit then
      let value := soFar * 10 + (c.toNat - 48)
      if value ≤ Numeral.greatest 63 then digits width value rest else .error .outOfRange
    else .ok (soFar, c :: rest)

/-- At least one and at most `width` digits. -/
def number (width : Nat) : List Char → Except Defect (Nat × List Char)
  | [] => .error .tooShort
  | c :: rest => if c.isDigit then digits width 0 (c :: rest) else .error .invalid

/-- A number after optional white space, held to a range. -/
def field (width least greatest : Nat) (cs : List Char) : Except Defect (Nat × List Char) := do
  let (n, rest) ← number width (Text.trimStart cs)
  if least ≤ n ∧ n ≤ greatest then .ok (n, rest) else .error .outOfRange

/-- A year: four digits at most, or a sign and any number of digits, within 32 bits. -/
def year (cs : List Char) : Except Defect (Int × List Char) := do
  let (y, rest) ← match Text.trimStart cs with
    | '-' :: cs => (number cs.length cs).map fun (n, rest) ↦ (-(n : Int), rest)
    | '+' :: cs => (number cs.length cs).map fun (n, rest) ↦ ((n : Int), rest)
    | cs => (number 4 cs).map fun (n, rest) ↦ ((n : Int), rest)
  if -(Numeral.greatest 31 + 1 : Int) ≤ y ∧ y ≤ Numeral.greatest 31 then .ok (y, rest)
  else .error .outOfRange

/-- The given mark, after optional white space. -/
def mark (c : Char) (cs : List Char) : Except Defect (List Char) :=
  match Text.trimStart cs with
  | [] => .error .tooShort
  | d :: rest => if d = c then .ok rest else .error .invalid

/-- A fraction of a second in nanoseconds, zero when there is none. -/
def fraction : List Char → Except Defect (Nat × List Char)
  | '.' :: cs => do
    let (n, rest) ← number 9 cs
    .ok (n * Nat.pow 10 (9 - (cs.length - rest.length)), rest.dropWhile Char.isDigit)
  | cs => .ok (0, cs)

/-- Two characters that have to be digits. -/
def twoDigits : List Char → Except Defect ((Nat × Nat) × List Char)
  | [] => .error .tooShort
  | [c] => .error (if c.toNat < 0x80 then .tooShort else .invalid)
  | c :: d :: rest =>
    if c.isDigit ∧ d.isDigit then .ok ((c.toNat - 48, d.toNat - 48), rest) else .error .invalid

/-- Hours and minutes of an offset, in seconds. -/
def offsetSize (cs : List Char) : Except Defect (Nat × List Char) := do
  let ((h, h'), rest) ← twoDigits cs
  let ((m, m'), rest) ← twoDigits (rest.dropWhile fun c ↦ c == ':' || Text.isBlank c)
  if m < 6 then .ok (((h * 10 + h') * 60 + (m * 10 + m')) * 60, rest) else .error .outOfRange

/-- Seconds that local time is ahead of UTC. -/
def zone (cs : List Char) : Except Defect (Int × List Char) :=
  match cs with
  | 'Z' :: rest | 'z' :: rest => .ok (0, rest)
  | '+' :: rest => (offsetSize rest).map fun (n, rest) ↦ ((n : Int), rest)
  | '-' :: rest | '−' :: rest => (offsetSize rest).map fun (n, rest) ↦ (-(n : Int), rest)
  | [] => .error .tooShort
  | u :: t :: c :: rest =>
    if u.toUpper = 'U' ∧ t.toUpper = 'T' ∧ c.toUpper = 'C' then .ok (0, rest) else .error .invalid
  | _ => .error .invalid

/-- The day number of a date that exists. -/
def dayOf (year : Int) (month day : Nat) : Except Defect Int :=
  if leastYear ≤ year ∧ year ≤ greatestYear ∧ day ≤ Date.daysInMonth year month then
    .ok (Date.dayNumber ⟨year, month, day⟩)
  else .error .outOfRange

/-- The instant shown by a local date and time; second 60 is the leap second after second 59. -/
def assemble (day : Int) (hour minute second nanos : Nat) (ahead : Int) :
    Except Defect Timestamp :=
  if 86400 ≤ ahead.natAbs then .error .outOfRange
  else
    let leap := second = 60
    let seconds := day * 86400 + (hour * 3600 + minute * 60 + (if leap then 59 else second) : Nat)
    let t : Timestamp := ⟨seconds - ahead, if leap then nanos + 1000000000 else nanos⟩
    let year := (Date.ofDayNumber (t.seconds / 86400)).year
    if leastYear ≤ year ∧ year ≤ greatestYear then .ok t else .error .impossible

end Reader

open Reader in
/-- The instant that a text shows. -/
def read (cs : List Char) : Except Defect Timestamp := do
  let (year, cs) ← year cs
  let cs ← mark '-' cs
  let (month, cs) ← field 2 1 12 cs
  let cs ← mark '-' cs
  let (day, cs) ← field 2 1 31 cs
  let cs ← match cs with
    | [] => .error .tooShort
    | c :: rest => if c = 'T' ∨ c = 't' ∨ c = ' ' then .ok rest else .error .invalid
  let (hour, cs) ← field 2 0 23 cs
  let cs ← mark ':' cs
  let (minute, cs) ← field 2 0 59 cs
  let cs ← mark ':' cs
  let (second, cs) ← field 2 0 60 cs
  let (nanos, cs) ← fraction cs
  let (ahead, cs) ← zone (Text.trimStart cs)
  if ¬ (Text.trimStart cs).isEmpty then .error .tooLong
  else assemble (← dayOf year month day) hour minute second nanos ahead

end Timestamp

end Courier
