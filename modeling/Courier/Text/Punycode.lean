/-!
# Punycode

A label of any characters is written with ASCII ones: first those it has, then a hyphen, then the
others in increasing order.  For each of these a number is written that says how many steps lie
between the last insertion and this one, where a step goes to the next place in the label and, past
its end, to the next character at its start.  The numbers are written to base 36 with the lowest digit
first; the last digit of a number lies below a threshold, which adapts to the size of the numbers.
-/

namespace Courier

namespace Punycode

def digit (n : Nat) : Char := Char.ofNat (if n < 26 then 97 + n else 22 + n)

def digit? (c : Char) : Option Nat :=
  let n := c.toNat
  if 97 ≤ n ∧ n ≤ 122 then some (n - 97)
  else if 48 ≤ n ∧ n ≤ 57 then some (n - 22)
  else none

/-- The threshold of a place of a number; places count in steps of 36 from 36. -/
def threshold (bias place : Nat) : Nat :=
  if place ≤ bias then 1 else if bias + 26 ≤ place then 26 else place - bias

theorem one_le_threshold (bias place : Nat) : 1 ≤ threshold bias place := by
  unfold threshold
  split
  · exact Nat.le_refl 1
  · split <;> omega

/-- Divides by 35 while the number is large, and counts in steps of 36. -/
def flatten (n : Nat) : Nat × Nat :=
  if 455 < n then
    let (small, steps) := flatten (n / 35)
    (small, steps + 36)
  else (n, 0)
termination_by n
decreasing_by omega

/-- The bias after a number in a label that has grown to a length. -/
def adapt (n length : Nat) (first : Bool) : Nat :=
  let n := if first then n / 700 else n / 2
  let (small, steps) := flatten (n + n / length)
  steps + 36 * small / (small + 38)

def initialBias : Nat := 72

/-- The first character outside ASCII. -/
def firstForeign : Nat := 0x80

/-! ## Writing -/

/-- The digits of a number from a place on. -/
def digits (bias place n : Nat) : List Char :=
  if n < threshold bias place then [digit n]
  else
    let rest := n - threshold bias place
    let base := 36 - threshold bias place
    digit (threshold bias place + rest % base) :: digits bias (place + 36) (rest / base)
termination_by n
decreasing_by
  have := one_le_threshold bias place
  exact Nat.lt_of_le_of_lt (Nat.div_le_self _ _) (by omega)

structure Writing where
  written : List Char
  /-- Steps since the last insertion. -/
  steps : Nat
  bias : Nat
  /-- Characters that have their places. -/
  placed : Nat

/-- Passes one character of the label while the insertions of `n` are written. -/
def pass (n : Nat) (state : Writing) (c : Char) : Writing :=
  if c.toNat < n then { state with steps := state.steps + 1 }
  else if c.toNat = n then
    { written := state.written ++ digits state.bias 36 state.steps
      steps := 0
      bias := adapt state.steps (state.placed + 1) (state.written.isEmpty)
      placed := state.placed + 1 }
  else state

/-- Writes the insertions of the given characters, after those below `from`. -/
def insertions (label : List Char) : Nat → Writing → List Nat → Writing
  | _, state, [] => state
  | start, state, n :: rest =>
    let state := { state with steps := state.steps + (n - start) * (state.placed + 1) }
    let state := label.foldl (pass n) state
    insertions label (n + 1) { state with steps := state.steps + 1 } rest

def encode (label : List Char) : List Char :=
  let plain := label.filter fun c ↦ c.toNat < firstForeign
  let foreign := (label.map Char.toNat).filter (firstForeign ≤ ·)
  let state := insertions label firstForeign ⟨[], 0, initialBias, plain.length⟩
    (foreign.mergeSort (· ≤ ·)).eraseReps
  plain ++ (if plain.isEmpty then [] else ['-']) ++ state.written

/-! ## Reading -/

structure Reading where
  label : List Char
  /-- The character that was inserted last, and the place after it. -/
  char : Nat
  next : Nat
  bias : Nat

/-- Steps are counted with 32 bits. -/
def mostSteps : Nat := 4294967295

/-- Inserts the character that lies a number of steps after the last one. -/
def insert (state : Reading) (steps : Nat) : Option Reading :=
  let length := state.label.length + 1
  let char := state.char + (state.next + steps) / length
  let place := (state.next + steps) % length
  if char.isValidChar then
    some
      { label := state.label.take place ++ Char.ofNat char :: state.label.drop place
        char
        next := place + 1
        bias := adapt steps length (state.next = 0) }
  else none

/-- Reads digits: `steps` is the number so far, `weight` the worth of the next digit. -/
def readFrom (state : Reading) (steps weight place : Nat) : List Char → Option (List Char)
  | [] => if place = 36 then some state.label else none
  | c :: rest => do
    let value ← digit? c
    let steps := steps + value * weight
    if mostSteps < state.next + steps then none
    else
      let bound := threshold state.bias place
      if value < bound then readFrom (← insert state steps) 0 1 36 rest
      else readFrom state steps (weight * (36 - bound)) (place + 36) rest

/-- The label that was written; letters have to be small. -/
def decode (cs : List Char) : Option (List Char) :=
  let tail := (cs.reverse.takeWhile (· ≠ '-')).reverse
  let plain := cs.take (cs.length - tail.length - 1)
  if cs.head? = some '-' ∧ plain.isEmpty then none
  else readFrom ⟨plain, firstForeign, 0, initialBias⟩ 0 1 36 tail

end Punycode

end Courier
