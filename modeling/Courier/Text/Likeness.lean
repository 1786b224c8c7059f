/-!
# Likeness of words

How much two words are alike, as a fraction.  Letters match when they are equal and not far apart;
the likeness is the mean of the matched part of either word and of the part of the matches that
stands in the same order in both.
-/

namespace Courier

namespace Likeness

/-- A fraction. -/
structure Ratio where
  num : Nat
  den : Nat

namespace Ratio

def lt (a b : Ratio) : Bool := a.num * b.den < b.num * a.den

end Ratio

/-- Marks the first free letter equal to `c` at a place from `low` to `high`. -/
def claim (c : Char) (low high : Nat) : Nat → List (Char × Bool) → Option (List (Char × Bool))
  | _, [] => none
  | place, (d, taken) :: rest =>
    if low ≤ place ∧ place ≤ high ∧ c = d ∧ taken = false then some ((d, true) :: rest)
    else (claim c low high (place + 1) rest).map ((d, taken) :: ·)

/-- The matched letters of the first word, and the second word with its matched letters marked. -/
def matchUp (reach : Nat) : Nat → List Char → List (Char × Bool) → List Char × List (Char × Bool)
  | _, [], marked => ([], marked)
  | place, c :: rest, marked =>
    match claim c (place - reach) (place + reach) 0 marked with
    | none => matchUp reach (place + 1) rest marked
    | some marked =>
      let (letters, marked) := matchUp reach (place + 1) rest marked
      (c :: letters, marked)

def ratio (a b : List Char) : Ratio :=
  let (left, marked) := matchUp (max a.length b.length / 2 - 1) 0 a (b.map (·, false))
  let right := (marked.filter Prod.snd).map Prod.fst
  let m := left.length
  let swaps := ((left.zip right).filter fun (c, d) ↦ c ≠ d).length / 2
  if m = 0 then ⟨0, 1⟩
  else
    ⟨m * m * b.length + m * m * a.length + (m - swaps) * a.length * b.length,
      3 * a.length * b.length * m⟩

/-- The word most like another one among those that are like it by more than seven tenths; of equals
the last. -/
def closest (word : String) (words : List String) : Option String :=
  let better (best : Option (String × Ratio)) (other : String) : Option (String × Ratio) :=
    let r := ratio word.toList other.toList
    if !Ratio.lt ⟨7, 10⟩ r then best
    else
      match best with
      | some (_, bestRatio) => if r.lt bestRatio then best else some (other, r)
      | none => some (other, r)
  (words.foldl better none).map Prod.fst

end Likeness

end Courier
