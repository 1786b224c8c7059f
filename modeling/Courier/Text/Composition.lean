import Courier.Text.Composition.Table

/-!
# Composition

Equal texts may be spelled with composed characters or with marks after the characters that they
modify, and marks of different classes may stand in any order.  `compose` takes all characters apart,
puts the marks into the order of their classes, and joins each with the character that it modifies as
far as there is a character for both.  Syllables of Hangul are composed by arithmetic.
-/

namespace Courier

namespace Text

namespace Composition

/-- No mark and no second part of a character comes before this one. -/
def firstMark : Nat := 0x300

/-- The combining class of a mark; zero for a character that starts anew. -/
def classOf (n : Nat) : Nat :=
  if n < firstMark then 0
  else ((classes.find? n).bind fun entry ↦ entry.values.head?).getD 0

/-! ## Hangul -/

/-- The last sound that stands for no sound at all. -/
def noTail : Nat := 0x11A7

def isSyllable (n : Nat) : Bool := decide (0xAC00 ≤ n ∧ n < 0xAC00 + 19 * 21 * 28)

/-- The sounds of a syllable. -/
def sounds (n : Nat) : List Nat :=
  let index := n - 0xAC00
  let tail := if index % 28 = 0 then [] else [noTail + index % 28]
  (0x1100 + index / 588) :: (0x1161 + index % 588 / 28) :: tail

/-- A syllable from its first two sounds, or from a syllable of two and its last sound. -/
def syllable? (a b : Nat) : Option Nat :=
  if 0x1100 ≤ a ∧ a < 0x1100 + 19 ∧ 0x1161 ≤ b ∧ b < 0x1161 + 21 then
    some (0xAC00 + ((a - 0x1100) * 21 + (b - 0x1161)) * 28)
  else if isSyllable a ∧ (a - 0xAC00) % 28 = 0 ∧ noTail < b ∧ b < noTail + 28 then
    some (a + (b - noTail))
  else none

/-! ## Taking apart -/

/-- The parts of a character, to a depth that no character exceeds. -/
def apart : Nat → Nat → List Nat
  | 0, n => [n]
  | depth + 1, n =>
    if n < 0x80 then [n]
    else if isSyllable n then sounds n
    else
      match (pairs.find? n).map Table.Entry.values with
      | some [first, second] => apart depth first ++ [second]
      | _ => [n]

/-- Puts a character before others, behind the marks of smaller classes. -/
def place (n : Nat) : List Nat → List Nat
  | [] => [n]
  | m :: rest =>
    if 0 < classOf m ∧ classOf m < classOf n then m :: place n rest else n :: m :: rest

/-- The characters taken apart, with all marks in their order. -/
def decompose (ns : List Nat) : List Nat := (ns.flatMap (apart 4)).foldr place []

/-! ## Joining -/

/-- The character that stands for two. -/
def join? (a b : Nat) : Option Nat :=
  if b < firstMark then none
  else
    match syllable? a b with
    | some n => some n
    | none => (List.find? (fun entry ↦ entry.values == [a, b]) pairs).map Table.Entry.low

/-- Joins marks with the character before them.  `held` are the marks that could not be joined, from
the last to the first; a mark that follows one of its own class or a higher one does not reach the
character. -/
def joinFrom (start : Nat) (held : List Nat) : List Nat → List Nat
  | [] => start :: held.reverse
  | n :: rest =>
    let reaches := match held with
      | [] => true
      | last :: _ => decide (classOf last < classOf n)
    match if reaches then join? start n else none with
    | some joined => joinFrom joined held rest
    | none =>
      if classOf n = 0 then start :: held.reverse ++ joinFrom n [] rest
      else joinFrom start (n :: held) rest

def join : List Nat → List Nat
  | [] => []
  | n :: rest => joinFrom n [] rest

end Composition

/-- The characters by their numbers in composed form. -/
def compose (ns : List Nat) : List Nat := Composition.join (Composition.decompose ns)

end Text

end Courier
