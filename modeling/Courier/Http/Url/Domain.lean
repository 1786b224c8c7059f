import Courier.Http.Url.Domain.Mapping
import Courier.Text.Composition
import Courier.Text.Direction
import Courier.Text.Joining
import Courier.Text.Punycode

/-!
# Names of hosts

A name is a row of labels between dots.  It may be written with characters of any script; what is
looked up is its form in ASCII.  The characters are mapped and composed first, and dots count after
that.  A label outside ASCII is written in Punycode behind a mark; a label that has the mark already
has to stand for a label that is mapped and composed as it is.
-/

namespace Courier

namespace Domain

/-- Characters that no name may hold. -/
def isForbidden (c : Char) : Bool :=
  c.toNat ≤ 0x20 || c.toNat == 0x7F || "%#/:<>?@[\\]^|".toList.contains c

def isAscii (c : Char) : Bool := c.toNat < 0x80

/-- What stands for a character; `none` if it is refused. -/
def mapChar (c : Char) : Option (List Nat) :=
  let n := c.toNat
  if n < 0x80 then some [c.toLower.toNat]
  else if refused.covers n then none
  else if ignored.covers n then some []
  else
    match mapped.find? n with
    | none => some [n]
    | some entry =>
      match entry.values with
      | [first] => some [first + (n - entry.low)]
      | values => some values

/-- The characters mapped and composed. -/
def normal (cs : List Char) : Option (List Char) :=
  (cs.mapM mapChar).map fun mapped ↦ (Text.compose mapped.flatten).map Char.ofNat

def mark : List Char := ['x', 'n', '-', '-']

/-- A label as it is read and as it is looked up. -/
structure Label where
  shown : List Char
  written : List Char
  deriving DecidableEq

namespace Label

/-- The most characters of a label that are written in Punycode. -/
def mostShown : Nat := 1000

/-- The most characters of Punycode that are read. -/
def mostWritten : Nat := 2000

/-- A label behind a mark. -/
def ofMarked (cs : List Char) : Option Label := do
  let code := cs.drop mark.length
  if cs.getLast? = some '-' ∨ mostWritten < code.length ∨ !cs.all isAscii then none
  else
    let shown ← Punycode.decode code
    if normal shown = some shown ∧ !shown.any (fun c ↦ c = '.' || isForbidden c) ∧
        !mark.isPrefixOf shown then some ⟨shown, cs⟩
    else none

def read (cs : List Char) : Option Label :=
  if mark.isPrefixOf cs then ofMarked cs
  else if cs.all isAscii then some ⟨cs, cs⟩
  else if mostShown < cs.length then none
  else some ⟨cs, mark ++ Punycode.encode cs⟩

/-- Whether the label starts with a character of its own and has joiners only where they count. -/
def isSound (label : Label) : Bool :=
  !label.shown.head?.any Text.isMark && Text.isWellJoined label.shown

end Label

/-- The name in ASCII. -/
def toAscii (cs : List Char) : Option (List Char) := do
  let chars ← normal cs
  if chars.any isForbidden then none
  else
    let labels ← (Text.pieces (· = '.') chars).mapM Label.read
    if labels.all Label.isSound && Text.isWellDirected (labels.map Label.shown) then
      some ((labels.map Label.written).intersperse ['.']).flatten
    else none

end Domain

end Courier
