import Courier.Http.Chunk
import Courier.Http.Head

/-!
# Answers

What the bytes of a connection that the server closes come to.  The body of a final head is empty, or
chunked, or of an announced length, or everything up to the close, in this order of precedence.
-/

namespace Courier

namespace Http

/-- Where a body ends. -/
inductive Framing where
  | empty
  | chunked
  | length (n : Nat)
  | untilClose
  deriving DecidableEq

inductive Response where
  /-- There is no complete head that can be understood. -/
  | noHead
  /-- The body ends before it should. -/
  | cutShort (status : Nat)
  | whole (status : Nat) (body : Bytes)
  deriving DecidableEq

namespace Framing

/-- Visible ASCII and blanks, as list values have to be. -/
def isListByte (b : UInt8) : Bool := b == 9 || (32 ≤ b && b < 127)

/-- The parts between commas, without blanks. -/
def listItems (value : Bytes) : List Bytes := (cut value).map trimBlanks
where
  cut : Bytes → List Bytes
    | [] => [[]]
    | b :: rest =>
      match cut rest with
      | first :: others => if b = 44 then [] :: first :: others else (b :: first) :: others
      | [] => [[b]]

/-- The last coding of the last value. -/
def isChunked (codings : List Bytes) : Bool :=
  match codings.getLast? with
  | none => false
  | some value =>
    value.all isListByte && (listItems value).getLast?.any fun item ↦
      lower item = Utf8.encode "chunked"

def readLength (digits : Bytes) : Option Nat :=
  if digits.isEmpty then none
  else
    let value := digits.foldlM (fun n b ↦ (Head.digitOf? b).map (n * 10 + ·)) 0
    value.filter (· ≤ Numeral.greatest 64)

/-- The one length that all values agree on; the two greatest numbers are no lengths. -/
def agreedLength (values : List Bytes) : Option Nat :=
  if values.all (·.all isListByte) then
    match (values.flatMap listItems).mapM readLength with
    | some (n :: others) =>
      if others.all (· = n) ∧ n + 2 ≤ Numeral.greatest 64 then some n else none
    | _ => none
  else none

/-- How the body of a final head is framed; none when the head contradicts itself. -/
def ofHead (head : Head) : Option Framing :=
  let codings := valuesOf "transfer-encoding" head.fields
  let lengths := valuesOf "content-length" head.fields
  if head.status = 101 ∨ head.status = 204 ∨ head.status = 304 then some .empty
  else if !codings.isEmpty then
    if head.minor = 0 then none else if isChunked codings then some .chunked else some .untilClose
  else if !lengths.isEmpty then (agreedLength lengths).map .length
  else some .untilClose

/-- The body in the bytes after the head, if it is complete. -/
def body? : Framing → Bytes → Option Bytes
  | .empty, _ => some []
  | .chunked, bytes => Chunk.read 0 bytes
  | .length n, bytes => if bytes.length < n then none else some (bytes.take n)
  | .untilClose, bytes => some bytes

end Framing

namespace Response

def read (bytes : Bytes) : Response :=
  match Head.final bytes with
  | none => .noHead
  | some (head, rest) =>
    match Framing.ofHead head with
    | none => .noHead
    | some framing =>
      match framing.body? rest with
      | none => .cutShort head.status
      | some body => .whole head.status body

/-- Whether more bytes would not change the answer. -/
def isSettled (bytes : Bytes) : Bool :=
  match Head.final bytes with
  | none => false
  | some (head, rest) =>
    match Framing.ofHead head with
    | none => true
    | some .untilClose => false
    | some framing => (framing.body? rest).isSome

end Response

end Http

end Courier
