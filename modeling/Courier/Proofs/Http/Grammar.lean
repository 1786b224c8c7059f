import Courier.Http.Response
import Courier.Proofs.Json.Grammar

/-!
# Texts of answers

Which bytes are an answer over HTTP.  A head is spelled line by line, and so is a chunked body; an
answer is whole when its body has all the bytes that its head announces, or when the head announces
nothing and the connection is closed after the body.  The relations know nothing of how bytes are
read.
-/

namespace Courier.Http

/-! ## Lines and fields -/

/-- A line of a head: a line feed ends it, before which one carriage return does not count. -/
inductive LineSpells : Bytes → Bytes → Prop
  | feed {line : Bytes} (hfeed : 10 ∉ line) (hreturn : line.getLast? ≠ some 13) :
      LineSpells line (line ++ [10])
  | both {line : Bytes} (hfeed : 10 ∉ line) : LineSpells line (line ++ [13, 10])

inductive FieldSpells : Field → Bytes → Prop
  | colon {name value : Bytes} (hname : validName name = true) (hvalue : validValue value = true) :
      FieldSpells (lower name, trimBlanks value) (name ++ 58 :: value)

/-- Fields on lines of their own, and the empty line after them. -/
inductive FieldsSpell : List Field → Bytes → Prop
  | nil {text : Bytes} (hend : LineSpells [] text) : FieldsSpell [] text
  | cons {field : Field} {fields : List Field} {line first rest : Bytes}
      (hfield : FieldSpells field line) (hline : LineSpells line first)
      (hfields : FieldsSpell fields rest) : FieldsSpell (field :: fields) (first ++ rest)

/-! ## Heads -/

def decimal (n : Nat) : UInt8 := UInt8.ofNat (48 + n)

/-- A status line up to its status. -/
def statusText (minor status : Nat) : Bytes :=
  Utf8.encode "HTTP/1." ++ [decimal minor, 32, decimal (status / 100), decimal (status / 10 % 10),
    decimal (status % 10)]

/-- A status line: the status has three digits, and a reason may follow it. -/
inductive StatusSpells (minor status : Nat) : Bytes → Prop
  | plain (hminor : minor ≤ 1) (hlow : 100 ≤ status) (hhigh : status < 1000) :
      StatusSpells minor status (statusText minor status)
  | reason {reason : Bytes} (hminor : minor ≤ 1) (hlow : 100 ≤ status) (hhigh : status < 1000)
      (hreason : reason.all isValueByte = true) :
      StatusSpells minor status (statusText minor status ++ 32 :: reason)

/-- One head, with empty lines before it. -/
inductive HeadSpells : Head → Bytes → Prop
  | blank {head : Head} {first rest : Bytes} (hblank : LineSpells [] first)
      (hhead : HeadSpells head rest) : HeadSpells head (first ++ rest)
  | lines {minor status : Nat} {fields : List Field} {line first rest : Bytes}
      (hstatus : StatusSpells minor status line) (hline : LineSpells line first)
      (hfields : FieldsSpell fields rest) (hroom : fields.length ≤ mostFields) :
      HeadSpells ⟨minor, status, fields⟩ (first ++ rest)

/-- The final head, with those of interim answers before it. -/
inductive FinalSpells : Head → Bytes → Prop
  | last {head : Head} {text : Bytes} (hhead : HeadSpells head text)
      (hfinal : head.isInterim = false) : FinalSpells head text
  | interim {other head : Head} {first rest : Bytes} (hother : HeadSpells other first)
      (hinterim : other.isInterim = true) (hhead : FinalSpells head rest) :
      FinalSpells head (first ++ rest)

/-! ## Bodies -/

/-- A line of a chunked body: a carriage return and a line feed end it. -/
inductive StrictSpells : Bytes → Bytes → Prop
  | both {line : Bytes} (hreturn : 13 ∉ line) : StrictSpells line (line ++ [13, 10])

/-- Hexadecimal digits in both cases. -/
inductive SizeSpells : Nat → Bytes → Prop
  | one {value : Nat} {b : UInt8} (hvalue : value < 16) (hb : b ∈ Json.hexForms value) :
      SizeSpells value [b]
  | more {n value : Nat} {digits : Bytes} {b : UInt8} (hdigits : SizeSpells n digits)
      (hvalue : value < 16) (hb : b ∈ Json.hexForms value) :
      SizeSpells (n * 16 + value) (digits ++ [b])

/-- An extension by its length. -/
inductive ExtensionSpells : Nat → Bytes → Prop
  | none : ExtensionSpells 0 []
  | semicolon {text : Bytes} (hfeed : 10 ∉ text) : ExtensionSpells text.length (59 :: text)

/-- The line before a chunk: its size, and an extension of some length. -/
inductive SizeLineSpells (size length : Nat) : Bytes → Prop
  | line {digits blanks extension : Bytes} (hsize : SizeSpells size digits)
      (hlimit : size ≤ Numeral.greatest 64) (hblanks : ∀ b ∈ blanks, isBlankByte b = true)
      (hextension : ExtensionSpells length extension) :
      SizeLineSpells size length (digits ++ (blanks ++ extension))

/-- So many lines that are not empty, and the empty line after them. -/
inductive StrictLines : Nat → Bytes → Prop
  | nil {text : Bytes} (hend : StrictSpells [] text) : StrictLines 0 text
  | cons {count : Nat} {line first rest : Bytes} (hline : StrictSpells line first)
      (hne : line ≠ []) (hlines : StrictLines count rest) : StrictLines (count + 1) (first ++ rest)

/-- The lines after the last chunk.  They are the lines of a chunked body, and they hold fields that
are spelled like those of a head, not more than there are lines. -/
inductive TrailerSpells : Bytes → Prop
  | lines {count : Nat} {fields : List Field} {first rest : Bytes}
      (hlines : StrictLines count (first ++ rest)) (hcount : count < mostFields)
      (hlimit : (first ++ rest).length < Chunk.trailerLimit) (hfields : FieldsSpell fields first)
      (hroom : fields.length ≤ count) : TrailerSpells (first ++ rest)

/-- A chunked body after so many bytes of extensions. -/
inductive ChunksSpell : Nat → Bytes → Bytes → Prop
  | last {spent length : Nat} {line first rest : Bytes} (hline : StrictSpells line first)
      (hsize : SizeLineSpells 0 length line) (hspent : spent + length < Chunk.extensionLimit)
      (htrailer : TrailerSpells rest) : ChunksSpell spent [] (first ++ rest)
  | chunk {spent length : Nat} {line first data body rest : Bytes}
      (hline : StrictSpells line first) (hsize : SizeLineSpells data.length length line)
      (hspent : spent + length < Chunk.extensionLimit) (hdata : data ≠ [])
      (hrest : ChunksSpell (spent + length) body rest) :
      ChunksSpell spent (data ++ body) (first ++ (data ++ 13 :: 10 :: rest))

/-- Bodies whose end is announced. -/
inductive BodySpells : Framing → Bytes → Bytes → Prop
  | empty : BodySpells .empty [] []
  | chunked {body text : Bytes} (hchunks : ChunksSpell 0 body text) : BodySpells .chunked body text
  | length (body : Bytes) : BodySpells (.length body.length) body body

/-! ## Answers -/

/-- An answer that ends where its head announces it. -/
inductive AnswerSpells : Nat → Bytes → Bytes → Prop
  | announced {head : Head} {framing : Framing} {body first rest : Bytes}
      (hhead : FinalSpells head first) (hframing : Framing.ofHead head = some framing)
      (hbody : BodySpells framing body rest) : AnswerSpells head.status body (first ++ rest)

/-- Everything up to the close of a connection has a status and a body.  What follows an announced
end does not count. -/
inductive WholeSpells : Nat → Bytes → Bytes → Prop
  | announced {status : Nat} {body text : Bytes} (hanswer : AnswerSpells status body text)
      (rest : Bytes) : WholeSpells status body (text ++ rest)
  | untilClose {head : Head} {first : Bytes} (hhead : FinalSpells head first)
      (hframing : Framing.ofHead head = some .untilClose) (body : Bytes) :
      WholeSpells head.status body (first ++ body)

/-- A head has arrived that tells how the body is framed. -/
inductive HeadArrives : Bytes → Prop
  | head {head : Head} {framing : Framing} {first : Bytes} (hhead : FinalSpells head first)
      (hframing : Framing.ofHead head = some framing) (rest : Bytes) : HeadArrives (first ++ rest)

end Courier.Http
