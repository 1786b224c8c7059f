import Courier.Json.Reader

/-!
# Skipping values

A value that nobody asked for is only checked for its form: texts need not be UTF-8 nor surrogates
paired, numbers may be of any size, and nothing limits the nesting.
-/

namespace Courier

namespace Json

namespace Skip

open Reader

/-- The text up to its closing quotation mark. -/
def text : Nat → Bytes → Except Fault Bytes
  | 0, s => faultAt .endInString s
  | _ + 1, [] => faultAt .endInString []
  | fuel + 1, b :: s =>
    if b = 34 then .ok s
    else if b = 92 then
      match s with
      | [] => faultAt .endInString []
      | c :: s =>
        match Char.ofNat c.toNat with
        | '"' | '\\' | '/' | 'b' | 'f' | 'n' | 'r' | 't' => text fuel s
        | 'u' => do
          let (_, s) ← hexFour s
          text fuel s
        | _ => faultAt .invalidEscape s
    else if b < 32 then faultAt .controlCharacter (b :: s)
    else text fuel s

def exponent (s : Bytes) : Except Fault Bytes :=
  let s := match s with
    | 43 :: s | 45 :: s => s
    | s => s
  match s with
  | [] => faultAt .invalidNumber []
  | b :: s => if isDigit b then .ok (s.dropWhile isDigit) else faultAt .invalidNumber s

def fraction (s : Bytes) : Except Fault Bytes :=
  match s with
  | [] => faultNext .invalidNumber []
  | b :: _ =>
    if isDigit b then
      match s.dropWhile isDigit with
      | 101 :: s | 69 :: s => exponent s
      | s => .ok s
    else faultNext .invalidNumber s

def afterDigits : Bytes → Except Fault Bytes
  | 46 :: s => fraction s
  | 101 :: s | 69 :: s => exponent s
  | s => .ok s

/-- A number after its sign. -/
def number : Bytes → Except Fault Bytes
  | [] => faultAt .invalidNumber []
  | b :: s =>
    if b = 48 then
      match s with
      | [] => .ok []
      | d :: s => if isDigit d then faultNext .invalidNumber (d :: s) else afterDigits (d :: s)
    else if isDigit b then afterDigits (s.dropWhile isDigit)
    else faultAt .invalidNumber s

/-- A container that is still open. -/
inductive Frame where
  | list
  | object

/-- A value, given the containers around it, innermost first.  Every turn takes at least one byte. -/
def value : Nat → List Frame → Bytes → Except Fault Bytes
  | 0, _, s => faultNext .endInValue s
  | fuel + 1, frames, s =>
    match skipSpace s with
    | [] => faultNext .endInValue []
    | b :: s =>
      match Char.ofNat b.toNat with
      | 'n' => do after fuel frames true (← word (Utf8.encode "ull") s)
      | 't' => do after fuel frames true (← word (Utf8.encode "rue") s)
      | 'f' => do after fuel frames true (← word (Utf8.encode "alse") s)
      | '-' => do after fuel frames true (← number s)
      | '"' => do after fuel frames true (← text s.length.succ s)
      | '[' => after fuel (.list :: frames) false s
      | '\x7b' => after fuel (.object :: frames) false s
      | _ =>
        if isDigit b then do after fuel frames true (← number (b :: s))
        else faultNext .expectedValue (b :: s)
where
  /-- Between values: the next item or member, or ends of containers.  `mayPart` tells whether a
  comma may come, which it may not right after an opening. -/
  after : Nat → List Frame → Bool → Bytes → Except Fault Bytes
    | _, [], _, s => .ok s
    | 0, _, _, s => faultNext .endInValue s
    | fuel + 1, frame :: frames, mayPart, s =>
      match frame, skipSpace s with
      | .list, [] => faultNext .endInList []
      | .object, [] => faultNext .endInObject []
      | .list, b :: s =>
        if b = 93 then after fuel frames true s
        else if ¬ mayPart then value fuel (.list :: frames) (b :: s)
        else if b = 44 then value fuel (.list :: frames) s
        else faultNext .expectedCommaOrBracket (b :: s)
      | .object, b :: s =>
        if b = 125 then after fuel frames true s
        else if ¬ mayPart then key fuel frames (b :: s)
        else if b = 44 then key fuel frames s
        else faultNext .expectedCommaOrBrace (b :: s)
  /-- A key, its colon and its value. -/
  key (fuel : Nat) (frames : List Frame) (s : Bytes) : Except Fault Bytes :=
    match skipSpace s with
    | [] => faultNext .endInObject []
    | b :: s =>
      if b = 34 then do
        let s ← text s.length.succ s
        let s ← colon s
        value fuel (.object :: frames) s
      else faultNext .keyNotString (b :: s)

end Skip

/-- The text after a value. -/
def skip (s : Bytes) : Except Fault Bytes := Skip.value (2 * s.length + 2) [] s

end Json

end Courier
