import Courier.Text.Utf8

/-!
# Header fields

A field has a token for its name and a value of visible bytes, blanks and bytes beyond ASCII.  On the
wire a line ends with a line feed, before which one carriage return does not count.
-/

namespace Courier

namespace Http

/-- A name in lower case and a value without outer blanks. -/
abbrev Field := Bytes × Bytes

def lowerByte (b : UInt8) : UInt8 := if 65 ≤ b ∧ b ≤ 90 then b + 32 else b

def lower (bytes : Bytes) : Bytes := bytes.map lowerByte

def tokenMarks : Bytes := Utf8.encode "!#$%&'*+-.^_`|~"

/-- Letters, digits and some marks. -/
def isTokenByte (b : UInt8) : Bool :=
  (48 ≤ b && b ≤ 57) || (65 ≤ b && b ≤ 90) || (97 ≤ b && b ≤ 122) || tokenMarks.contains b

def isValueByte (b : UInt8) : Bool := b == 9 || (32 ≤ b && b != 127)

def isBlankByte (b : UInt8) : Bool := b == 9 || b == 32

def longestName : Nat := 65535

def validName (name : Bytes) : Bool :=
  !name.isEmpty && name.length ≤ longestName && name.all isTokenByte

def validValue (value : Bytes) : Bool := value.all isValueByte

def trimBlanks (bytes : Bytes) : Bytes :=
  ((bytes.dropWhile isBlankByte).reverse.dropWhile isBlankByte).reverse

/-- The bytes before the first line feed and those after it. -/
def cutLine : Bytes → Option (Bytes × Bytes)
  | [] => none
  | b :: rest =>
    if b = 10 then some ([], rest) else (cutLine rest).map fun (line, rest) ↦ (b :: line, rest)

/-- The bytes without a carriage return at their end. -/
def chomp (line : Bytes) : Bytes := if line.getLast? = some 13 then line.dropLast else line

/-- The first line without its end, and what follows it. -/
def readLine (bytes : Bytes) : Option (Bytes × Bytes) :=
  (cutLine bytes).map fun (line, rest) ↦ (chomp line, rest)

/-- One field from its line. -/
def readField (line : Bytes) : Option Field :=
  let name := line.takeWhile (· ≠ 58)
  match line.dropWhile (· ≠ 58) with
  | [] => none
  | _ :: value =>
    if validName name && validValue value then some (lower name, trimBlanks value) else none

/-- Fields up to an empty line, at most `room` of them, and what follows. -/
def readFields : Nat → Bytes → Option (List Field × Bytes)
  | room, bytes =>
    match readLine bytes with
    | none => none
    | some ([], rest) => some ([], rest)
    | some (line, rest) =>
      match room with
      | 0 => none
      | room + 1 => do
        let field ← readField line
        let (fields, rest) ← readFields room rest
        some (field :: fields, rest)

/-- The most fields of one message. -/
def mostFields : Nat := 100

/-- The values of a name in their order. -/
def valuesOf (name : String) (fields : List Field) : List Bytes :=
  (fields.filter fun field ↦ field.1 = Utf8.encode name).map Prod.snd

theorem length_of_cutLine {bytes line rest : Bytes} (h : cutLine bytes = some (line, rest)) :
    rest.length < bytes.length := by
  induction bytes generalizing line with
  | nil => simp [cutLine] at h
  | cons b tail ih =>
    simp only [cutLine] at h
    split at h
    · simp only [Option.some.injEq, Prod.mk.injEq] at h
      simp [← h.2]
    · simp only [Option.map_eq_some_iff, Prod.mk.injEq] at h
      obtain ⟨⟨line', rest'⟩, htail, -, rfl⟩ := h
      exact Nat.lt_succ_of_lt (ih htail)

theorem length_of_readLine {bytes line rest : Bytes} (h : readLine bytes = some (line, rest)) :
    rest.length < bytes.length := by
  simp only [readLine, Option.map_eq_some_iff, Prod.mk.injEq] at h
  obtain ⟨⟨line', rest'⟩, hcut, -, rfl⟩ := h
  exact length_of_cutLine hcut

theorem length_of_readFields {room : Nat} {bytes rest : Bytes} {fields : List Field}
    (h : readFields room bytes = some (fields, rest)) : rest.length < bytes.length := by
  induction room generalizing bytes fields with
  | zero =>
    rw [readFields] at h
    split at h
    · simp at h
    · rename_i hline
      simp only [Option.some.injEq, Prod.mk.injEq] at h
      rw [← h.2]
      exact length_of_readLine hline
    · simp at h
  | succ room ih =>
    rw [readFields] at h
    split at h
    · simp at h
    · rename_i hline
      simp only [Option.some.injEq, Prod.mk.injEq] at h
      rw [← h.2]
      exact length_of_readLine hline
    · rename_i line rest' _ hline
      simp only [Option.bind_eq_bind, Option.bind_eq_some_iff, Prod.exists, Option.some.injEq,
        Prod.mk.injEq] at h
      obtain ⟨_, _, -, _, _, hrest, -, rfl⟩ := h
      exact Nat.lt_trans (ih hrest) (length_of_readLine hline)

end Http

end Courier
