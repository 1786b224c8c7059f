import Courier.Http.Field
import Courier.Text.Numeral

/-!
# Chunked bodies

A chunk is a line with its size in hexadecimal digits, as many bytes, and the end of a line.  A
chunk of size zero ends the body and is followed by trailer fields up to an empty line.  Here lines
have to end with both a carriage return and a line feed.  A size line may carry an extension after a
semicolon, but all extensions of a body together stay below a limit, and so does its trailer.
-/

namespace Courier

namespace Http

namespace Chunk

/-- Extension bytes of a whole body stay below this number. -/
def extensionLimit : Nat := 16384

/-- The bytes of a trailer stay below this number. -/
def trailerLimit : Nat := 16384

/-- The bytes before the first carriage return, which a line feed has to follow, and those after
both. -/
def cutStrict : Bytes → Option (Bytes × Bytes)
  | 13 :: 10 :: rest => some ([], rest)
  | 13 :: _ => none
  | b :: rest => (cutStrict rest).map fun (line, rest) ↦ (b :: line, rest)
  | [] => none

def digit? (b : UInt8) : Option Nat :=
  let n := b.toNat
  if 48 ≤ n ∧ n ≤ 57 then some (n - 48)
  else if 65 ≤ n ∧ n ≤ 70 then some (n - 55)
  else if 97 ≤ n ∧ n ≤ 102 then some (n - 87)
  else none

/-- A size of at most 64 bits. -/
def readSize (digits : Bytes) : Option Nat := do
  if digits.isEmpty then none
  else
    let n ← digits.foldlM (fun n b ↦ (digit? b).map (n * 16 + ·)) 0
    if n ≤ Numeral.greatest 64 then some n else none

/-- Size and length of the extension of a size line. -/
def readSizeLine (line : Bytes) : Option (Nat × Nat) := do
  let size ← readSize (line.takeWhile fun b ↦ (digit? b).isSome)
  match (line.dropWhile fun b ↦ (digit? b).isSome).dropWhile isBlankByte with
  | [] => some (size, 0)
  | 59 :: extension => if extension.contains 10 then none else some (size, extension.length)
  | _ => none

/-- The chunk of a size, and what follows its end of line. -/
def readData (size : Nat) (bytes : Bytes) : Option (Bytes × Bytes) :=
  if bytes.length < size then none
  else
    match bytes.drop size with
    | 13 :: 10 :: rest => some (bytes.take size, rest)
    | _ => none

/-- The number of lines up to an empty one, at most `room` of them, and what follows. -/
def cutTrailer : Nat → Bytes → Option (Nat × Bytes)
  | room, bytes =>
    match cutStrict bytes with
    | none => none
    | some ([], rest) => some (0, rest)
    | some (_, rest) =>
      match room with
      | 0 => none
      | room + 1 => (cutTrailer room rest).map fun (count, rest) ↦ (count + 1, rest)

/-- Whether the bytes start with a trailer.  The fields in its lines are read like those of a head,
where a line feed alone ends a line too; there may not be more fields than lines. -/
def endsWell (bytes : Bytes) : Bool :=
  match cutTrailer (mostFields - 1) bytes with
  | none => false
  | some (count, rest) =>
    let trailer := bytes.take (bytes.length - rest.length)
    trailer.length < trailerLimit && (readFields count trailer).isSome

theorem length_of_cutStrict {bytes line rest : Bytes} (h : cutStrict bytes = some (line, rest)) :
    rest.length < bytes.length := by
  fun_induction cutStrict bytes generalizing line with
  | case1 tail =>
    simp only [Option.some.injEq, Prod.mk.injEq] at h
    rw [← h.2]
    simp only [List.length_cons]
    omega
  | case2 => simp at h
  | case3 b tail _ _ ih =>
    simp only [Option.map_eq_some_iff, Prod.mk.injEq] at h
    obtain ⟨⟨line', rest'⟩, htail, -, rfl⟩ := h
    exact Nat.lt_succ_of_lt (ih htail)
  | case4 => simp at h

theorem length_of_readData {size : Nat} {bytes data rest : Bytes}
    (h : readData size bytes = some (data, rest)) : rest.length ≤ bytes.length := by
  simp only [readData] at h
  split at h
  · simp at h
  · split at h
    · rename_i heq
      simp only [Option.some.injEq, Prod.mk.injEq] at h
      have := congrArg List.length heq
      simp only [List.length_drop, List.length_cons] at this
      rw [← h.2]
      omega
    · simp at h

/-- The body, if it ends; `spent` counts the extension bytes so far. -/
def read (spent : Nat) (bytes : Bytes) : Option Bytes :=
  match _hline : cutStrict bytes with
  | none => none
  | some (line, rest) =>
    match readSizeLine line with
    | none => none
    | some (size, extension) =>
      if extensionLimit ≤ spent + extension then none
      else if size = 0 then if endsWell rest then some [] else none
      else
        match _hdata : readData size rest with
        | none => none
        | some (data, rest) => (read (spent + extension) rest).map (data ++ ·)
termination_by bytes.length
decreasing_by
  exact Nat.lt_of_le_of_lt (length_of_readData _hdata) (length_of_cutStrict _hline)

end Chunk

end Http

end Courier
