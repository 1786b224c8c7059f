import Courier.Http.Field

/-!
# Heads of answers

A head is a status line and header fields up to an empty line.  An answer may begin with heads of
interim answers, whose statuses are below 200; the first other head is the final one, and 101 counts
as final.
-/

namespace Courier

namespace Http

structure Head where
  /-- The minor version after `HTTP/1.`. -/
  minor : Nat
  status : Nat
  fields : List Field
  deriving DecidableEq

namespace Head

def digitOf? (b : UInt8) : Option Nat := if 48 ≤ b ∧ b ≤ 57 then some (b.toNat - 48) else none

/-- A status of three digits, the first of which is not zero. -/
def readStatus (a b c : UInt8) : Option Nat := do
  let hundreds ← digitOf? a
  let tens ← digitOf? b
  let ones ← digitOf? c
  if hundreds = 0 then none else some (hundreds * 100 + tens * 10 + ones)

/-- The minor version and the status of a status line; the reason is optional and does not count. -/
def readStatusLine : Bytes → Option (Nat × Nat)
  | 72 :: 84 :: 84 :: 80 :: 47 :: 49 :: 46 :: v :: 32 :: a :: b :: c :: rest => do
    let minor ← if v = 48 then some 0 else if v = 49 then some 1 else none
    let status ← readStatus a b c
    match rest with
    | [] => some (minor, status)
    | 32 :: reason => if reason.all isValueByte then some (minor, status) else none
    | _ => none
  | _ => none

/-- What follows the empty lines at the start. -/
def skipEmpty : Bytes → Bytes
  | 13 :: 10 :: rest => skipEmpty rest
  | 10 :: rest => skipEmpty rest
  | bytes => bytes

/-- One head and what follows it. -/
def read (bytes : Bytes) : Option (Head × Bytes) := do
  let (line, rest) ← readLine (skipEmpty bytes)
  let (minor, status) ← readStatusLine line
  let (fields, rest) ← readFields mostFields rest
  some (⟨minor, status, fields⟩, rest)

theorem length_skipEmpty_le (bytes : Bytes) : (skipEmpty bytes).length ≤ bytes.length := by
  fun_induction skipEmpty bytes with
  | case1 rest ih => simp only [List.length_cons]; omega
  | case2 rest ih => simp only [List.length_cons]; omega
  | case3 => exact Nat.le_refl _

theorem length_of_read {bytes rest : Bytes} {head : Head} (h : read bytes = some (head, rest)) :
    rest.length < bytes.length := by
  simp only [read, Option.bind_eq_bind, Option.bind_eq_some_iff, Prod.exists, Option.some.injEq,
    Prod.mk.injEq] at h
  obtain ⟨_, _, hline, _, _, -, _, _, hfields, -, rfl⟩ := h
  have := length_of_readLine hline
  have := length_of_readFields hfields
  have := length_skipEmpty_le bytes
  omega

def isInterim (head : Head) : Bool := head.status < 200 && head.status ≠ 101

/-- The final head and what follows it. -/
def final (bytes : Bytes) : Option (Head × Bytes) :=
  match _h : read bytes with
  | none => none
  | some (head, rest) => if head.isInterim then final rest else some (head, rest)
termination_by bytes.length
decreasing_by exact length_of_read _h

end Head

end Http

end Courier
