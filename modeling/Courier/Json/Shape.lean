import Courier.Json.Skip

/-!
# Values of a fixed shape

Readers for texts, whole numbers, named variants and records.  A record may be written as an object,
whose members come in any order and of which foreign ones are skipped, or as a list of its fields in
order.  A fault of meaning inside a container is placed where the container's reader stopped, one
closing mark and the white space before it included.
-/

namespace Courier

namespace Json

namespace Reader

/-- What a value of the wrong kind is; containers are not entered. -/
def found (s : Bytes) : Except Fault (Found × Bytes) :=
  match s with
  | [] => faultNext .expectedValue []
  | b :: rest =>
    match Char.ofNat b.toNat with
    | 'n' => (word (Utf8.encode "ull") rest).map fun s ↦ (.null, s)
    | 't' => (word (Utf8.encode "rue") rest).map fun s ↦ (.bool true, s)
    | 'f' => (word (Utf8.encode "alse") rest).map fun s ↦ (.bool false, s)
    | '-' => (Reader.number true rest).map fun (n, s) ↦ (ofNumber n, s)
    | '"' => (stringBody rest).map fun (t, s) ↦ (.string t, s)
    | '[' => .ok (.sequence, s)
    | '\x7b' => .ok (.map, s)
    | _ =>
      if isDigit b then (Reader.number false s).map fun (n, s) ↦ (ofNumber n, s)
      else faultNext .expectedValue s
where
  ofNumber : Number → Found
    | .integer n => .integer n
    | .real negative m => .real negative m

/-- The fault of a value of the wrong kind. -/
def mismatch {α : Type} (expected : String) (s : Bytes) : Except Fault α := do
  let (what, rest) ← found s
  faultAt (.wrongType what expected) rest

/-- A text. -/
def text (expected : String) : Reader String := fun s ↦
  match skipSpace s with
  | [] => faultNext .endInValue []
  | b :: s => if b = 34 then stringBody s else mismatch expected (b :: s)

/-- A whole number up to a limit. -/
def whole (expected : String) (limit : Nat) : Reader Nat := fun s ↦ do
  let (n, rest) ← match skipSpace s with
    | [] => faultNext .endInValue []
    | b :: s =>
      if b = 45 then Reader.number true s
      else if isDigit b then Reader.number false (b :: s)
      else mismatch expected (b :: s)
  match n with
  | .integer value =>
    if 0 ≤ value ∧ value ≤ limit then .ok (value.toNat, rest)
    else faultAt (.wrongValue (.integer value) expected) rest
  | .real negative m => faultAt (.wrongType (.real negative m) expected) rest

/-- A value that may be null. -/
def optional {α : Type} (reader : Reader α) : Reader (Option α) := fun s ↦
  match skipSpace s with
  | 110 :: s => (word (Utf8.encode "ull") s).map fun s ↦ (none, s)
  | s => (reader s).map fun (a, s) ↦ (some a, s)

/-- A list. -/
def list {α : Type} (item : Reader α) : Reader (List α) := fun s ↦
  match skipSpace s with
  | [] => faultNext .endInValue []
  | b :: s =>
    if b = 91 then do
      let (found, s) ← items item (s.length + 1) true s
      .ok (found, ← closeList s)
    else mismatch "a sequence" (b :: s)

/-! ## Variants -/

/-- The variant of a name. -/
def named {α : Type} (variants : List (String × α)) (name : String) : Except Cause α :=
  match variants.find? (·.1 == name) with
  | some (_, a) => .ok a
  | none => .error (.unknownVariant name (variants.map (·.1)))

/-- The name of a variant. -/
def identifier {α : Type} (variants : List (String × α)) : Reader α := fun s ↦ do
  let (name, rest) ← text "variant identifier" s
  match named variants name with
  | .ok a => .ok (a, rest)
  | .error cause => faultAt cause rest

/-- Null. -/
def unit (s : Bytes) : Except Fault Bytes :=
  match skipSpace s with
  | [] => faultNext .endInValue []
  | 110 :: s => word (Utf8.encode "ull") s
  | s => mismatch "unit" s

/-- A variant, as its name or as an object whose only key is the name and whose value is null. -/
def variant {α : Type} (variants : List (String × α)) : Reader α := fun s ↦
  match skipSpace s with
  | [] => faultNext .endInValue []
  | b :: s =>
    if b = 34 then identifier variants (b :: s)
    else if b = 123 then do
      let (a, s) ← onlyKey s
      let s ← colon s
      let s ← unit s
      match skipSpace s with
      | [] => faultAt .endInObject []
      | 125 :: s => .ok (a, s)
      | s => faultAt .expectedValue s
    else faultNext .expectedValue (b :: s)
where
  /-- The key, which has to be there. -/
  onlyKey (s : Bytes) : Except Fault (α × Bytes) :=
    match skipSpace s with
    | [] => faultNext .endInObject []
    | b :: s =>
      if b = 34 then identifier variants (b :: s)
      else if b = 125 then faultNext .expectedValue (b :: s)
      else faultNext .keyNotString (b :: s)

/-! ## Records -/

/-- The place after an object in which a fault arose. -/
def leaveObject (s : Bytes) : Bytes :=
  match skipSpace s with
  | 125 :: s => s
  | s => s

/-- The place after a list in which a fault arose. -/
def leaveList (s : Bytes) : Bytes :=
  match skipSpace s with
  | 93 :: s => s
  | 44 :: s => skipSpace s
  | s => s

/-- A field of a record with its place in the state that the record is read into. -/
structure Slot (σ : Type) where
  name : String
  isSet : σ → Bool
  read : σ → Reader σ

/-- A field that fills one optional place of the state. -/
def slot {σ α : Type} (name : String) (reader : Reader α) (get : σ → Option α) (set : σ → α → σ) :
    Slot σ where
  name := name
  isSet soFar := (get soFar).isSome
  read soFar s := (reader s).map fun (a, s) ↦ (set soFar a, s)

/-- The content of a place, or the name of the field that is missing. -/
def need {α : Type} (name : String) : Option α → Except String α
  | some a => .ok a
  | none => .error name

/-- `n` and the word for that many elements. -/
def elements (n : Nat) : String := toString n ++ if n = 1 then " element" else " elements"

/-- Members up to the closing brace, which is left. -/
def fieldMembers {σ : Type} (fields : List (Slot σ)) : Nat → Bool → σ → Reader σ
  | 0, _, soFar, s => .ok (soFar, s)
  | fuel + 1, first, soFar, s => do
    let (more, s) ← nextMember first s
    if more then
      let (key, s) ← stringBody s
      match fields.find? (·.name == key) with
      | none => fieldMembers fields fuel false soFar (← skip (← colon s))
      | some field =>
        if field.isSet soFar then faultHere (.duplicateField key) s
        else
          let (soFar, s) ← field.read soFar (← colon s)
          fieldMembers fields fuel false soFar s
    else .ok (soFar, s)

/-- The fields in order, as many as there are items, up to the closing bracket, which is left. -/
def fieldItems {σ : Type} : List (Slot σ) → Bool → σ → Reader σ
  | [], _, soFar, s => .ok (soFar, s)
  | field :: rest, first, soFar, s => do
    let (more, s) ← nextItem first s
    if more then
      let (soFar, s) ← field.read soFar s
      fieldItems rest false soFar s
    else .ok (soFar, s)

/-- A record that `build` makes from the state after all fields; it names the first field in order
that is missing. -/
def record {σ α : Type} (title : String) (fields : List (Slot σ)) (empty : σ)
    (build : σ → Except String α) : Reader α := fun s ↦
  match skipSpace s with
  | [] => faultNext .endInValue []
  | b :: s =>
    if b = 123 then do
      let (a, s) ← (do
        let (filled, s) ← fieldMembers fields (s.length + 1) true empty s
        match build filled with
        | .ok a => .ok (a, s)
        | .error name => faultHere (.missingField name) s).mapError (Fault.settle leaveObject)
      .ok (a, ← closeObject s)
    else if b = 91 then do
      let (a, s) ← (do
        let (filled, s) ← fieldItems fields true empty s
        match build filled with
        | .ok a => .ok (a, s)
        | .error name =>
          faultHere (.wrongLength (fields.findIdx fun (field : Slot σ) ↦ field.name == name)
            (title ++ " with " ++ elements fields.length)) s).mapError (Fault.settle leaveList)
      .ok (a, ← closeList s)
    else mismatch title (b :: s)

end Reader

open Reader in
/-- A whole text read by one reader. -/
def readAs {α : Type} (reader : Reader α) (source : Bytes) : Except Fault α := do
  let (a, rest) ← reader source
  finish rest
  .ok a

end Json

end Courier
