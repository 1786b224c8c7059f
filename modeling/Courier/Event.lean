import Courier.Json.Reader
import Courier.Problem

/-!
# Events

A payload is the JSON text of an object.  Four of its members count: `type`, `id` and `source` are
texts and may be absent or null, and `data` is any value, an empty object when absent.  Only the data
are sent on, as their canonical compact text.
-/

namespace Courier

structure Event where
  type : String
  id : Option String
  source : Option String
  data : Json

namespace Event

/-- Why a payload is no event. -/
inductive Defect where
  | notJson (source : Bytes) (fault : Json.Fault)
  | notObject
  | notText (key : String) (found : Json)

def Defect.detail : Defect → String
  | .notJson source fault => fault.message source
  | .notObject => "top-level value is not an object"
  | .notText key found => "`" ++ key ++ "` must be a string, got " ++ found.text

def Defect.problem (defect : Defect) : Problem := .malformedPayload defect.detail

/-- A text member that may be absent or null. -/
def textMember (members : List Json.Member) (key : String) : Except Defect (Option String) :=
  match Json.lookup key members with
  | none => .ok none
  | some .null => .ok none
  | some (.string text) => .ok (some text)
  | some found => .error (.notText key found.canonical)

/-- The event that an object stands for. -/
def ofMembers (members : List Json.Member) : Except Defect Event := do
  let type ← textMember members "type"
  let id ← textMember members "id"
  let source ← textMember members "source"
  let data := (Json.lookup "data" members).getD (.object [])
  .ok ⟨type.getD "", id, source, data.canonical⟩

def decode (payload : Bytes) : Except Defect Event :=
  match Json.read payload with
  | .error fault => .error (.notJson payload fault)
  | .ok (.object members) => ofMembers members
  | .ok _ => .error .notObject

/-- The bytes that are sent on. -/
def body (event : Event) : Bytes := event.data.canonical.bytes

end Event

end Courier
