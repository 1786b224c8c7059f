import Courier.Binary64.Basic

/-!
# JSON values

A value is a tree whose objects keep their members as written, repeated keys included.
`Json.canonical` is the value that such a tree stands for: at every depth the members are sorted by
key and of a repeated key the last member counts.
-/

namespace Courier

/-- A JSON number: an integer, or a finite binary64 value. -/
inductive Json.Number where
  | integer (value : Int)
  | real (negative : Bool) (magnitude : Magnitude)
  deriving DecidableEq

inductive Json where
  | null
  | bool (value : Bool)
  | number (value : Json.Number)
  | string (value : String)
  | array (items : List Json)
  | object (members : List (String × Json))

namespace Json

abbrev Member := String × Json

/-- Puts a member in its place among sorted members; an equal key is replaced. -/
def insertMember (key : String) (value : Json) : List Member → List Member
  | [] => [(key, value)]
  | (k, v) :: rest =>
    if key < k then (key, value) :: (k, v) :: rest
    else if key = k then (key, value) :: rest
    else (k, v) :: insertMember key value rest

/-- Sorted members, the last one of each key. -/
def sortMembers (members : List Member) : List Member :=
  members.foldl (fun sorted member ↦ insertMember member.1 member.2 sorted) []

mutual

def canonical : Json → Json
  | .array items => .array (canonicalItems items)
  | .object members => .object (sortMembers (canonicalMembers members))
  | value => value

def canonicalItems : List Json → List Json
  | [] => []
  | item :: rest => item.canonical :: canonicalItems rest

def canonicalMembers : List Member → List Member
  | [] => []
  | (key, value) :: rest => (key, value.canonical) :: canonicalMembers rest

end

/-- The last member of a key. -/
def lookup (key : String) : List Member → Option Json
  | [] => none
  | (k, v) :: rest =>
    match lookup key rest with
    | some later => some later
    | none => if k = key then some v else none

end Json

end Courier
