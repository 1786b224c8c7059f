import Courier.Json.Printer
import Mathlib.Algebra.Group.Int.Defs
import Mathlib.Algebra.Group.Nat.Defs
import Mathlib.Data.List.Forall2

/-!
# Texts of JSON values

Which texts a value has: members may stand in any order, white space may stand around every part,
and each character of a string may be written plainly or by any of its escapes.  An integer has one
text only; zero has no sign.  The relations know nothing of how texts are read.
-/

namespace Courier.Json

/-- White space without meaning. -/
def IsBlank (text : Bytes) : Prop := ∀ b ∈ text, b = 32 ∨ b = 9 ∨ b = 10 ∨ b = 13

/-! ## Strings -/

/-- A hexadecimal digit in both cases. -/
def hexForms (value : Nat) : List UInt8 :=
  [UInt8.ofNat (Nat.digitChar value).toNat, UInt8.ofNat (Nat.digitChar value).toUpper.toNat]

/-- Four hexadecimal digits. -/
inductive HexSpells (n : Nat) : Bytes → Prop
  | digits {a b c d : UInt8} (ha : a ∈ hexForms (n / 4096 % 16)) (hb : b ∈ hexForms (n / 256 % 16))
      (hc : c ∈ hexForms (n / 16 % 16)) (hd : d ∈ hexForms (n % 16)) : HexSpells n [a, b, c, d]

/-- The letters after a reverse solidus that stand for one character each. -/
def shortEscapes : List (UInt8 × Char) :=
  [(34, '"'), (92, '\\'), (47, '/'), (98, '\x08'), (102, '\x0c'), (110, '\n'), (114, '\r'),
    (116, '\t')]

/-- A character beyond U+FFFF is escaped as the two halves of its surrogate pair. -/
inductive CharSpells : Char → Bytes → Prop
  | plain {c : Char} (hcontrol : 32 ≤ c.toNat) (hquote : c ≠ '"') (hsolidus : c ≠ '\\') :
      CharSpells c (Utf8.encodeChar c)
  | short {letter : UInt8} {c : Char} (hshort : (letter, c) ∈ shortEscapes) :
      CharSpells c [92, letter]
  | basic {c : Char} {digits : Bytes} (hbasic : c.toNat < 0x10000)
      (hdigits : HexSpells c.toNat digits) : CharSpells c (92 :: 117 :: digits)
  | pair {c : Char} {high low : Bytes} (hbeyond : 0x10000 ≤ c.toNat)
      (hhigh : HexSpells (0xD800 + (c.toNat - 0x10000) / 1024) high)
      (hlow : HexSpells (0xDC00 + (c.toNat - 0x10000) % 1024) low) :
      CharSpells c (92 :: 117 :: (high ++ 92 :: 117 :: low))

inductive StringSpells (s : String) : Bytes → Prop
  | quoted {pieces : List Bytes} (hpieces : List.Forall₂ CharSpells s.toList pieces) :
      StringSpells s (34 :: (pieces.flatten ++ [34]))

/-- Most strings may be written as they are. -/
theorem stringSpells_encode {s : String}
    (hs : (s.toList.all fun c ↦ 32 ≤ c.toNat && c != '"' && c != '\\') = true) :
    StringSpells s (34 :: (Utf8.encode s ++ [34])) := by
  have hpieces : List.Forall₂ CharSpells s.toList (s.toList.map Utf8.encodeChar) := by
    rw [List.forall₂_map_right_iff, List.forall₂_same]
    intro c hc
    have hc := List.all_eq_true.mp hs c hc
    simp only [Bool.and_eq_true, decide_eq_true_eq, bne_iff_ne] at hc
    exact .plain hc.1.1 hc.1.2 hc.2
  exact .quoted hpieces

/-! ## Values -/

/-- Parts with commas between them. -/
inductive Listed {α : Type} (spells : α → Bytes → Prop) : List α → Bytes → Prop
  | none {blank : Bytes} (hblank : IsBlank blank) : Listed spells [] blank
  | last {a : α} {before text after : Bytes} (hbefore : IsBlank before) (htext : spells a text)
      (hafter : IsBlank after) : Listed spells [a] (before ++ (text ++ after))
  | cons {a next : α} {rest : List α} {before text after more : Bytes} (hbefore : IsBlank before)
      (htext : spells a text) (hafter : IsBlank after)
      (hmore : Listed spells (next :: rest) more) :
      Listed spells (a :: next :: rest) (before ++ (text ++ (after ++ 44 :: more)))

theorem Listed.length_le {α : Type} {spells : α → Bytes → Prop} {l : List α} {text : Bytes}
    (hlisted : Listed spells l text) : l.length ≤ text.length + 1 := by
  induction hlisted with
  | none => exact Nat.zero_le _
  | last => exact Nat.le_add_left 1 _
  | cons _ _ _ _ ih =>
    simp only [List.length_cons, List.length_append] at ih ⊢
    omega

mutual

inductive Spells : Json → Bytes → Prop
  | null : Spells .null (Utf8.encode "null")
  | yes : Spells (.bool true) (Utf8.encode "true")
  | no : Spells (.bool false) (Utf8.encode "false")
  | integer (value : Int) :
      Spells (.number (.integer value)) (Utf8.encodeChars (Number.integer value).chars)
  | string {s : String} {text : Bytes} (hstring : StringSpells s text) : Spells (.string s) text
  | array {items : List Json} {text : Bytes} (hitems : Listed Spells items text) :
      Spells (.array items) (91 :: (text ++ [93]))
  | object {members written : List Member} {text : Bytes} (horder : written.Perm members)
      (hwritten : Listed MemberSpells written text) :
      Spells (.object members) (123 :: (text ++ [125]))

inductive MemberSpells : Member → Bytes → Prop
  | colon {key : String} {value : Json} {name before after text : Bytes}
      (hname : StringSpells key name) (hbefore : IsBlank before) (hafter : IsBlank after)
      (hvalue : Spells value text) :
      MemberSpells (key, value) (name ++ (before ++ 58 :: (after ++ text)))

end

/-- A whole text of a value. -/
inductive TextOf (value : Json) : Bytes → Prop
  | padded {before text after : Bytes} (hbefore : IsBlank before) (htext : Spells value text)
      (hafter : IsBlank after) : TextOf value (before ++ (text ++ after))

/-! ## Values with limits -/

/-- At most `room` containers stand inside each other, numbers are integers of 64 bits, and no
object has a key twice. -/
inductive Plain : Nat → Json → Prop
  | null (room : Nat) : Plain room .null
  | bool (room : Nat) (value : Bool) : Plain room (.bool value)
  | integer (room : Nat) {value : Int} (hlow : -2 ^ 63 ≤ value) (hhigh : value < 2 ^ 64) :
      Plain room (.number (.integer value))
  | string (room : Nat) (s : String) : Plain room (.string s)
  | array {room : Nat} {items : List Json} (hitems : ∀ item ∈ items, Plain room item) :
      Plain (room + 1) (.array items)
  | object {room : Nat} {members : List Member} (hkeys : (members.map Prod.fst).Nodup)
      (hmembers : ∀ member ∈ members, Plain room member.2) : Plain (room + 1) (.object members)

end Courier.Json
