import Courier.Json.Reader
import Courier.Proofs.Json.Grammar

/-!
# Texts as they are written

Which texts stand for a tree as it is written: the members of an object stand in the order of the
text, and a key may stand there twice.  Numbers have the form that the grammar of JSON gives them;
of the reader of numbers these relations know only which value it gives to such a text, if any.
-/

namespace Courier.Json

/-! ## Numbers -/

def IsDigits (text : Bytes) : Prop := ∀ b ∈ text, 48 ≤ b ∧ b ≤ 57

/-- The whole part of a number; a leading zero stands alone. -/
inductive WholeText : Bytes → Prop
  | zero : WholeText [48]
  | digits {b : UInt8} {text : Bytes} (hfirst : 49 ≤ b ∧ b ≤ 57) (hmore : IsDigits text) :
      WholeText (b :: text)

inductive FractionText : Bytes → Prop
  | none : FractionText []
  | point {text : Bytes} (hsome : text ≠ []) (hdigits : IsDigits text) : FractionText (46 :: text)

inductive ExponentText : Bytes → Prop
  | none : ExponentText []
  | letter {mark : UInt8} {sign text : Bytes} (hmark : mark = 101 ∨ mark = 69)
      (hsign : sign = [] ∨ sign = [43] ∨ sign = [45]) (hsome : text ≠ [])
      (hdigits : IsDigits text) : ExponentText (mark :: (sign ++ text))

/-- A number without its sign. -/
inductive UnsignedText : Bytes → Prop
  | parts {whole fraction exponent : Bytes} (hwhole : WholeText whole)
      (hfraction : FractionText fraction) (hexponent : ExponentText exponent) :
      UnsignedText (whole ++ (fraction ++ exponent))

def signText (negative : Bool) : Bytes := if negative then [45] else []

/-- A number that is not out of range. -/
inductive NumberWritten : Number → Bytes → Prop
  | signed {negative : Bool} {text : Bytes} {n : Number} (htext : UnsignedText text)
      (hvalue : Reader.number negative text = .ok (n, [])) :
      NumberWritten n (signText negative ++ text)

/-! ## Values -/

mutual

inductive Written : Json → Bytes → Prop
  | null : Written .null (Utf8.encode "null")
  | yes : Written (.bool true) (Utf8.encode "true")
  | no : Written (.bool false) (Utf8.encode "false")
  | number {n : Number} {text : Bytes} (hnumber : NumberWritten n text) :
      Written (.number n) text
  | string {s : String} {text : Bytes} (hstring : StringSpells s text) : Written (.string s) text
  | array {items : List Json} {text : Bytes} (hitems : Listed Written items text) :
      Written (.array items) (91 :: (text ++ [93]))
  | object {members : List Member} {text : Bytes} (hmembers : Listed MemberWritten members text) :
      Written (.object members) (123 :: (text ++ [125]))

inductive MemberWritten : Member → Bytes → Prop
  | colon {key : String} {value : Json} {name before after text : Bytes}
      (hname : StringSpells key name) (hbefore : IsBlank before) (hafter : IsBlank after)
      (hvalue : Written value text) :
      MemberWritten (key, value) (name ++ (before ++ 58 :: (after ++ text)))

end

/-- A whole text of a tree. -/
inductive TextWritten (tree : Json) : Bytes → Prop
  | padded {before text after : Bytes} (hbefore : IsBlank before) (htext : Written tree text)
      (hafter : IsBlank after) : TextWritten tree (before ++ (text ++ after))

end Courier.Json
