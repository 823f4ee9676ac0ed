import SchemaGraph.Decimal.Notation
import SchemaGraph.Json.Basic
import SchemaGraph.Text.Symbol

/-!
# Values shown in text

A value that is not text can still end up inside a text: a column type given as a number is
stored as the number's text, and a refused value is quoted in the refusal. `shown` is the form
inside such a text, where strings are quoted, and `printed` the form of a whole one, where a string
stands for itself.

Not every value can be shown. Whatever shows a value goes into its lists and objects, which is
possible only so deep, and the digits of an integer are limited. The first such place ends it.
-/

namespace SchemaGraph.Json

/-- Why a value cannot be shown. -/
inductive ShowFault where
  | tooDeep
  | tooManyDigits
  deriving Repr, DecidableEq

/-- How many values, one within the other, can be shown where little else stands on the stack. -/
def shownLimit : Nat := 980

def shownInt (n : Int) : Except ShowFault String :=
  if Decimal.digitLimit < (Nat.toDigits 10 n.natAbs).length then .error .tooManyDigits
  else .ok (toString n)

mutual

/-- A value with at most `room` values one within the other. -/
def shownWithin : Nat → Json → Except ShowFault String
  | 0, _ => .error .tooDeep
  | _ + 1, null => .ok "None"
  | _ + 1, bool b => .ok (if b then "True" else "False")
  | _ + 1, int n => shownInt n
  | _ + 1, float x => .ok (Decimal.Notation.plain.text x)
  | _ + 1, str s => .ok (Text.quoted s)
  | room + 1, arr items => do
    return "[" ++ ", ".intercalate (← shownItems room items) ++ "]"
  | room + 1, obj ms => do
    return "\x7b" ++ ", ".intercalate (← shownMembers room ms) ++ "\x7d"

def shownItems : Nat → List Json → Except ShowFault (List String)
  | _, [] => .ok []
  | room, v :: rest => do return (← shownWithin room v) :: (← shownItems room rest)

def shownMembers : Nat → List (String × Json) → Except ShowFault (List String)
  | _, [] => .ok []
  | room, (name, v) :: rest => do
    return (Text.quoted name ++ ": " ++ (← shownWithin room v)) :: (← shownMembers room rest)

end

def shown (v : Json) : Except ShowFault String := shownWithin shownLimit v

def printed : Json → Except ShowFault String
  | str s => .ok s
  | v => shown v

def isShowable (v : Json) : Bool := (shown v).isOk

/-- The text of a value in a message that is written whatever the value is: what cannot be printed
is named by its kind. -/
def text (v : Json) : String :=
  match printed v with
  | .ok s => s
  | .error _ => s!"<unprintable {v.kindName} object>"

@[simp] theorem printed_str (s : String) : printed (str s) = .ok s := rfl

@[simp] theorem text_str (s : String) : text (str s) = s := rfl

end SchemaGraph.Json
