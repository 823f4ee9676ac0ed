import SchemaGraph.Decimal.Numeral
import SchemaGraph.Decode.Checked
import SchemaGraph.Json.Shown
import SchemaGraph.Text.Symbol

/-!
# Checks of single values

Text has to be text, or whatever can be printed where any value will do. Flags and numbers are read
generously: a flag may be written as one of a few words or as a zero or one, and a number as text or
as a flag. A text that has to be read, and not only kept, cannot hold half of a surrogate pair.
-/

namespace SchemaGraph.Decode

def text : Json → Checked String
  | .str s => .valid s
  | _ => .fault .notText

/-- The text that any value is printed as. -/
def printed (v : Json) : Checked String :=
  match v.printed with
  | .ok s => .valid s
  | .error .tooManyDigits => .fault .tooManyDigits
  | .error .tooDeep => .tooDeep

/-- Read a text. -/
def readable (read : String → Checked α) (s : String) : Checked α :=
  if Text.isWhole s then read s else .fault .brokenText

def flagOfWord? (s : String) : Option Bool :=
  let word := String.ofList (s.toList.map Char.toLower)
  if ["0", "off", "f", "false", "n", "no"].contains word then some false
  else if ["1", "on", "t", "true", "y", "yes"].contains word then some true
  else none

/-- The integer that a double stands for, within the range of the signed 64-bit integers. -/
def wholeFloat (x : Float) : Checked Int :=
  match Decimal.kind x, Decimal.toInt? x with
  | .nan, _ | .infinite, _ => .fault .notFinite
  | _, none => .fault .fractional
  | _, some n => if n.natAbs < Nat.pow 2 63 then .valid n else .fault .tooLong

/-- The flag that an integer stands for. -/
def flagOfInteger (n : Int) : Checked Bool :=
  if n == 0 then .valid false else if n == 1 then .valid true else .fault .unreadableFlag

/-- A flag. An integer that is none is unreadable within a range, and no flag at all beyond it. -/
def flag : Json → Checked Bool
  | .bool b => .valid b
  | .int n =>
    if -Nat.pow 2 63 ≤ n && n < Nat.pow 2 63 then flagOfInteger n else .fault .notFlag
  | .float x =>
    match wholeFloat x with
    | .valid n => flagOfInteger n
    | _ => .fault .notFlag
  | .str s => readable (fun s =>
    match flagOfWord? s with
    | some b => .valid b
    | none => .fault .unreadableFlag) s
  | _ => .fault .notFlag

def number : Json → Checked Float
  | .float x => .valid x
  | .int n =>
    match Decimal.ofInt? n with
    | some x => .valid x
    | none => .fault .notNumber
  | .bool b => .valid (if b then 1.0 else 0.0)
  | .str s => readable (fun s =>
    match Decimal.Numeral.real? s with
    | some x => .valid x
    | none => .fault .unreadableNumber) s
  | _ => .fault .notNumber

def positive (v : Json) : Checked Float :=
  (number v).bind fun x => if 0.0 < x then .valid x else .fault .notPositive

def nonNegative (v : Json) : Checked Float :=
  (number v).bind fun x => if 0.0 ≤ x then .valid x else .fault .negative

def integerOfText (s : String) : Checked Int :=
  match Decimal.Numeral.integer s with
  | .ok n => .valid n
  | .error .unreadable => .fault .unreadableInteger
  | .error .tooLong => .fault .tooLong

def integer : Json → Checked Int
  | .int n => .valid n
  | .bool b => .valid (if b then 1 else 0)
  | .float x => wholeFloat x
  | .str s => readable integerOfText s
  | _ => .fault .notInteger

def nullable (check : Json → Checked α) : Json → Checked (Option α)
  | .null => .valid none
  | v => (check v).map some

def list (check : Json → Checked α) : Json → Checked (List α)
  | .arr items => checkFrom check 0 items
  | _ => .fault .notList

def mapping : Json → Checked Members
  | .obj ms => .valid ms
  | _ => .fault .notMapping

def record (name : String) (check : Members → Checked α) : Json → Checked α
  | .obj ms => check ms
  | _ => .fault (.notRecord name)

/-- One of a few values, by name. -/
def member (all : List α) (nameOf : α → String) : Json → Checked α
  | .str s => readable (fun s =>
    match all.find? fun a => nameOf a == s with
    | some a => .valid a
    | none => .fault (.notMember (all.map nameOf))) s
  | _ => .fault (.notMember (all.map nameOf))

def literal (names : List String) : Json → Checked String
  | .str s =>
    readable (fun s => if names.contains s then .valid s else .fault (.notLiteral names)) s
  | _ => .fault (.notLiteral names)

end SchemaGraph.Decode
