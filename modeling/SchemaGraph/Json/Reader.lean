import SchemaGraph.Decimal.Notation
import SchemaGraph.Decimal.Numeral
import SchemaGraph.Json.Basic
import SchemaGraph.Text.Symbol

/-!
# Reading documents

A text is read from the left, and a text that is no document is refused with the place where the
reading stopped. Between the parts stand spaces, tabs and line ends only. Numbers take the longest
form that fits, so that what follows them is judged by its own rule; the names for the numbers
that are not finite are accepted; of two members with one name the last one counts, in the place
of the first. Half of a surrogate pair may stand alone. Lists and objects can be nested only so
deep, and the digits of an integer are limited as well.

Every step takes at least one character, so the length of the text bounds the number of steps.
-/

namespace SchemaGraph.Json

namespace Reader

inductive Problem where
  | byteOrderMark
  | expectedValue
  | expectedName
  | expectedColon
  | expectedComma
  | extraData
  | unterminatedString
  | controlCharacter
  | badEscape
  | badUnicodeEscape
  | tooManyDigits (count : Nat)
  | tooDeep
  deriving Repr, DecidableEq

def Problem.message : Problem → String
  | .byteOrderMark => "Unexpected UTF-8 BOM (decode using utf-8-sig)"
  | .expectedValue => "Expecting value"
  | .expectedName => "Expecting property name enclosed in double quotes"
  | .expectedColon => "Expecting ':' delimiter"
  | .expectedComma => "Expecting ',' delimiter"
  | .extraData => "Extra data"
  | .unterminatedString => "Unterminated string starting at"
  | .controlCharacter => "Invalid control character at"
  | .badEscape => "Invalid \\escape"
  | .badUnicodeEscape => "Invalid \\uXXXX escape"
  | .tooManyDigits count => Decimal.tooManyDigits count
  | .tooDeep => "Too deep"

/-- Whether the text breaks the rules of the form, and not only a limit. -/
def Problem.isOfForm : Problem → Bool
  | .tooManyDigits _ | .tooDeep => false
  | _ => true

/-- A problem, and what was left of the text where it lies. -/
structure Stop where
  problem : Problem
  rest : List Char

abbrev Result (α : Type) := Except Stop (α × List Char)

def isSpace (c : Char) : Bool := c == ' ' || c == '\t' || c == '\n' || c == '\r'

def skip (cs : List Char) : List Char := cs.dropWhile isSpace

/-- The value of four hexadecimal digits at the front. -/
def hexUnit? (cs : List Char) : Option Nat :=
  if (cs.take 4).length == 4 then Decimal.natural? 16 (cs.take 4) else none

/-- What follows a backslash and a `u`, which `mark` starts at. The digits never end the text. -/
def unicodeEscape (mark digits : List Char) : Result Text.Symbol :=
  if (digits.drop 4).isEmpty then .error ⟨.badUnicodeEscape, mark⟩
  else
    match hexUnit? digits with
    | none => .error ⟨.badUnicodeEscape, mark⟩
    | some u =>
      let rest := digits.drop 4
      match Text.isHighHalf u && !(rest.drop 6).isEmpty, rest with
      | true, '\\' :: 'u' :: more =>
        match hexUnit? more with
        | none => .error ⟨.badUnicodeEscape, rest.drop 1⟩
        | some v =>
          if Text.isLowHalf v then .ok (.char (Text.joinHalves u v), more.drop 4)
          else .ok (.ofNumber u, rest)
      | _, _ => .ok (.ofNumber u, rest)

/-- What follows the backslash that `here` starts with, in a string that `start` starts with. -/
def escape (start here : List Char) : Result Text.Symbol :=
  match here.drop 1 with
  | [] => .error ⟨.unterminatedString, start⟩
  | 'u' :: digits => unicodeEscape (here.drop 1) digits
  | '"' :: rest => .ok (.char '"', rest)
  | '\\' :: rest => .ok (.char '\\', rest)
  | '/' :: rest => .ok (.char '/', rest)
  | 'b' :: rest => .ok (.ofNumber 8, rest)
  | 'f' :: rest => .ok (.ofNumber 12, rest)
  | 'n' :: rest => .ok (.char '\n', rest)
  | 'r' :: rest => .ok (.char '\r', rest)
  | 't' :: rest => .ok (.char '\t', rest)
  | _ => .error ⟨.badEscape, here⟩

/-- The rest of a string that `start` starts with; `read` holds its characters so far, last
first. -/
def stringBody (start : List Char) : Nat → List Char → List Char → Result String
  | 0, _, _ => .error ⟨.unterminatedString, start⟩
  | fuel + 1, read, cs =>
    match cs with
    | [] => .error ⟨.unterminatedString, start⟩
    | c :: rest =>
      if c == '"' then .ok (String.ofList read.reverse, rest)
      else if c == '\\' then
        match escape start cs with
        | .ok (x, rest) => stringBody start fuel (x.kept.reverse ++ read) rest
        | .error stop => .error stop
      else if c.toNat < 0x20 then .error ⟨.controlCharacter, cs⟩
      else stringBody start fuel (c :: read) rest

/-- A string, from its opening quote on. -/
def string (fuel : Nat) (start : List Char) : Result String :=
  stringBody start fuel [] (start.drop 1)

def natOfDigits (cs : List Char) : Nat :=
  cs.foldl (fun n c => n * 10 + (c.toNat - '0'.toNat)) 0

def digits (cs : List Char) : List Char × List Char :=
  (cs.takeWhile Char.isDigit, cs.dropWhile Char.isDigit)

/-- The digits after a point, if there are any. -/
def fraction (cs : List Char) : Option (List Char) × List Char :=
  match cs with
  | '.' :: rest =>
    match digits rest with
    | ([], _) => (none, cs)
    | (ds, rest) => (some ds, rest)
  | _ => (none, cs)

def exponent (cs : List Char) : Option Int × List Char :=
  match cs with
  | e :: rest =>
    if e == 'e' || e == 'E' then
      let (negative, body) :=
        match rest with
        | '-' :: body => (true, body)
        | '+' :: body => (false, body)
        | body => (false, body)
      match digits body with
      | ([], _) => (none, cs)
      | (ds, rest) =>
        let n : Int := natOfDigits ds
        (some (if negative then -n else n), rest)
    else (none, cs)
  | [] => (none, cs)

/-- The whole part of a number: a lone zero, or digits that do not start with one. -/
def whole (cs : List Char) : Option (List Char × List Char) :=
  match cs with
  | '0' :: rest => some (['0'], rest)
  | c :: _ => if c.isDigit then some (digits cs) else none
  | [] => none

/-- A number at the front, if there is one. -/
def number? (cs : List Char) : Option (Result Json) :=
  let (negative, body) :=
    match cs with
    | '-' :: body => (true, body)
    | body => (false, body)
  (whole body).map fun (ds, rest) =>
    let (frac, rest) := fraction rest
    let (exp, rest) := exponent rest
    match frac, exp with
    | none, none =>
      if Decimal.digitLimit < ds.length then .error ⟨.tooManyDigits ds.length, cs⟩
      else
        let n : Int := natOfDigits ds
        .ok (int (if negative then -n else n), rest)
    | _, _ =>
      let places := frac.getD []
      let x := (⟨natOfDigits (ds ++ places), exp.getD 0 - places.length⟩ : Decimal.Digits).toFloat
      .ok (float (if negative then -x else x), rest)

def constants : List (String × Json) :=
  [("null", null), ("true", bool true), ("false", bool false), ("NaN", float (0.0 / 0.0)),
    ("Infinity", float (1.0 / 0.0)), ("-Infinity", float (-1.0 / 0.0))]

def constant? (cs : List Char) : Option (Result Json) :=
  constants.findSome? fun (name, v) =>
    let name := name.toList
    if name.isPrefixOf cs then some (.ok (v, cs.drop name.length)) else none

/-- How deep lists and objects can be nested. -/
def depthLimit : Nat := 990

mutual

/-- A value with at most `depth` levels of lists and objects. -/
def value : Nat → Nat → List Char → Result Json
  | 0, _, cs => .error ⟨.expectedValue, cs⟩
  | fuel + 1, depth, cs =>
    match cs with
    | '"' :: _ =>
      match string fuel cs with
      | .ok (s, rest) => .ok (str s, rest)
      | .error stop => .error stop
    | '{' :: rest =>
      match depth, skip rest with
      | 0, _ => .error ⟨.tooDeep, cs⟩
      | _ + 1, '}' :: rest => .ok (obj [], rest)
      | depth + 1, rest => members fuel depth [] rest
    | '[' :: rest =>
      match depth, skip rest with
      | 0, _ => .error ⟨.tooDeep, cs⟩
      | _ + 1, ']' :: rest => .ok (arr [], rest)
      | depth + 1, rest => items fuel depth [] rest
    | _ =>
      match (constant? cs).or (number? cs) with
      | some r => r
      | none => .error ⟨.expectedValue, cs⟩

/-- The members of an object, from the name of one of them on. -/
def members : Nat → Nat → Members → List Char → Result Json
  | 0, _, _, cs => .error ⟨.expectedName, cs⟩
  | fuel + 1, depth, read, cs =>
    match cs with
    | '"' :: _ =>
      match string fuel cs with
      | .error stop => .error stop
      | .ok (name, rest) =>
        match skip rest with
        | ':' :: rest =>
          match value fuel depth (skip rest) with
          | .error stop => .error stop
          | .ok (v, rest) =>
            match skip rest with
            | '}' :: rest => .ok (obj (read.put name v), rest)
            | ',' :: rest => members fuel depth (read.put name v) (skip rest)
            | rest => .error ⟨.expectedComma, rest⟩
        | rest => .error ⟨.expectedColon, rest⟩
    | _ => .error ⟨.expectedName, cs⟩

/-- The items of a list, from one of them on; `read` holds the earlier ones, last first. -/
def items : Nat → Nat → List Json → List Char → Result Json
  | 0, _, _, cs => .error ⟨.expectedValue, cs⟩
  | fuel + 1, depth, read, cs =>
    match value fuel depth cs with
    | .error stop => .error stop
    | .ok (v, rest) =>
      match skip rest with
      | ']' :: rest => .ok (arr (v :: read).reverse, rest)
      | ',' :: rest => items fuel depth (v :: read) (skip rest)
      | rest => .error ⟨.expectedComma, rest⟩

end

/-- A value with nothing but spaces around it. -/
def document (cs : List Char) : Except Stop Json :=
  match value (cs.length + 1) depthLimit (skip cs) with
  | .error stop => .error stop
  | .ok (v, rest) =>
    match skip rest with
    | [] => .ok v
    | rest => .error ⟨.extraData, rest⟩

end Reader

/-- A problem with its place: the offset in characters, and the line and column, counted from
one. -/
structure ReadError where
  problem : Reader.Problem
  offset : Nat
  line : Nat
  column : Nat
  deriving Repr, DecidableEq

/-- The problem with its place; a limit is not broken at one place. -/
def ReadError.message (e : ReadError) : String :=
  if e.problem.isOfForm then
    s!"{e.problem.message}: line {e.line} column {e.column} (char {e.offset})"
  else e.problem.message

/-- Read the characters of a document. -/
def readChars (cs : List Char) : Except ReadError Json :=
  match Reader.document cs with
  | .ok v => .ok v
  | .error stop =>
    let before := Text.symbols (cs.take (cs.length - stop.rest.length))
    let line := before.count (.char '\n') + 1
    let column := (before.reverse.takeWhile (· != .char '\n')).length + 1
    .error ⟨stop.problem, before.length, line, column⟩

/-- Read a text, which must not start with a byte order mark. -/
def read (text : String) : Except ReadError Json :=
  if text.toList.head? == some (Char.ofNat 0xFEFF) then .error ⟨.byteOrderMark, 0, 1, 1⟩
  else readChars text.toList

end SchemaGraph.Json
