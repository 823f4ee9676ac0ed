import SchemaGraph.Decimal.Numeral
import SchemaGraph.Text.Normal
import SchemaGraph.Text.Symbol
import SchemaGraph.Yaml.Source

/-!
# Numbers in settings files

An integer is written in base two, eight, ten or sixteen, which its first characters tell, or in
base 60. Underscores may stand anywhere. A scalar that is tagged as a number need not have its form:
it is refused by the part of the rule that it breaks.
-/

namespace SchemaGraph.Yaml

/-- The sign in front, as "is negative", and what follows it; none if there is no character. -/
def signed? : List Char → Option (Bool × List Char)
  | [] => none
  | '-' :: cs => some (true, cs)
  | '+' :: cs => some (false, cs)
  | cs => some (false, cs)

/-- The letter that may stand behind a zero in front of the digits of a base. -/
def baseLetters : List (Nat × List Char) :=
  [(2, ['b', 'B']), (8, ['o', 'O']), (16, ['x', 'X'])]

def withoutBase (base : Nat) (cs : List Char) : List Char :=
  match cs, baseLetters.lookup base with
  | '0' :: c :: rest, some letters => if letters.contains c then rest else cs
  | _, _ => cs

/-- An integer in a base, with blanks around it and a sign. -/
def integerIn (base : Nat) (cs : List Char) : Except Fault Int :=
  let shown := String.ofList ((Text.quoted (String.ofList cs)).toList.take 200)
  let refused := Fault.unreadable s!"invalid literal for int() with base {base}: {shown}"
  match signed? (Text.trimBy Text.isBlank cs) with
  | none => .error refused
  | some (negative, body) =>
    let digits := withoutBase base body
    match digits.isEmpty, Decimal.natural? base digits with
    | false, some n =>
      if base == 10 && Decimal.digitLimit < digits.length then
        .error (.unreadable (Decimal.tooManyDigits digits.length))
      else .ok (if negative then -n else n)
    | _, _ => .error refused

/-- The number with the given digits in base 60, the first one last. -/
def ofSixtieths (digits : List Int) : Int := digits.foldr (fun d n => n * 60 + d) 0

def integer (s : String) : Except Fault Int :=
  match signed? (s.toList.filter (· != '_')) with
  | none => .error .noIndex
  | some (negative, cs) => do
    let n ←
      match cs with
      | [] => .error .noIndex
      | ['0'] => .ok 0
      | '0' :: 'b' :: cs => integerIn 2 cs
      | '0' :: 'x' :: cs => integerIn 16 cs
      | '0' :: _ => integerIn 8 cs
      | _ =>
        if cs.contains ':' then
          ((cs.splitOn ':').mapM (integerIn 10)).map fun ds => ofSixtieths ds.reverse
        else integerIn 10 cs
    return if negative then -n else n

def realIn (cs : List Char) : Except Fault Float :=
  match Decimal.Numeral.realOf? (Text.trimBy Text.isBlank cs) with
  | some x => .ok x
  | none =>
    .error (.unreadable
      s!"could not convert string to float: {Text.quoted (String.ofList cs)}")

/-- Add up digits in base 60, the last one first, whose place is worth `unit`. -/
def sumSixtieths (sum : Float) (unit : Int) : List Float → Except Fault Float
  | [] => .ok sum
  | x :: rest =>
    match Decimal.ofInt? unit with
    | some u => sumSixtieths (sum + x * u) (unit * 60) rest
    | none => .error .overflow

def real (s : String) : Except Fault Float :=
  match signed? ((Text.lower (String.ofList (s.toList.filter (· != '_')))).toList) with
  | none => .error .noIndex
  | some (negative, cs) => do
    let x ←
      match String.ofList cs with
      | ".inf" => .ok (1.0 / 0.0)
      | ".nan" => .ok (0.0 / 0.0)
      | _ =>
        if cs.contains ':' then
          ((cs.splitOn ':').mapM realIn).bind fun xs => sumSixtieths 0.0 1 xs.reverse
        else realIn cs
    return if negative then -x else x

end SchemaGraph.Yaml
