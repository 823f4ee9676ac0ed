import SchemaGraph.Decimal.Notation
import SchemaGraph.Text.Normal

/-!
# Numbers in text

A number may be sent as text. A real number may have white space around it and a sign in front; it
has digits on at least one side of its point and an optional exponent, or is one of the names for
the numbers that are not finite, in any case. Single underscores may stand inside it, but then it
has to stand alone.

An integer may be padded as well: with white space, a plus sign, zeros in front, single underscores,
and a point and zeros at the end. Underscores and a minus sign may follow the zeros in front.
-/

namespace SchemaGraph.Decimal.Numeral

/-- The sign in front, as "is negative", and what follows it. -/
def signed : List Char → Bool × List Char
  | '-' :: cs => (true, cs)
  | '+' :: cs => (false, cs)
  | cs => (false, cs)

def hasPair : List Char → Bool
  | '_' :: '_' :: _ => true
  | _ :: cs => hasPair cs
  | [] => false

/-- The characters without their underscores; none when one is first, last or doubled. -/
def joined? (cs : List Char) : Option (List Char) :=
  if cs.head? == some '_' || cs.getLast? == some '_' || hasPair cs then none
  else some (cs.filter (· != '_'))

def trimmed (s : String) : List Char :=
  Text.trimBy Text.isWhiteSpace s.toList

def natOf (cs : List Char) : Nat :=
  cs.foldl (fun n c => n * 10 + (c.toNat - '0'.toNat)) 0

def allDigits (cs : List Char) : Bool := !cs.isEmpty && cs.all Char.isDigit

/-- Digits with an optional point and an optional exponent. -/
def decimal? (cs : List Char) : Option Digits :=
  let (whole, rest) := (cs.takeWhile Char.isDigit, cs.dropWhile Char.isDigit)
  let (places, rest) :=
    match rest with
    | '.' :: more => (more.takeWhile Char.isDigit, more.dropWhile Char.isDigit)
    | _ => ([], rest)
  if whole.isEmpty && places.isEmpty then none
  else
    let coefficient := natOf (whole ++ places)
    match rest with
    | [] => some ⟨coefficient, -places.length⟩
    | e :: more =>
      let (negative, ds) := signed more
      if (e == 'e' || e == 'E') && allDigits ds then
        some ⟨coefficient, (if negative then -(natOf ds : Int) else natOf ds) - places.length⟩
      else none

def realOf? (cs : List Char) : Option Float := do
  let (negative, body) := signed cs
  let x ←
    match String.ofList (body.map Char.toLower) with
    | "nan" => some (0.0 / 0.0)
    | "inf" => some (1.0 / 0.0)
    | "infinity" => some (1.0 / 0.0)
    | _ => (decimal? body).map Digits.toFloat
  return if negative then -x else x

def real? (s : String) : Option Float :=
  (realOf? (trimmed s)).or ((joined? s.toList).bind realOf?)

inductive IntegerFault where
  | unreadable
  | tooLong
  deriving Repr, DecidableEq

/-- An integer without any padding, of a limited length. -/
def bareInteger (cs : List Char) : Except IntegerFault Int :=
  let (negative, body) :=
    match cs with
    | '-' :: body => (true, body)
    | body => (false, body)
  let ds := body.takeWhile Char.isDigit
  let isPadded := ds.head? == some '0' && ds.length != 1
  if ds.isEmpty || isPadded then .error .unreadable
  else if digitLimit < ds.length + (if negative then 1 else 0) then .error .tooLong
  else if ds.length != body.length then .error .unreadable
  else .ok (if negative then -(natOf ds : Int) else natOf ds)

/-- What follows the zeros in front, where the last zero of a whole part that is nothing else is
kept. Underscores between the zeros go with them. -/
def afterZeros (last : Char) : List Char → Option (List Char)
  | [] => some [last]
  | c :: cs =>
    if c == '0' || c == '_' then afterZeros c cs
    else if c == '.' then some (last :: c :: cs)
    else if c.isDigit || c == '-' then some (c :: cs)
    else none

def withoutZeros? : List Char → Option (List Char)
  | [] => none
  | c :: cs =>
    if c == '0' then afterZeros c cs
    else if c.isDigit || c == '-' then some (c :: cs)
    else none

/-- Drop a point and the zeros after it. -/
def withoutZeroPlaces (cs : List Char) : List Char :=
  let places := (cs.dropWhile (· != '.')).drop 1
  if !places.isEmpty && places.all (· == '0') then cs.takeWhile (· != '.') else cs

/-- Drop a plus sign, which no minus sign may follow. -/
def withoutPlus? : List Char → Option (List Char)
  | '+' :: '-' :: _ => none
  | '+' :: cs => some cs
  | cs => some cs

/-- The characters of an integer without its padding. -/
def unpadded? (s : String) : Option (List Char) := do
  let cs ← withoutZeros? (← withoutPlus? (trimmed s))
  joined? (withoutZeroPlaces cs)

def integer (s : String) : Except IntegerFault Int :=
  match bareInteger s.toList with
  | .error .unreadable =>
    match (unpadded? s).map bareInteger with
    | some (.ok n) => .ok n
    | _ => .error .unreadable
  | r => r

end SchemaGraph.Decimal.Numeral

/-!
## Digits in a base

Numbers are also written in bases other than ten, up to sixteen. Beyond nine the digits are the
letters from a on, in either case.
-/

namespace SchemaGraph.Decimal

/-- The value of a digit in a base. -/
def digit? (base : Nat) (c : Char) : Option Nat :=
  let value :=
    if c.isDigit then some (c.toNat - '0'.toNat)
    else if 'a' ≤ c && c ≤ 'f' then some (c.toNat - 'a'.toNat + 10)
    else if 'A' ≤ c && c ≤ 'F' then some (c.toNat - 'A'.toNat + 10)
    else none
  value.filter (· < base)

/-- The number that digits in a base stand for; none if one of the characters is no digit. -/
def natural? (base : Nat) (cs : List Char) : Option Nat :=
  cs.foldlM (fun n c => (digit? base c).map (n * base + ·)) 0

end SchemaGraph.Decimal
