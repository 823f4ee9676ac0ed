import SchemaGraph.Decimal.Shortest

/-!
# Numbers as text

How a double is written and read. Writing takes the shortest digits that read back and sets them
positionally for exponents from -4 up to 15, always with a point, and with an exponent of at least
two digits otherwise. Reading rounds a decimal, or an integer of any size, to the nearest double.
-/

namespace SchemaGraph.Decimal

/-- What the bits of a double stand for. -/
inductive Kind where
  | nan
  | infinite
  | zero
  | positive (b : Binary)

def sign (x : Float) : Bool := x.toBits >>> 63 == 1

/-- The magnitude of a double. -/
def kind (x : Float) : Kind :=
  let bits := x.toBits.toNat
  let fraction := bits % Nat.pow 2 52
  match bits / Nat.pow 2 52 % Nat.pow 2 11, fraction with
  | 2047, 0 => .infinite
  | 2047, _ => .nan
  | 0, 0 => .zero
  | 0, _ => .positive ⟨fraction, -1074, false⟩
  | e, _ => .positive ⟨Nat.pow 2 52 + fraction, (e : Int) - 1075, fraction == 0 && 1 < e⟩

/-- The integer that a double is equal to. -/
def toInt? (x : Float) : Option Int :=
  match kind x with
  | .zero => some 0
  | .nan | .infinite => none
  | .positive b =>
    let scaled := b.significand * Nat.pow 2 b.exponent.toNat
    let unit := Nat.pow 2 (-b.exponent).toNat
    let n : Int := scaled / unit
    if scaled % unit == 0 then some (if sign x then -n else n) else none

/-- The decisions of a notation that the digits leave open. -/
structure Notation where
  leastPositional : Int
  leastScientific : Int
  exponentWidth : Nat
  nan : String
  infinity : String

namespace Notation

/-- The notation of values inside text. -/
def plain : Notation := ⟨-4, 16, 2, "nan", "inf"⟩

/-- The notation of a document, whose names for the values that are not finite are longer. -/
def document : Notation := { plain with nan := "NaN", infinity := "Infinity" }

def zeros (n : Nat) : String := String.ofList (List.replicate n '0')

def exponentText (style : Notation) (e : Int) : String :=
  let digits := toString e.natAbs
  (if e < 0 then "-" else "+") ++ zeros (style.exponentWidth - digits.length) ++ digits

def digitsText (style : Notation) (d : Digits) : String :=
  let digits := toString d.coefficient
  let count := digits.length
  let point : Int := count + d.exponent
  let lead := point - 1
  if style.leastPositional ≤ lead && lead < style.leastScientific then
    if point ≤ 0 then "0." ++ zeros (-point).toNat ++ digits
    else if (count : Int) ≤ point then digits ++ zeros (point - count).toNat ++ ".0"
    else
      let cs := digits.toList
      String.ofList (cs.take point.toNat) ++ "." ++ String.ofList (cs.drop point.toNat)
  else
    let cs := digits.toList
    let tail := if count == 1 then "" else "." ++ String.ofList (cs.drop 1)
    String.ofList (cs.take 1) ++ tail ++ "e" ++ style.exponentText lead

def text (style : Notation) (x : Float) : String :=
  let minus := if sign x then "-" else ""
  match kind x with
  | .nan => style.nan
  | .infinite => minus ++ style.infinity
  | .zero => minus ++ "0.0"
  | .positive b => minus ++ style.digitsText b.shortest

end Notation

/-- The most digits of an integer that is read or written as a decimal. -/
def digitLimit : Nat := 4300

/-- The refusal to read a longer integer. -/
def tooManyDigits (count : Nat) : String :=
  s!"Exceeds the limit ({digitLimit} digits) for integer string conversion: " ++
    s!"value has {count} digits; use sys.set_int_max_str_digits() to increase the limit"

/-- The refusal to write a longer integer. -/
def tooManyDigitsToShow : String :=
  s!"Exceeds the limit ({digitLimit} digits) for integer string conversion; " ++
    "use sys.set_int_max_str_digits() to increase the limit"

/-- The double nearest to a decimal. Exponents far outside the range are settled by the number of
digits, so no large power is computed for them. -/
def Digits.toFloat (d : Digits) : Float :=
  if d.coefficient == 0 then 0.0
  else
    let lead : Int := (Binary.floorLog d.coefficient : Int) + d.exponent
    if 310 < lead then 1.0 / 0.0
    else if lead < -330 then 0.0
    else Float.ofScientific d.coefficient (d.exponent < 0) d.exponent.natAbs

/-- The double nearest to an integer; none when it is beyond the largest one. -/
def ofInt? (n : Int) : Option Float :=
  let x := (⟨n.natAbs, 0⟩ : Digits).toFloat
  match kind x with
  | .infinite => none
  | _ => some (if n < 0 then -x else x)

/-- The double nearest to an integer, infinite beyond the largest one. -/
def ofInt (n : Int) : Float :=
  (ofInt? n).getD (if n < 0 then -1.0 / 0.0 else 1.0 / 0.0)

end SchemaGraph.Decimal
