/-!
# The shortest decimal that reads back

A binary number is written with as few decimal digits as still tell it apart from its neighbours,
and among the decimals of that length with the one nearest to it. Everything here is exact
arithmetic on natural numbers: a number is given by its significand and exponent, the reals that
round to it form an interval whose ends are the midpoints to its neighbours, and a decimal grid is
tried after the other, coarse ones first, until one has a point in the interval.
-/

namespace SchemaGraph.Decimal

/-- `coefficient * 10 ^ exponent` -/
structure Digits where
  coefficient : Nat
  exponent : Int
  deriving Repr, DecidableEq

/-- `significand * 2 ^ exponent`, where `atPower` says that the neighbour below is only half as
far away as the one above. -/
structure Binary where
  significand : Nat
  exponent : Int
  atPower : Bool
  deriving Repr, DecidableEq

namespace Binary

/-- A factor and a divisor that turn quarters of a unit into multiples of `10 ^ grid`. -/
def scale (b : Binary) (grid : Int) : Nat × Nat :=
  (Nat.pow 2 (b.exponent - 2).toNat * Nat.pow 10 (-grid).toNat,
    Nat.pow 2 (2 - b.exponent).toNat * Nat.pow 10 grid.toNat)

/-- The ends of the interval that rounds to `b`, in quarters of a unit. -/
def lowerEnd (b : Binary) : Nat := 4 * b.significand - (if b.atPower then 1 else 2)

def upperEnd (b : Binary) : Nat := 4 * b.significand + 2

/-- The point of a decimal grid that lies in the interval and is nearest to `b`; of two equally
near ones, the even one. The ends belong to the interval when the significand is even. -/
def onGrid? (b : Binary) (grid : Int) : Option Nat :=
  let (factor, divisor) := b.scale grid
  let value := 4 * b.significand * factor
  let below := value / divisor
  let above := below + 1
  let inside (point : Nat) : Bool :=
    let p := point * divisor
    if b.significand % 2 == 0 then b.lowerEnd * factor ≤ p && p ≤ b.upperEnd * factor
    else b.lowerEnd * factor < p && p < b.upperEnd * factor
  match inside below, inside above with
  | true, true =>
    let gap := 2 * (value - below * divisor)
    some (if gap < divisor || (gap == divisor && below % 2 == 0) then below else above)
  | true, false => some below
  | false, true => some above
  | false, false => none

/-- The exponent of the greatest power of ten that is at most `n`. -/
def floorLog (n : Nat) : Nat :=
  let guess := n.log2 * 30103 / 100000
  if Nat.pow 10 (guess + 1) ≤ n then guess + 1
  else if n < Nat.pow 10 guess then guess - 1 else guess

/-- The place of the first digit: `10 ^ b.leading ≤ b < 10 ^ (b.leading + 1)`. -/
def leading (b : Binary) : Int :=
  let (factor, divisor) := b.scale (-400)
  (floorLog (4 * b.significand * factor / divisor) : Int) - 400

def stripZeros (fuel : Nat) (d : Digits) : Digits :=
  match fuel with
  | 0 => d
  | fuel + 1 =>
    if d.coefficient != 0 && d.coefficient % 10 == 0 then
      stripZeros fuel ⟨d.coefficient / 10, d.exponent + 1⟩
    else d

/-- Seventeen digits tell any two numbers of double precision apart. -/
def shortest (b : Binary) : Digits :=
  let grids := (List.range 17).map fun (n : Nat) => b.leading - n
  match grids.findSome? fun grid => (b.onGrid? grid).map fun c => (⟨c, grid⟩ : Digits) with
  | some d => stripZeros 20 d
  | none => ⟨0, 0⟩

end Binary
end SchemaGraph.Decimal
