import SchemaGraph.Decimal.Notation
import SchemaGraph.Schema.Basic

/-!
# The graph of a layout

A layout places boxes and routes the edges between them, on coordinates of any kind.

## Coordinates

The layout needs the four operations, integers as coordinates, and a comparison. It is run on
floating point numbers and can be run on any exact numbers as well. An integer from outside may be
beyond all coordinates.
-/

namespace SchemaGraph

class Scalar (α : Type) extends Add α, Sub α, Mul α, Div α where
  ofInt : Int → α
  ofInt? : Int → Option α
  less : α → α → Bool
  isZero : α → Bool

instance : Scalar Float where
  ofInt := Decimal.ofInt
  ofInt? := Decimal.ofInt?
  less a b := a < b
  isZero a := a == 0.0

namespace Scalar

variable {α : Type} [Scalar α]

def half (a : α) : α := a / ofInt 2

/-- The larger one of two, the first if they are equal. -/
def larger (a b : α) : α := if less a b then b else a

def largest? : List α → Option α
  | [] => none
  | a :: rest => some (rest.foldl larger a)

/-- The sum, from the left. -/
def total (as : List α) : α := as.foldl (· + ·) (ofInt 0)

end Scalar
end SchemaGraph

/-!
## Boxes and edges

The layout works on boxes with a size and an id, and on edges between them. An edge may be anchored
at a row of a box, which is the row of a column of the table that the box shows. The spacing and
the sizes of the parts of a box are settings.
-/

namespace SchemaGraph.Layout

structure Settings (α : Type) where
  nodeWidth : α
  headerHeight : α
  rowHeight : α
  padding : α
  rankSep : α
  nodeSep : α
  margin : α
  edgeDetour : α
  deriving Repr

structure Node (α : Type) where
  id : String
  width : α
  height : α
  position : Position α
  deriving Repr

structure Edge where
  id : String
  source : String
  target : String
  sourceRow : Option Int := none
  targetRow : Option Int := none
  deriving Repr, DecidableEq

/-- The line that is drawn for an edge, and where its label stands. -/
structure Route (α : Type) where
  edge : String
  points : List (Position α)
  label : Position α
  deriving Repr

structure Result (α : Type) where
  nodes : List (Node α)
  edges : List Edge
  routes : List (Route α)
  ranks : List (String × Nat)
  width : α
  height : α
  deriving Repr

namespace Node

variable {α : Type}

/-- The last node with an id. -/
def ofId? (nodes : List (Node α)) (id : String) : Option (Node α) :=
  nodes.reverse.find? (·.id == id)

end Node

namespace Settings

variable {α : Type} [Scalar α]

/-- The height of the box of a table with a number of columns. -/
def nodeHeight (s : Settings α) (columns : α) : α :=
  s.headerHeight + columns * s.rowHeight + s.padding

end Settings

namespace Result

variable {α : Type}

def positionOf? (r : Result α) (id : String) : Option (Position α) :=
  (r.nodes.find? (·.id == id)).map (·.position)

end Result
end SchemaGraph.Layout
