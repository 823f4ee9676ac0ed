import SchemaGraph.Layout.Basic
import SchemaGraph.Layout.Order
import SchemaGraph.Relationship

/-!
# Places and routes

Once each vertex has its layer and its place in it, boxes get coordinates and edges get routes.

## Routes

A route leaves its source on the right and enters its target on the left, in horizontal and vertical
segments. If the target lies to the right, the route turns in the middle between the two boxes.
Otherwise it makes a detour below both.
-/

namespace SchemaGraph.Layout

variable {α : Type} [Scalar α]

namespace Node

def right (n : Node α) : α := n.position.x + n.width

def bottom (n : Node α) : α := n.position.y + n.height

/-- The height at which an edge meets a box: the middle of its row, or of the box. There is none if
the row is beyond all coordinates. -/
def anchor? (s : Settings α) (n : Node α) : Option Int → Option α
  | none => some (n.position.y + Scalar.half n.height)
  | some row =>
    (Scalar.ofInt? row).map fun row =>
      n.position.y + s.headerHeight + row * s.rowHeight + Scalar.half s.rowHeight

end Node

/-- One turn halfway. -/
def straightRoute (id : String) (start finish : Position α) : Route α :=
  let middle := Scalar.half (start.x + finish.x)
  { edge := id
    points := [start, ⟨middle, start.y⟩, ⟨middle, finish.y⟩, finish]
    label := ⟨middle, Scalar.half (start.y + finish.y)⟩ }

/-- Out to the right, below both boxes, and back in from the left. -/
def detourRoute (s : Settings α) (id : String) (source target : Node α)
    (start finish : Position α) : Route α :=
  let outX := start.x + s.edgeDetour
  let inX := finish.x - s.edgeDetour
  let below := Scalar.larger source.bottom target.bottom + Scalar.half s.nodeSep
  { edge := id
    points := [start, ⟨outX, start.y⟩, ⟨outX, below⟩, ⟨inX, below⟩, ⟨inX, finish.y⟩, finish]
    label := ⟨Scalar.half (outX + inX), below⟩ }

def routeBetween? (s : Settings α) (e : Edge) (source target : Node α) : Option (Route α) := do
  let start : Position α := ⟨source.right, ← source.anchor? s e.sourceRow⟩
  let finish : Position α := ⟨target.position.x, ← target.anchor? s e.targetRow⟩
  return if Scalar.less start.x finish.x then straightRoute e.id start finish
    else detourRoute s e.id source target start finish

/-- The boxes that an edge joins, if both are there. -/
def ends? (nodes : List (Node α)) (e : Edge) : Option (Edge × Node α × Node α) := do
  return (e, ← Node.ofId? nodes e.source, ← Node.ofId? nodes e.target)

/-- The routes of the edges whose boxes are there. -/
def routes? (s : Settings α) (nodes : List (Node α)) (edges : List Edge) :
    Option (List (Route α)) :=
  (edges.filterMap (ends? nodes)).mapM fun (e, source, target) => routeBetween? s e source target

end SchemaGraph.Layout

/-!
## Placing the boxes

Each layer is a column of boxes, centered in a column as wide as its widest box. The boxes of a
layer are stacked with a gap between them, and the layers are centered on the tallest one. Where the
boxes stood before plays no part.

A box is looked up by its id and a column needs a box, so placing is a partial function by its form;
it gives nothing only if a layer names a vertex that has no box, or is empty, or if the row of an
edge is beyond all coordinates.
-/

namespace SchemaGraph.Layout

variable {α : Type} [Scalar α]

/-- Stack boxes from a height on, around a vertical line. -/
def stack (s : Settings α) (centerX top : α) : List (Node α) → List (Node α)
  | [] => []
  | n :: rest =>
    let centerY := top + Scalar.half n.height
    { n with position := ⟨centerX - Scalar.half n.width, centerY - Scalar.half n.height⟩ } ::
      stack s centerX (top + (n.height + s.nodeSep)) rest

/-- A layer of boxes with its extent. -/
structure Column (α : Type) where
  nodes : List (Node α)
  width : α
  height : α

def column? (s : Settings α) (nodes : List (Node α)) : Option (Column α) := do
  let width ← Scalar.largest? (nodes.map (·.width))
  let gaps := s.nodeSep * Scalar.ofInt (nodes.length - 1)
  return ⟨nodes, width, Scalar.total (nodes.map (·.height)) + gaps⟩

/-- Set columns side by side from a left edge on. -/
def placeColumns (s : Settings α) (tallest left : α) : List (Column α) → List (Node α)
  | [] => []
  | c :: rest =>
    stack s (left + Scalar.half c.width) (s.margin + Scalar.half (tallest - c.height)) c.nodes ++
      placeColumns s tallest (left + (c.width + s.rankSep)) rest

/-- Lay out a graph that has vertices. -/
def place? (s : Settings α) (nodes : List (Node α)) (edges : List Edge) : Option (Result α) := do
  let ids := nodes.map (·.id)
  let boxes ← (layers ids edges).mapM fun layer => layer.mapM (Node.ofId? nodes)
  let columns ← boxes.mapM (column? s)
  let tallest ← Scalar.largest? (columns.map (·.height))
  let placed := placeColumns s tallest s.margin columns
  let positioned ← ids.mapM (Node.ofId? placed)
  let routes ← routes? s positioned edges
  let gaps := s.rankSep * Scalar.ofInt (columns.length - 1)
  let margins := Scalar.ofInt 2 * s.margin
  return {
    nodes := positioned
    edges
    routes
    ranks := ranks ids edges
    width := Scalar.total (columns.map (·.width)) + gaps + margins
    height := tallest + margins }

/-- Lay out a graph. -/
def layout? (s : Settings α) (nodes : List (Node α)) (edges : List Edge) : Option (Result α) :=
  match nodes with
  | [] => some ⟨[], edges, [], [], Scalar.ofInt 0, Scalar.ofInt 0⟩
  | _ => place? s nodes edges

end SchemaGraph.Layout

/-!
## Laying out a schema

The graph of a schema has a box for each table, as high as its columns need, and an edge for each
relationship. A relationship that resolves points from its child to its parent, whichever way it was
drawn, so tables with foreign keys stand to the left of the tables that they reference.
-/

namespace SchemaGraph.Layout

variable {α : Type} [Scalar α]

def nodeOfTable (s : Settings α) (t : Table α) : Node α :=
  ⟨t.id, s.nodeWidth, s.nodeHeight (Scalar.ofInt t.columns.length), t.position⟩

/-- The row of a column, the last one if ids repeat. -/
def rowOf? (tables : List (Table α)) (table column : String) : Option Int :=
  let rows := tables.flatMap fun t => t.columns.zipIdx.map fun (c, i) => ((t.id, c.id), (i : Int))
  rows.reverse.lookup (table, column)

/-- The edge of a relationship: from child to parent if it resolves, as drawn otherwise. -/
def edgeOfRelationship (tables : List (Table α)) (r : Relationship) : Edge :=
  let (source, sourceColumn, target, targetColumn) :=
    match r.resolve? tables with
    | some d => (d.childTableId, d.childColumnId, d.parentTableId, d.parentColumnId)
    | none => (r.source, r.sourceColumn, r.target, r.targetColumn)
  { id := r.id
    source
    target
    sourceRow := rowOf? tables source sourceColumn
    targetRow := rowOf? tables target targetColumn }

def graphOf (s : Settings α) (state : State α) : List (Node α) × List Edge :=
  (state.tables.map (nodeOfTable s), state.relationships.map (edgeOfRelationship state.tables))

def ofState? (s : Settings α) (state : State α) : Option (Result α) :=
  let (nodes, edges) := graphOf s state
  layout? s nodes edges

/-- Whether the positions say nothing: there are tables, and all of them are at the origin. -/
def isUnplaced (tables : List (Table α)) : Bool :=
  !tables.isEmpty && tables.all fun t => Scalar.isZero t.position.x && Scalar.isZero t.position.y

/-- Move every table to the place of its box. -/
def moveTables? (r : Result α) (tables : List (Table α)) : Option (List (Table α)) :=
  tables.mapM fun t => (Node.ofId? r.nodes t.id).map fun n => { t with position := n.position }

/-- A schema with its tables laid out. -/
def arrange? (s : Settings α) (state : State α) : Option (State α) :=
  if state.tables.isEmpty then some state
  else do
    let tables ← moveTables? (← ofState? s state) state.tables
    return { state with tables }

end SchemaGraph.Layout
