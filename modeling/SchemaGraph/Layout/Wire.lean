import SchemaGraph.Decode.Scalar
import SchemaGraph.Layout.Basic
import SchemaGraph.Schema.Check
import SchemaGraph.Snapshot.Writer

/-!
# Layouts as documents

Settings, graphs and results are read from objects and written as objects.

## Layout settings as written

Settings are written with any of their fields left out, and shown again with the defaults filled in
as the whole numbers they are. Boxes, edges, routes and results are shown with their field names.
-/

namespace SchemaGraph.Layout

open Decode

structure Form where
  nodeWidth : Option Float := none
  headerHeight : Option Float := none
  rowHeight : Option Float := none
  padding : Option Float := none
  rankSep : Option Float := none
  nodeSep : Option Float := none
  margin : Option Float := none
  edgeDetour : Option Float := none

/-- The settings that apply where none are written. -/
def defaults : Settings Int := ⟨260, 45, 36, 20, 120, 80, 0, 40⟩

namespace Form

def ofMembers (ms : Members) : Checked Form :=
  Form.mk <$> sent ["node_width"] positive ms
    <*> sent ["header_height"] nonNegative ms
    <*> sent ["row_height"] nonNegative ms
    <*> sent ["padding"] nonNegative ms
    <*> sent ["rank_sep"] nonNegative ms
    <*> sent ["node_sep"] nonNegative ms
    <*> sent ["margin"] nonNegative ms
    <*> sent ["edge_detour"] nonNegative ms

def check : Json → Checked Form := record "LayoutSettings" ofMembers

def settings (f : Form) : Settings Float :=
  let fill (x : Option Float) (d : Int) : Float := x.getD (Scalar.ofInt d)
  ⟨fill f.nodeWidth defaults.nodeWidth, fill f.headerHeight defaults.headerHeight,
    fill f.rowHeight defaults.rowHeight, fill f.padding defaults.padding,
    fill f.rankSep defaults.rankSep, fill f.nodeSep defaults.nodeSep,
    fill f.margin defaults.margin, fill f.edgeDetour defaults.edgeDetour⟩

/-- The settings as shown: what was written as a decimal, a default as the integer it is. -/
def toJson (f : Form) : Json :=
  let shown (x : Option Float) (d : Int) : Json :=
    match x with
    | some x => .float x
    | none => .int d
  .obj [("node_width", shown f.nodeWidth defaults.nodeWidth),
    ("header_height", shown f.headerHeight defaults.headerHeight),
    ("row_height", shown f.rowHeight defaults.rowHeight),
    ("padding", shown f.padding defaults.padding),
    ("rank_sep", shown f.rankSep defaults.rankSep),
    ("node_sep", shown f.nodeSep defaults.nodeSep),
    ("margin", shown f.margin defaults.margin),
    ("edge_detour", shown f.edgeDetour defaults.edgeDetour)]

end Form

def Settings.toJson (s : Settings Float) : Json :=
  .obj [("node_width", .float s.nodeWidth), ("header_height", .float s.headerHeight),
    ("row_height", .float s.rowHeight), ("padding", .float s.padding),
    ("rank_sep", .float s.rankSep), ("node_sep", .float s.nodeSep),
    ("margin", .float s.margin), ("edge_detour", .float s.edgeDetour)]

end SchemaGraph.Layout

/-!
## Graphs as documents

Boxes and edges are read from objects, so that a graph can be laid out without a schema, and graphs
and results are written as objects.
-/

namespace SchemaGraph.Layout

open Decode

namespace Node

def ofMembers (ms : Members) : Checked (Node Float) :=
  Node.mk <$> required ["id"] text ms
    <*> required ["width"] number ms
    <*> required ["height"] number ms
    <*> optional ["position"] Position.origin Position.check ms

def check : Json → Checked (Node Float) := record "LayoutNode" ofMembers

def toJson (n : Node Float) : Json :=
  .obj [("id", .str n.id), ("width", .float n.width), ("height", .float n.height),
    ("position", n.position.toJson)]

end Node

namespace Edge

def ofMembers (ms : Members) : Checked Edge :=
  Edge.mk <$> required ["id"] text ms
    <*> required ["source"] text ms
    <*> required ["target"] text ms
    <*> optional ["source_row"] none (nullable integer) ms
    <*> optional ["target_row"] none (nullable integer) ms

def check : Json → Checked Edge := record "LayoutEdge" ofMembers

def toJson (e : Edge) : Json :=
  .obj [("id", .str e.id), ("source", .str e.source), ("target", .str e.target),
    ("source_row", .ofOption .int e.sourceRow), ("target_row", .ofOption .int e.targetRow)]

end Edge

def Route.toJson (r : Route Float) : Json :=
  .obj [("edge_id", .str r.edge), ("points", .arr (r.points.map Position.toJson)),
    ("label_position", r.label.toJson)]

def Result.members (r : Result Float) : Members :=
  [("nodes", .arr (r.nodes.map Node.toJson)), ("edges", .arr (r.edges.map Edge.toJson)),
    ("routes", .arr (r.routes.map Route.toJson)),
    ("ranks", .obj (r.ranks.map fun (v, n) => (v, .ofNat n))),
    ("width", .float r.width), ("height", .float r.height)]

def Result.toJson (r : Result Float) : Json := .obj r.members

end SchemaGraph.Layout
