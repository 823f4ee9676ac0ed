import SchemaGraph.Failure
import SchemaGraph.Json.Basic
import SchemaGraph.Json.Writer
import SchemaGraph.Schema.Basic

/-!
# Writing schemas

A schema is written as a document, and saved as a snapshot.

## Writing schemas as documents

The members of each object stand in a fixed order, and every field is written, also when it has its
default.
-/

namespace SchemaGraph

def Position.toJson (p : Position Float) : Json :=
  .obj [("x", .float p.x), ("y", .float p.y)]

def ColumnReference.toJson (r : ColumnReference) : Json :=
  .obj [("table", .str r.table), ("column", .str r.column)]

def Column.toJson (c : Column) : Json :=
  .obj [("id", .str c.id), ("name", .str c.name), ("type", .str c.dataType),
    ("isPrimaryKey", .bool c.isPrimaryKey), ("isForeignKey", .bool c.isForeignKey),
    ("isNullable", .bool c.isNullable),
    ("references", .ofOption ColumnReference.toJson c.references)]

namespace Table

/-- The fields of a table, with those of `more` between its columns and its color. -/
def membersWith (more : Members) (t : Table Float) : Members :=
  [("id", .str t.id), ("name", .str t.name), ("columns", .arr (t.columns.map Column.toJson))] ++
    more ++ [("color", .ofText? t.color), ("description", .ofText? t.description)]

def toJson (t : Table Float) : Json :=
  .obj (t.membersWith [("position", t.position.toJson)])

end Table

def Relationship.toJson (r : Relationship) : Json :=
  .obj [("id", .str r.id), ("source", .str r.source), ("target", .str r.target),
    ("sourceColumnRef", .str r.sourceColumn), ("targetColumnRef", .str r.targetColumn),
    ("label", .ofText? r.label)]

def Issue.toJson (i : Issue) : Json :=
  .obj [("id", .str i.id), ("severity", .str i.severity.name), ("title", .str i.title),
    ("description", .str i.description), ("affectedTableId", .ofText? i.affectedTable)]

def State.toJson (s : State Float) : Json :=
  .obj [("tables", .arr (s.tables.map Table.toJson)),
    ("relationships", .arr (s.relationships.map Relationship.toJson)),
    ("dialect", .str s.dialect.name)]

end SchemaGraph

/-!
## Writing snapshots

A schema is saved as it is or in the shape of the canvas, where each table is a node and each
relationship an edge between handles. An edge has a label only if the relationship has one.
-/

namespace SchemaGraph.Snapshot

def node (t : Table Float) : Json :=
  .obj [("id", .str t.id), ("type", .str "tableNode"), ("position", t.position.toJson),
    ("data", .obj (t.membersWith []))]

def edge (r : Relationship) : Json :=
  .obj <| [("id", .str r.id), ("source", .str r.source), ("target", .str r.target),
    ("type", .str "smoothstep"), ("sourceHandle", .str r.sourceHandle),
    ("targetHandle", .str r.targetHandle)] ++
      match r.label with
      | some label => [("label", .str label)]
      | none => []

def canvas (s : State Float) : Json :=
  .obj [("nodes", .arr (s.tables.map node)), ("edges", .arr (s.relationships.map edge)),
    ("dialect", .str s.dialect.name)]

/-- The shape in which a schema is saved. -/
def shape (onCanvas : Bool) (s : State Float) : Json :=
  if onCanvas then canvas s else s.toJson

def write (onCanvas : Bool) (indent : Option String) (s : State Float) : String :=
  Json.write (.saved indent) (shape onCanvas s)

/-- The unit of indentation that a value asks for: a text, or a number of spaces. -/
def indentOf : Json → Except Failure (Option String)
  | .null => .ok none
  | .str s => .ok (some s)
  | .int n => .ok (some (String.ofList (List.replicate n.toNat ' ')))
  | .bool b => .ok (some (if b then " " else ""))
  | _ => .error (.crash .wrongKind)

end SchemaGraph.Snapshot
