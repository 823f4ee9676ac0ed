import SchemaGraph.Command.Basic
import SchemaGraph.Failure
import SchemaGraph.Json.Writer

/-!
# Commands as records

A command can be shown with all its fields, where those that were not sent have their defaults, or
with the sent ones only, which are the changes it asks for. Among all fields, drafts of columns are
shown as far as a document can hold them: with null for a number that is not finite, and only if
they are not nested too deep.
-/

namespace SchemaGraph

/-- A field of a command: its value with all defaults, and the part of it that was sent. -/
structure Command.Field where
  name : String
  value : Json
  sent : Option Json

namespace Command.Field

def plain (name : String) (v : Json) : Field := ⟨name, v, some v⟩

def ofFlag (name : String) (default : Bool) (v : Option Bool) : Field :=
  ⟨name, .bool (v.getD default), v.map .bool⟩

/-- A field that may be null, and is null when it was not sent. -/
def nullable (name : String) (toJson : α → Json) (v : Option (Option α)) : Field :=
  ⟨name, .ofOption toJson v.join, v.map (.ofOption toJson)⟩

def text (name : String) : Option (Option String) → Field := nullable name .str

end Command.Field

def PositionForm.sentJson (p : PositionForm) : Json :=
  let sent (name : String) (x : Option Float) : Members := (x.map fun x => (name, .float x)).toList
  .obj (sent "x" p.x ++ sent "y" p.y)

namespace TableForm

def positionField (p : Option (Option PositionForm)) : Command.Field :=
  ⟨"position", .ofOption (fun p => p.position.toJson) p.join,
    p.map (.ofOption PositionForm.sentJson)⟩

def fieldList (f : TableForm) : List Command.Field :=
  [.text "name" f.name, positionField f.position, .text "color" f.color,
    .text "description" f.description]

end TableForm

def columnsField (columns : Option (Option (List Members))) : Command.Field :=
  let drafts (cs : List Members) : Json := .arr (cs.map .obj)
  ⟨"columns", .ofOption (fun cs => (drafts cs).withFiniteNumbers) columns.join,
    columns.map (.ofOption drafts)⟩

def NewTable.fieldList (f : NewTable) : List Command.Field :=
  [.text "name" f.name, columnsField f.columns,
    TableForm.positionField f.position, .text "color" f.color, .text "description" f.description,
    .text "table_id" f.id]

def ColumnForm.fieldList (f : ColumnForm) : List Command.Field :=
  [.text "name" f.name, .text "data_type" f.dataType,
    .nullable "is_primary_key" .bool f.isPrimaryKey,
    .nullable "is_foreign_key" .bool f.isForeignKey,
    .nullable "is_nullable" .bool f.isNullable,
    .nullable "references" ColumnReference.toJson f.references]

def NewColumn.fieldList (f : NewColumn) : List Command.Field :=
  [.text "name" f.name, .text "data_type" f.dataType, .ofFlag "is_primary_key" false f.isPrimaryKey,
    .ofFlag "is_foreign_key" false f.isForeignKey, .ofFlag "is_nullable" true f.isNullable,
    .nullable "references" ColumnReference.toJson f.references, .text "column_id" f.id]

def RelationshipForm.fieldList (f : RelationshipForm) : List Command.Field :=
  [.text "source" f.source, .text "target" f.target, .text "source_column_ref" f.sourceColumn,
    .text "target_column_ref" f.targetColumn, .text "label" f.label]

def NewRelationship.fieldList (f : NewRelationship) : List Command.Field :=
  [.plain "source" (.str f.source), .plain "target" (.str f.target),
    .plain "source_column_ref" (.str f.sourceColumn),
    .plain "target_column_ref" (.str f.targetColumn), .text "label" f.label,
    .text "relationship_id" f.id]

namespace Command

/-- The fields of a command other than its kind. -/
def fieldList : Command → List Field
  | addTable form => form.fieldList
  | renameTable table name => [.plain "table_id" (.str table), .plain "name" (.str name)]
  | updateTable table form => .plain "table_id" (.str table) :: form.fieldList
  | removeTable table => [.plain "table_id" (.str table)]
  | addColumn table form => .plain "table_id" (.str table) :: form.fieldList
  | updateColumn table column form =>
    .plain "table_id" (.str table) :: .plain "column_id" (.str column) :: form.fieldList
  | removeColumn table column => [.plain "table_id" (.str table), .plain "column_id" (.str column)]
  | addRelationship form => form.fieldList
  | connectColumns form => form.fieldList
  | updateRelationship relationship form =>
    .plain "relationship_id" (.str relationship) :: form.fieldList
  | removeRelationship relationship => [.plain "relationship_id" (.str relationship)]
  | setDialect dialect => [.plain "dialect" (.str dialect.name)]
  | autoLayout => []

/-- All fields, with the kind first. -/
def fields (c : Command) : Members :=
  ("type", .str c.kind) :: c.fieldList.map fun f => (f.name, f.value)

/-- How many values a draft may hold one within the other to be shown. -/
def levelLimit : Nat := 254

def isShowable : Command → Bool
  | addTable form =>
    (form.columns.join.getD []).all fun draft => Json.memberLevels draft ≤ levelLimit
  | _ => true

/-- All fields, unless a draft is nested too deep. -/
def shownFields (c : Command) : Except Failure Members :=
  if c.isShowable then .ok c.fields else .error (.value .tooDeepToShow)

/-- The fields that were sent, without the excluded ones and the kind. -/
def changes (c : Command) (excluded : List String) : Members :=
  c.fieldList.filterMap fun f =>
    if excluded.contains f.name then none else f.sent.map (f.name, ·)

/-- The name of the record that holds a command: its kind in capitalised words. -/
def recordName (c : Command) : String :=
  let words := (c.kind.splitOn "_").map fun w =>
    match w.toList with
    | [] => ""
    | first :: rest => String.ofList (first.toUpper :: rest)
  String.join words ++ "Command"

end Command
end SchemaGraph
