import SchemaGraph.Editing.Change
import SchemaGraph.Snapshot.Writer

/-!
# Commands

A command asks for one edit, and has a form with the fields of that edit. A field that was not sent
is told apart from one that was sent as null: an update changes the fields that were sent and no
others. A field is therefore none when it was not sent, and a sent field is again none when it was
null.
-/

namespace SchemaGraph

/-- A position of which a coordinate may be left out. -/
structure PositionForm where
  x : Option Float := none
  y : Option Float := none

/-- The position meant; a coordinate left out is zero. -/
def PositionForm.position (p : PositionForm) : Position Float := ⟨p.x.getD 0.0, p.y.getD 0.0⟩

structure TableForm where
  name : Option (Option String) := none
  position : Option (Option PositionForm) := none
  color : Option (Option String) := none
  description : Option (Option String) := none

structure NewTable extends TableForm where
  columns : Option (Option (List Members)) := none
  id : Option (Option String) := none

structure ColumnForm where
  name : Option (Option String) := none
  dataType : Option (Option String) := none
  isPrimaryKey : Option (Option Bool) := none
  isForeignKey : Option (Option Bool) := none
  isNullable : Option (Option Bool) := none
  references : Option (Option ColumnReference) := none

structure NewColumn where
  name : Option (Option String) := none
  dataType : Option (Option String) := none
  isPrimaryKey : Option Bool := none
  isForeignKey : Option Bool := none
  isNullable : Option Bool := none
  references : Option (Option ColumnReference) := none
  id : Option (Option String) := none

structure RelationshipForm where
  source : Option (Option String) := none
  target : Option (Option String) := none
  sourceColumn : Option (Option String) := none
  targetColumn : Option (Option String) := none
  label : Option (Option String) := none

structure NewRelationship where
  source : String
  target : String
  sourceColumn : String
  targetColumn : String
  label : Option (Option String) := none
  id : Option (Option String) := none

inductive Command where
  | addTable (form : NewTable)
  | renameTable (table name : String)
  | updateTable (table : String) (form : TableForm)
  | removeTable (table : String)
  | addColumn (table : String) (form : NewColumn)
  | updateColumn (table column : String) (form : ColumnForm)
  | removeColumn (table column : String)
  | addRelationship (form : NewRelationship)
  | connectColumns (form : NewRelationship)
  | updateRelationship (relationship : String) (form : RelationshipForm)
  | removeRelationship (relationship : String)
  | setDialect (dialect : Dialect)
  | autoLayout

namespace Command

def kinds : List String :=
  ["add_table", "rename_table", "update_table", "remove_table", "add_column", "update_column",
    "remove_column", "add_relationship", "connect_columns", "update_relationship",
    "remove_relationship", "set_dialect", "auto_layout"]

def kind : Command → String
  | addTable _ => "add_table"
  | renameTable .. => "rename_table"
  | updateTable .. => "update_table"
  | removeTable _ => "remove_table"
  | addColumn .. => "add_column"
  | updateColumn .. => "update_column"
  | removeColumn .. => "remove_column"
  | addRelationship _ => "add_relationship"
  | connectColumns _ => "connect_columns"
  | updateRelationship .. => "update_relationship"
  | removeRelationship _ => "remove_relationship"
  | setDialect _ => "set_dialect"
  | autoLayout => "auto_layout"

end Command
end SchemaGraph
