import SchemaGraph.Command.Basic
import SchemaGraph.Editing.Basic

/-!
# Reading commands

The kind of a command decides which fields it has. Each field may be sent under its name on the wire
or in the settings style, and anything else that is sent is refused, after the findings in the
fields.
-/

namespace SchemaGraph

open Decode

namespace Command

/-- The names under which a field of a command may be sent. -/
def namesOf : String → List String
  | "table_id" => ["tableId", "table_id"]
  | "column_id" => ["columnId", "column_id"]
  | "relationship_id" => ["relationshipId", "relationship_id"]
  | "data_type" => ["dataType", "data_type", "columnType"]
  | "is_primary_key" => ["isPrimaryKey", "is_primary_key"]
  | "is_foreign_key" => ["isForeignKey", "is_foreign_key"]
  | "is_nullable" => ["isNullable", "is_nullable"]
  | "source_column_ref" => ["sourceColumnRef", "source_column_ref"]
  | "target_column_ref" => ["targetColumnRef", "target_column_ref"]
  | name => [name]

def needed (name : String) (ms : Members) : Checked String := required (namesOf name) text ms

def sentText (name : String) (ms : Members) : Checked (Option (Option String)) :=
  sent (namesOf name) (nullable text) ms

def sentFlag (name : String) (ms : Members) : Checked (Option (Option Bool)) :=
  sent (namesOf name) (nullable flag) ms

def sentReference (ms : Members) : Checked (Option (Option ColumnReference)) :=
  sent ["references"] (nullable ColumnReference.check) ms

def positionForm : Json → Checked PositionForm := record "Position" fun ms =>
  PositionForm.mk <$> sent ["x"] number ms <*> sent ["y"] number ms

def sentPosition (ms : Members) : Checked (Option (Option PositionForm)) :=
  sent ["position"] (nullable positionForm) ms

end Command

open Command

def TableForm.ofMembers (ms : Members) : Checked TableForm :=
  TableForm.mk <$> sentText "name" ms <*> sentPosition ms <*> sentText "color" ms
    <*> sentText "description" ms

def NewTable.ofMembers (ms : Members) : Checked NewTable :=
  (fun name columns position color description id =>
      { name, columns, position, color, description, id : NewTable })
    <$> sentText "name" ms
    <*> sent ["columns"] (nullable (list mapping)) ms
    <*> sentPosition ms
    <*> sentText "color" ms
    <*> sentText "description" ms
    <*> sentText "table_id" ms

def ColumnForm.ofMembers (ms : Members) : Checked ColumnForm :=
  ColumnForm.mk <$> sentText "name" ms <*> sentText "data_type" ms
    <*> sentFlag "is_primary_key" ms <*> sentFlag "is_foreign_key" ms <*> sentFlag "is_nullable" ms
    <*> sentReference ms

def NewColumn.ofMembers (ms : Members) : Checked NewColumn :=
  NewColumn.mk <$> sentText "name" ms <*> sentText "data_type" ms
    <*> sent (namesOf "is_primary_key") flag ms <*> sent (namesOf "is_foreign_key") flag ms
    <*> sent (namesOf "is_nullable") flag ms <*> sentReference ms <*> sentText "column_id" ms

def RelationshipForm.ofMembers (ms : Members) : Checked RelationshipForm :=
  RelationshipForm.mk <$> sentText "source" ms <*> sentText "target" ms
    <*> sentText "source_column_ref" ms <*> sentText "target_column_ref" ms <*> sentText "label" ms

/-- A new relationship, with its source and target fields in a given order. -/
def NewRelationship.ofMembers (ms : Members) : Checked NewRelationship :=
  NewRelationship.mk <$> needed "source" ms <*> needed "target" ms
    <*> needed "source_column_ref" ms <*> needed "target_column_ref" ms
    <*> sentText "label" ms <*> sentText "relationship_id" ms

/-- The same, with each table next to its column. -/
def NewRelationship.ofEnds (ms : Members) : Checked NewRelationship :=
  (fun source sourceColumn target targetColumn label id =>
      { source, target, sourceColumn, targetColumn, label, id : NewRelationship })
    <$> needed "source" ms <*> needed "source_column_ref" ms <*> needed "target" ms
    <*> needed "target_column_ref" ms <*> sentText "label" ms <*> sentText "relationship_id" ms

namespace Command

/-- The fields of each kind of command, and how they make one. -/
def shape? : String → Option (List String × (Members → Checked Command))
  | "add_table" => some (["name", "columns", "position", "color", "description", "table_id"],
      fun ms => addTable <$> NewTable.ofMembers ms)
  | "rename_table" => some (["table_id", "name"],
      fun ms => renameTable <$> needed "table_id" ms <*> needed "name" ms)
  | "update_table" => some (["table_id", "name", "position", "color", "description"],
      fun ms => updateTable <$> needed "table_id" ms <*> TableForm.ofMembers ms)
  | "remove_table" => some (["table_id"], fun ms => removeTable <$> needed "table_id" ms)
  | "add_column" => some (["table_id", "name", "data_type", "is_primary_key", "is_foreign_key",
      "is_nullable", "references", "column_id"],
      fun ms => addColumn <$> needed "table_id" ms <*> NewColumn.ofMembers ms)
  | "update_column" => some (["table_id", "column_id", "name", "data_type", "is_primary_key",
      "is_foreign_key", "is_nullable", "references"],
      fun ms => updateColumn <$> needed "table_id" ms <*> needed "column_id" ms
        <*> ColumnForm.ofMembers ms)
  | "remove_column" => some (["table_id", "column_id"],
      fun ms => removeColumn <$> needed "table_id" ms <*> needed "column_id" ms)
  | "add_relationship" => some (["source", "target", "source_column_ref", "target_column_ref",
      "label", "relationship_id"],
      fun ms => addRelationship <$> NewRelationship.ofMembers ms)
  | "connect_columns" => some (["source", "source_column_ref", "target", "target_column_ref",
      "label", "relationship_id"],
      fun ms => connectColumns <$> NewRelationship.ofEnds ms)
  | "update_relationship" => some (["relationship_id", "source", "target", "source_column_ref",
      "target_column_ref", "label"],
      fun ms => updateRelationship <$> needed "relationship_id" ms
        <*> RelationshipForm.ofMembers ms)
  | "remove_relationship" => some (["relationship_id"],
      fun ms => removeRelationship <$> needed "relationship_id" ms)
  | "set_dialect" => some (["dialect"],
      fun ms => setDialect <$> required ["dialect"] Dialect.check ms)
  | "auto_layout" => some ([], fun _ => .valid autoLayout)
  | _ => none

def ofMembers (ms : Members) : Checked Command :=
  match ms.get? "type" with
  | none => .fault (.untagged "type")
  | some tag =>
    match tag.asText?.bind shape? with
    | none => .fault (.unknownTag "type" tag.text kinds)
    | some (fields, check) =>
      (closed ("type" :: namesFound (fields.map namesOf) ms) ms (check ms)).below (.name tag.text)

/-- The failure of a command with faults in it. -/
def invalid (ms : Members) (found : Findings) : Failure :=
  .operation ⟨{ operation := "parse_command", more := [("type", (ms.get? "type").getD .null)] },
    .invalidCommand found⟩

/-- Read a command. A command that is not an object can be right, but its faults cannot be told. -/
def parse (payload : Json) : Except Failure Command := do
  match ofMembers (← payload.entries), payload with
  | .valid c, .obj _ => return c
  | .invalid found, .obj ms => .error (invalid ms found)
  | .tooDeep, _ => .error (.crash .tooDeep)
  | .valid c, v => if v.hasNames then return c else .error (.crash .noPart)
  | .invalid _, _ => .error (.crash .noPart)

end Command
end SchemaGraph
