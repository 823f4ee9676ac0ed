import SchemaGraph.Editing.Load
import SchemaGraph.Editing.Relationship

/-!
# Calling an operation by name

A caller may name an operation and give its arguments as a document. Arguments that the operation
does not have, or lacks, make the call one of the wrong kind. The other faults are those of the
operation itself, which takes most arguments as drafts. An id that is not text is that of nothing.
-/

namespace SchemaGraph.Editing

open Decode

/-- The arguments that an operation needs and may have, and whether it takes others. -/
structure Signature where
  needed : List String := []
  allowed : List String := []
  isOpen : Bool := false

namespace Signature

def accepts (s : Signature) (args : Members) : Bool :=
  s.needed.all args.has && !args.has "state" && !args.has "id_factory" &&
    (s.isOpen || args.all fun a => s.needed.contains a.1 || s.allowed.contains a.1)

def ends : List String := ["source", "source_column_ref", "target", "target_column_ref"]

def ofOperation? : String → Option Signature
  | "add_table" =>
    some { allowed := ["name", "columns", "position", "color", "description", "table_id"] }
  | "update_table" => some { needed := ["table_id"], isOpen := true }
  | "rename_table" => some { needed := ["table_id", "name"] }
  | "remove_table" => some { needed := ["table_id"] }
  | "add_column" =>
    some { needed := ["table_id"],
           allowed := ["name", "data_type", "is_primary_key", "is_foreign_key", "is_nullable",
             "references", "column_id"] }
  | "update_column" => some { needed := ["table_id", "column_id"], isOpen := true }
  | "remove_column" => some { needed := ["table_id", "column_id"] }
  | "add_relationship" => some { needed := ends, allowed := ["label", "relationship_id"] }
  | "connect_columns" => some { needed := ends, allowed := ["label", "relationship_id"] }
  | "update_relationship" => some { needed := ["relationship_id"], isOpen := true }
  | "remove_relationship" => some { needed := ["relationship_id"] }
  | "set_dialect" => some { needed := ["dialect"] }
  | "load_schema" =>
    some { needed := ["tables"]
           allowed := ["relationships", "dialect", "should_layout", "models"] }
  | "auto_layout" => some { allowed := ["settings"] }
  | _ => none

end Signature

def argument (args : Members) (name : String) (default : Json := .null) : Json :=
  (args.get? name).getD default

/-- The id of a table, which has to be text to be the id of any. -/
def tableArgument (operation : String) (args : Members) : Except Failure String :=
  match argument args "table_id" with
  | .str id => .ok id
  | v => do refuse { operation, tableId := v } (.missingTable (← v.printedOrFail))

def relationshipArgument (operation : String) (args : Members) : Except Failure String :=
  match argument args "relationship_id" with
  | .str id => .ok id
  | v => do refuse { operation, relationshipId := v } (.missingRelationship (← v.printedOrFail))

/-- The id of a column of a table, once the table has been found. -/
def columnArgument (operation table : String) (args : Members) (s : State α) :
    Except Failure String :=
  match argument args "column_id" with
  | .str id => .ok id
  | v => do
    let t ← s.requireTable operation table
    refuse { operation, tableId := .str t.id, columnId := v }
      (.missingColumn (← v.printedOrFail) t.name)

/-- The changes among the arguments, all of which have to be known. -/
def changeArguments (context : ErrorContext) (ids known : List String) (args : Members) :
    Except Failure Members :=
  let changes := args.filter fun a => !ids.contains a.1
  match unsupportedFields known changes with
  | [] => .ok changes
  | names => refuse context (.unsupportedFields names)

def tableDraft (args : Members) : TableDraft :=
  let get := argument args
  { name := get "name", columns := get "columns", position := get "position", color := get "color",
    description := get "description", id := get "table_id" }

def columnDraft (args : Members) : ColumnDraft :=
  let get := argument args
  { name := get "name", dataType := get "data_type",
    isPrimaryKey := argument args "is_primary_key" (.bool false),
    isForeignKey := argument args "is_foreign_key" (.bool false),
    isNullable := argument args "is_nullable" (.bool true),
    references := get "references", id := get "column_id" }

def relationshipDraft (args : Members) : RelationshipDraft :=
  let get := argument args
  { source := get "source", target := get "target", sourceColumn := get "source_column_ref",
    targetColumn := get "target_column_ref", label := get "label", id := get "relationship_id" }

def sourceArgument (args : Members) : Source :=
  let get := argument args
  { tables := get "tables", relationships := get "relationships",
    dialect := argument args "dialect" (.str Dialect.postgresql.name),
    shouldLayout := get "should_layout" }

/-- Load tables and relationships that are checked beforehand, so that no ids are drawn. -/
def loadChecked (layout : Except Failure (Layout.Settings Float)) (source : Source) :
    Except Failure (State Float) := do
  let tables ← (← source.tables.elements).mapM fun v => (Table.check v).orFail
  let relationships ← relationshipsOf source.relationships
  assemble layout tables relationships source

/-- The settings of the layout: those given, or those in force. -/
def layoutArgument (settings : Config.Settings) (args : Members) :
    Except Failure (Except Failure (Layout.Settings Float)) :=
  match argument args "settings" with
  | .null => .ok settings.layoutSettings
  | v => do return .ok (← (Layout.Form.check v).orFail).settings

def callAccepted (settings : Config.Settings) (operation : String) (args : Members)
    (s : State Float) : Edit (State Float) := do
  match operation with
  | "add_table" => addTable settings (tableDraft args) s
  | "update_table" =>
    let changes ← changeArguments { operation, tableId := argument args "table_id" } ["table_id"]
      TableChange.fields args
    let table ← tableArgument operation args
    updateTable table (TableChange.ofMembers changes) s
  | "rename_table" =>
    let table ← tableArgument "update_table" args
    updateTable table (TableChange.ofMembers [("name", argument args "name")]) s
  | "remove_table" => removeTable (← tableArgument operation args) s
  | "add_column" =>
    let _ ← settings.editing
    let table ← tableArgument operation args
    addColumn settings table (columnDraft args) s
  | "update_column" =>
    let context : ErrorContext :=
      { operation, tableId := argument args "table_id", columnId := argument args "column_id" }
    let changes ← changeArguments context ["table_id", "column_id"] ColumnChange.fields args
    let table ← tableArgument operation args
    let column ← columnArgument operation table args s
    updateColumn table column (ColumnChange.ofMembers changes) s
  | "remove_column" =>
    let table ← tableArgument operation args
    let column ← columnArgument operation table args s
    removeColumn table column s
  | "add_relationship" => addRelationship (relationshipDraft args) s
  | "connect_columns" => connectColumns (relationshipDraft args) s
  | "update_relationship" =>
    let context : ErrorContext := { operation, relationshipId := argument args "relationship_id" }
    let changes ← changeArguments context ["relationship_id"] RelationshipChange.fields args
    let id ← relationshipArgument operation args
    updateRelationship id (RelationshipChange.ofMembers changes) s
  | "remove_relationship" => removeRelationship (← relationshipArgument operation args) s
  | "set_dialect" => return setDialect (← dialectOf operation (argument args "dialect")) s
  | "load_schema" =>
    if (argument args "models").isGiven then
      loadChecked settings.layoutSettings (sourceArgument args)
    else loadSchema settings.layoutSettings (sourceArgument args)
  | _ => autoLayout (← layoutArgument settings args) s

/-- Call an operation by name. -/
def call (settings : Config.Settings) (operation : String) (args : Members) (s : State Float) :
    Edit (State Float) :=
  match Signature.ofOperation? operation with
  | some signature =>
    if signature.accepts args then callAccepted settings operation args s
    else throw (.crash .wrongKind)
  | none => throw (.crash .noPart)

end SchemaGraph.Editing
