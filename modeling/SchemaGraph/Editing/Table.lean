import SchemaGraph.Config.Settings
import SchemaGraph.Editing.Basic
import SchemaGraph.Editing.Change

/-!
# Editing tables and columns

Each operation takes a schema and gives the next one. An operation on something that is not there is
refused, and so is an id that is in use. Removing a table or a column removes the relationships that
end at it as well.

New tables and columns are drafts: their parts are kept as documents, and are checked only when the
record is built, after its ids have been drawn and found to be free.
-/

namespace SchemaGraph

open Decode

def refuse (context : ErrorContext) (fault : OperationFault) : Except Failure α :=
  .error (.operation ⟨context, fault⟩)

/-- A change that has to be valid for an operation to go on. -/
def accept (context : ErrorContext) (c : Checked α) : Except Failure α :=
  match c with
  | .valid a => .ok a
  | .invalid found => refuse context (.invalidValue found)
  | .tooDeep => .error (.crash .tooDeep)

/-- The name to start from: the one asked for without blank ends, or the default. -/
def baseName (v : Json) (default : String) : Except Failure String :=
  if !v.isGiven then .ok default
  else
    match v with
    | .str s => .ok (if Text.allBlank s then default else Text.trim s)
    | _ => .error (.crash .noPart)

namespace Table

variable {α : Type}

def requireColumn (operation id : String) (t : Table α) : Except Failure Column :=
  match t.column? id with
  | some c => .ok c
  | none =>
    refuse { operation, tableId := .str t.id, columnId := .str id } (.missingColumn id t.name)

end Table

namespace State

variable {α : Type}

def requireTable (operation id : String) (s : State α) : Except Failure (Table α) :=
  match s.table? id with
  | some t => .ok t
  | none => refuse { operation, tableId := .str id } (.missingTable id)

/-- Put another table in the place of the first one with an id. -/
def replaceTable (s : State α) (id : String) (t : Table α) : State α :=
  match s.tableIndex? id with
  | some i => { s with tables := s.tables.set i t }
  | none => s

/-- Putting a table in the place of one with its id changes no id. -/
theorem map_id_replaceTable (s : State α) {id : String} {t : Table α} (h : t.id = id) :
    (s.replaceTable id t).tables.map (·.id) = s.tables.map (·.id) := by
  unfold replaceTable
  split
  · rename_i i hi
    simp only [List.map_set]
    obtain ⟨hlt, hp, _⟩ := List.findIdx?_eq_some_iff_getElem.mp hi
    apply List.ext_getElem (by simp)
    intro n h₁ h₂
    rw [List.getElem_set]
    split
    · rename_i he
      subst he
      simp only [List.getElem_map]
      simpa [h] using (beq_iff_eq.mp hp).symm
    · rfl
  · rfl

end State

namespace Editing

variable {α : Type}

/-- A column as it is first asked for. -/
def columnOf (draft : Json) : Edit Column := do
  let ms ← draft.entries
  let id ← Edit.freshId
  (Column.check (.obj (ms.putNew "id" (.str id)))).orFail

def columnsOf (drafts : Json) : Edit (List Column) := do
  (← drafts.elements).mapM columnOf

/-- The one column of a table for which none are asked for. -/
def keyColumn (id : String) : Column :=
  { id, name := "id", dataType := "INT", isPrimaryKey := true, isNullable := false }

structure TableDraft where
  name : Json := .null
  columns : Json := .null
  position : Json := .null
  color : Json := .null
  description : Json := .null
  id : Json := .null

namespace TableDraft

def newColumns (d : TableDraft) : Edit (List Column) :=
  match d.columns with
  | .null => do return [keyColumn (← Edit.freshId)]
  | drafts => columnsOf drafts

def place (spawn : Position Float) (d : TableDraft) : Except Failure (Position Float) :=
  match d.position with
  | .null => .ok spawn
  | v => (Position.check v).orFail

/-- Check the parts of a draft that are left as they were given. -/
def build (d : TableDraft) (id : Json) (name : String) (columns : List Column)
    (position : Position Float) : Checked (Table Float) :=
  Table.mk <$> (text id).below (.name "id") <*> .valid name <*> .valid columns <*> .valid position
    <*> (nullable text d.color).below (.name "color")
    <*> (nullable text d.description).below (.name "description")

end TableDraft

/-- Whether an id is that of a table. An id that is not text is that of none. -/
def isTableId (s : State α) : Json → Bool
  | .str id => (s.table? id).isSome
  | _ => false

def addTable (settings : Config.Settings) (d : TableDraft) (s : State Float) :
    Edit (State Float) := do
  let defaults ← settings.editing
  let base ← baseName d.name defaults.tableName
  let name := freeName base (s.tables.map (·.name))
  let id ← Edit.givenId d.id
  if isTableId s id then
    refuse { operation := "add_table", tableId := id } (.tableIdTaken id.text)
  else
    let columns ← d.newColumns
    let position ← d.place defaults.spawnPosition
    let t ← (d.build id name columns position).orFail
    return { s with tables := s.tables ++ [t] }

def updateTable (id : String) (change : Checked (TableChange α)) (s : State α) :
    Except Failure (State α) := do
  let t ← s.requireTable "update_table" id
  let c ← accept { operation := "update_table", tableId := .str id } change
  return s.replaceTable id (c.apply t)

/-- Rename a table. Whether other tables have the name is left to validation. -/
def renameTable (id name : String) (s : State α) : Except Failure (State α) :=
  updateTable id (.valid { name := some name }) s

def removeTable (id : String) (s : State α) : Except Failure (State α) := do
  let _ ← s.requireTable "remove_table" id
  return { s with
    tables := s.tables.filter (·.id != id)
    relationships := s.relationships.filter (!·.touchesTable id) }

structure ColumnDraft where
  name : Json := .null
  dataType : Json := .null
  isPrimaryKey : Json := .bool false
  isForeignKey : Json := .bool false
  isNullable : Json := .bool true
  references : Json := .null
  id : Json := .null

/-- The draft as the document of a column. -/
def ColumnDraft.document (d : ColumnDraft) (id : Json) (name defaultType : String) : Json :=
  .obj [("id", id), ("name", .str name),
    ("data_type", if d.dataType.isGiven then d.dataType else .str defaultType),
    ("is_primary_key", d.isPrimaryKey), ("is_foreign_key", d.isForeignKey),
    ("is_nullable", d.isNullable), ("references", d.references)]

def isColumnId (t : Table α) : Json → Bool
  | .str id => (t.column? id).isSome
  | _ => false

def addColumn (settings : Config.Settings) (table : String) (d : ColumnDraft) (s : State α) :
    Edit (State α) := do
  let defaults ← settings.editing
  let t ← s.requireTable "add_column" table
  let id ← Edit.givenId d.id
  if isColumnId t id then
    refuse { operation := "add_column", tableId := .str table, columnId := id }
      (.columnIdTaken id.text)
  else
    let base ← baseName d.name defaults.columnName
    let name := freeName base (t.columns.map (·.name))
    let c ← (Column.check (d.document id name defaults.columnType)).orFail
    return s.replaceTable table { t with columns := t.columns ++ [c] }

def updateColumn (table column : String) (change : Checked ColumnChange) (s : State α) :
    Except Failure (State α) := do
  let t ← s.requireTable "update_column" table
  let old ← t.requireColumn "update_column" column
  let c ← accept
    { operation := "update_column", tableId := .str table, columnId := .str column } change
  let new := c.apply old
  return s.replaceTable table
    { t with columns := t.columns.map fun c => if c.id == column then new else c }

def removeColumn (table column : String) (s : State α) : Except Failure (State α) := do
  let t ← s.requireTable "remove_column" table
  let _ ← t.requireColumn "remove_column" column
  let s := s.replaceTable table { t with columns := t.columns.filter (·.id != column) }
  return { s with relationships := s.relationships.filter (!·.touchesColumn table column) }

end Editing
end SchemaGraph
