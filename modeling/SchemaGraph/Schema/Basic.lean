import SchemaGraph.DataType
import SchemaGraph.Text.Normal

/-!
# Schemas

A schema is a list of tables and a list of relationships between their columns, with the dialect
in which it is to be written out. Tables carry their place on the canvas. Nothing in a schema is
ever changed: editing returns a new one.

The type of coordinates is a parameter. A schema that was loaded has floating point coordinates;
exact ones serve to reason about the layout, on which nothing else depends.
-/

namespace SchemaGraph

inductive Dialect where
  | postgresql | mysql | sqlite | sqlServer
  deriving Repr, DecidableEq, Inhabited

namespace Dialect

def name : Dialect → String
  | postgresql => "PostgreSQL" | mysql => "MySQL" | sqlite => "SQLite" | sqlServer => "SQL Server"

def all : List Dialect := [postgresql, mysql, sqlite, sqlServer]

end Dialect

/-- What happens to a row when the row that it references goes away or changes its key. -/
inductive ReferentialAction where
  | noAction | cascade | setNull | restrict
  deriving Repr, DecidableEq, Inhabited

namespace ReferentialAction

def name : ReferentialAction → String
  | noAction => "NO ACTION" | cascade => "CASCADE" | setNull => "SET NULL" | restrict => "RESTRICT"

def all : List ReferentialAction := [noAction, cascade, setNull, restrict]

end ReferentialAction

inductive Severity where
  | error | warning | info
  deriving Repr, DecidableEq, Inhabited

namespace Severity

def name : Severity → String
  | error => "error" | warning => "warning" | info => "info"

def all : List Severity := [error, warning, info]

end Severity

/-- The top left corner of a table on the canvas. -/
structure Position (α : Type) where
  x : α
  y : α
  deriving Repr, BEq, DecidableEq, Inhabited

/-- A pointer, by names, from a foreign key column to the column it references. -/
structure ColumnReference where
  table : String
  column : String
  deriving Repr, DecidableEq, Inhabited

structure Column where
  id : String
  name : String := ""
  dataType : String := DataType.fallback
  isPrimaryKey : Bool := false
  isForeignKey : Bool := false
  isNullable : Bool := true
  references : Option ColumnReference := none
  deriving Repr, DecidableEq, Inhabited

structure Table (α : Type) where
  id : String
  name : String
  columns : List Column
  position : Position α
  color : Option String := none
  description : Option String := none
  deriving Repr, BEq, DecidableEq

/-- An edge between a column of the source table and one of the target table, as it was drawn. -/
structure Relationship where
  id : String
  source : String
  target : String
  sourceColumn : String
  targetColumn : String
  label : Option String := none
  deriving Repr, DecidableEq, Inhabited

structure Issue where
  id : String
  severity : Severity
  title : String
  description : String
  affectedTable : Option String := none
  deriving Repr, DecidableEq, Inhabited

structure State (α : Type) where
  tables : List (Table α) := []
  relationships : List Relationship := []
  dialect : Dialect := .postgresql
  deriving Repr, BEq, DecidableEq, Inhabited

namespace Column

/-- A column acts as a foreign key when it is flagged as one or carries a reference. -/
def actsAsForeignKey (c : Column) : Bool := c.isForeignKey || c.references.isSome

def category (c : Column) : DataType := DataType.classify c.dataType

/-- A reference to a blank table name is no reference. -/
def keptReference (r : ColumnReference) : Option ColumnReference :=
  if Text.allBlank r.table then none else some r

/-- The form in which a column is stored: with a type, and without a blank reference. -/
def normal (c : Column) : Column :=
  { c with
    dataType := DataType.store (.str c.dataType) DataType.fallback
    references := c.references.bind keptReference }

@[simp] theorem normal_id (c : Column) : c.normal.id = c.id := rfl
@[simp] theorem normal_name (c : Column) : c.normal.name = c.name := rfl

end Column

namespace Table

variable {α : Type}

/-- The first column with an id. -/
def column? (t : Table α) (id : String) : Option Column := t.columns.find? (·.id == id)

/-- The first column with a name, up to case. -/
def columnNamed? (t : Table α) (name : String) : Option Column :=
  t.columns.find? fun c => Text.lower c.name == Text.lower name

def primaryKeys (t : Table α) : List Column := t.columns.filter (·.isPrimaryKey)

def normal (t : Table α) : Table α := { t with columns := t.columns.map Column.normal }

@[simp] theorem normal_id (t : Table α) : t.normal.id = t.id := rfl

/-- The last table with an id, which is the one that look-ups for edges take. -/
def ofId? (tables : List (Table α)) (id : String) : Option (Table α) :=
  tables.reverse.find? (·.id == id)

/-- The first table with a name, up to case. -/
def named? (tables : List (Table α)) (name : String) : Option (Table α) :=
  tables.find? fun t => Text.lower t.name == Text.lower name

end Table

namespace Relationship

/-- Drop one of the two words that a handle on the canvas puts before a column id. -/
def withoutHandle (ref : String) : String :=
  let cs := ref.toList
  match ["source-", "target-"].find? fun p => p.toList.isPrefixOf cs with
  | some p => String.ofList (cs.drop p.toList.length)
  | none => ref

def sourceHandle (r : Relationship) : String := "source-" ++ r.sourceColumn

def targetHandle (r : Relationship) : String := "target-" ++ r.targetColumn

def touchesTable (r : Relationship) (table : String) : Bool :=
  r.source == table || r.target == table

def touchesColumn (r : Relationship) (table column : String) : Bool :=
  (r.source == table && r.sourceColumn == column) ||
    (r.target == table && r.targetColumn == column)

/-- The form in which a relationship is stored: its column ids without handle words. -/
def normal (r : Relationship) : Relationship :=
  { r with
    sourceColumn := withoutHandle r.sourceColumn
    targetColumn := withoutHandle r.targetColumn }

@[simp] theorem normal_id (r : Relationship) : r.normal.id = r.id := rfl
@[simp] theorem normal_source (r : Relationship) : r.normal.source = r.source := rfl
@[simp] theorem normal_target (r : Relationship) : r.normal.target = r.target := rfl

end Relationship

namespace State

variable {α : Type}

/-- The first table with an id. -/
def table? (s : State α) (id : String) : Option (Table α) := s.tables.find? (·.id == id)

def tableIndex? (s : State α) (id : String) : Option Nat := s.tables.findIdx? (·.id == id)

def relationship? (s : State α) (id : String) : Option Relationship :=
  s.relationships.find? (·.id == id)

end State
end SchemaGraph
