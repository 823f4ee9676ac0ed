import SchemaGraph.Schema.Check

/-!
# Changes

A change names the fields of a table, a column or a relationship that are to get new values. What
it does not name stays as it is, except that the whole record is put into normal form.
-/

namespace SchemaGraph

open Decode

structure TableChange (α : Type) where
  name : Option String := none
  position : Option (Position α) := none
  color : Option (Option String) := none
  description : Option (Option String) := none

namespace TableChange

variable {α : Type}

def fields : List String := ["name", "position", "color", "description"]

def apply (c : TableChange α) (t : Table α) : Table α :=
  { id := t.id
    name := c.name.getD t.name
    columns := t.columns.map Column.normal
    position := c.position.getD t.position
    color := c.color.getD t.color
    description := c.description.getD t.description }

@[simp] theorem apply_id (c : TableChange α) (t : Table α) : (c.apply t).id = t.id := rfl

def ofMembers (ms : Members) : Checked (TableChange Float) :=
  TableChange.mk <$> sent ["name"] checkName ms
    <*> sent ["position"] Position.check ms
    <*> sent ["color"] (nullable text) ms
    <*> sent ["description"] (nullable text) ms

end TableChange

structure ColumnChange where
  name : Option String := none
  dataType : Option String := none
  isPrimaryKey : Option Bool := none
  isForeignKey : Option Bool := none
  isNullable : Option Bool := none
  references : Option (Option ColumnReference) := none

namespace ColumnChange

def fields : List String :=
  ["name", "data_type", "is_primary_key", "is_foreign_key", "is_nullable", "references"]

def apply (c : ColumnChange) (column : Column) : Column :=
  let old := column.normal
  { id := old.id
    name := c.name.getD old.name
    dataType := c.dataType.getD old.dataType
    isPrimaryKey := c.isPrimaryKey.getD old.isPrimaryKey
    isForeignKey := c.isForeignKey.getD old.isForeignKey
    isNullable := c.isNullable.getD old.isNullable
    references := c.references.getD old.references }

@[simp] theorem apply_id (c : ColumnChange) (column : Column) :
    (c.apply column).id = column.id := rfl

def ofMembers (ms : Members) : Checked ColumnChange :=
  ColumnChange.mk <$> sent ["name"] checkName ms
    <*> sent ["data_type"] DataType.check ms
    <*> sent ["is_primary_key"] flag ms
    <*> sent ["is_foreign_key"] flag ms
    <*> sent ["is_nullable"] flag ms
    <*> sent ["references"] ColumnReference.checkKept ms

end ColumnChange

structure RelationshipChange where
  source : Option String := none
  target : Option String := none
  sourceColumn : Option String := none
  targetColumn : Option String := none
  label : Option (Option String) := none

namespace RelationshipChange

def fields : List String :=
  ["source", "target", "source_column_ref", "target_column_ref", "label"]

def apply (c : RelationshipChange) (r : Relationship) : Relationship :=
  let old := r.normal
  { id := old.id
    source := c.source.getD old.source
    target := c.target.getD old.target
    sourceColumn := c.sourceColumn.getD old.sourceColumn
    targetColumn := c.targetColumn.getD old.targetColumn
    label := c.label.getD old.label }

@[simp] theorem apply_id (c : RelationshipChange) (r : Relationship) :
    (c.apply r).id = r.id := rfl

def ofMembers (ms : Members) : Checked RelationshipChange :=
  RelationshipChange.mk <$> sent ["source"] text ms
    <*> sent ["target"] text ms
    <*> sent ["source_column_ref"] Relationship.checkEnd ms
    <*> sent ["target_column_ref"] Relationship.checkEnd ms
    <*> sent ["label"] (nullable text) ms

end RelationshipChange

/-- The names that no change of a kind knows, in order. -/
def unsupportedFields (known : List String) (ms : Members) : List String :=
  ((ms.map (·.1)).filter (!known.contains ·)).mergeSort (· ≤ ·)

end SchemaGraph
