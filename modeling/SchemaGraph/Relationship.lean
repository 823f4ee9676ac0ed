import SchemaGraph.Schema.Basic

/-!
# Relationships

A relationship is an edge between two columns. What it means for them is found by resolving it, and
the references of the columns in turn say which edges there are.

## Which end is the child

An edge records two columns and the direction in which it was drawn. The child, which holds the
foreign key, is found from the columns, and the first rule that tells them apart decides: one of
them references the other by name, one of them acts as a foreign key, one of them is a primary key.
If no rule does, the drawn direction counts and the source is the child.
-/

namespace SchemaGraph

inductive Rule where
  | referencePointer | foreignKeyFlag | primaryKeyFlag | drawnDirection
  deriving Repr, DecidableEq, Inhabited

def Rule.name : Rule → String
  | referencePointer => "reference_pointer"
  | foreignKeyFlag => "foreign_key_flag"
  | primaryKeyFlag => "primary_key_flag"
  | drawnDirection => "source_target_fallback"

structure Orientation where
  childIsSource : Bool
  rule : Rule
  deriving Repr, DecidableEq, Inhabited

namespace Column

/-- Whether a reference names a column of a table, up to case. Without the table it names none. -/
def pointsAt (c : Column) (table : Option String) (other : Column) : Bool :=
  match c.references, table with
  | some r, some t =>
    Text.lower r.table == Text.lower t && Text.lower r.column == Text.lower other.name
  | _, _ => false

/-- Find the child among two connected columns; the names of their tables may be unknown. -/
def orient (source target : Column) (sourceTable targetTable : Option String) : Orientation :=
  if source.pointsAt targetTable target != target.pointsAt sourceTable source then
    ⟨source.pointsAt targetTable target, .referencePointer⟩
  else if source.actsAsForeignKey != target.actsAsForeignKey then
    ⟨source.actsAsForeignKey, .foreignKeyFlag⟩
  else if source.isPrimaryKey != target.isPrimaryKey then
    ⟨!source.isPrimaryKey, .primaryKeyFlag⟩
  else ⟨true, .drawnDirection⟩

end Column
end SchemaGraph

/-!
## Resolved relationships

An edge whose tables and columns all exist is resolved: its child and its parent are named. All
that depends on the direction of a foreign key, from the statements of a script to the layout, goes
through this one function, so that they agree. An edge with a missing end resolves to nothing.
-/

namespace SchemaGraph

structure Resolved where
  relationshipId : String
  childTableId : String
  childTable : String
  childColumnId : String
  childColumn : String
  parentTableId : String
  parentTable : String
  parentColumnId : String
  parentColumn : String
  rule : Rule
  deriving Repr, DecidableEq, Inhabited

namespace Resolved

/-- What the name of a constraint is made of. Two edges with the same key are one constraint. -/
def constraintKey (r : Resolved) : String × String × String :=
  (r.childTable, r.parentTable, r.childColumn)

def constraintName (r : Resolved) : String :=
  s!"fk_{r.childTable}_{r.parentTable}_{r.childColumn}"

/-- The ids of the four ends: child table and column, parent table and column. -/
def signature (r : Resolved) : List String :=
  [r.childTableId, r.childColumnId, r.parentTableId, r.parentColumnId]

end Resolved

namespace Relationship

variable {α : Type}

/-- Name the child and the parent of an edge between two given columns. -/
def resolveBetween (r : Relationship) (source : Table α) (sourceColumn : Column)
    (target : Table α) (targetColumn : Column) : Resolved :=
  let o := Column.orient sourceColumn targetColumn (some source.name) (some target.name)
  if o.childIsSource then
    ⟨r.id, source.id, source.name, sourceColumn.id, sourceColumn.name,
      target.id, target.name, targetColumn.id, targetColumn.name, o.rule⟩
  else
    ⟨r.id, target.id, target.name, targetColumn.id, targetColumn.name,
      source.id, source.name, sourceColumn.id, sourceColumn.name, o.rule⟩

def resolve? (tables : List (Table α)) (r : Relationship) : Option Resolved := do
  let source ← Table.ofId? tables r.source
  let target ← Table.ofId? tables r.target
  let sourceColumn ← source.column? r.sourceColumn
  let targetColumn ← target.column? r.targetColumn
  return r.resolveBetween source sourceColumn target targetColumn

/-- Resolve what can be resolved, in order. -/
def resolveAll (tables : List (Table α)) (rs : List Relationship) : List Resolved :=
  rs.filterMap (resolve? tables)

/-- The order of signatures, by the first part in which they differ. -/
def signatureLe (a b : List String) : Bool := !b.lex a fun x y => decide (x < y)

/-- The signatures of all resolved edges, each once and in order. -/
def signatures (tables : List (Table α)) (rs : List Relationship) : List (List String) :=
  ((resolveAll tables rs).map Resolved.signature).eraseDups.mergeSort signatureLe

/-- Whether both tables and both columns of an edge exist. -/
def isAnchored (tables : List (Table α)) (r : Relationship) : Bool :=
  match Table.ofId? tables r.source, Table.ofId? tables r.target with
  | some source, some target =>
    (source.column? r.sourceColumn).isSome && (target.column? r.targetColumn).isSome
  | _, _ => false

/-- Keep the edges that dangle nowhere. -/
def prune (tables : List (Table α)) (rs : List Relationship) : List Relationship :=
  rs.filter (isAnchored tables)

end Relationship

namespace Resolved

variable {α : Type}

/-- The child column as a resolved edge leaves it: flagged, and pointing at the parent. -/
def markColumn (r : Resolved) (c : Column) : Column :=
  if c.id == r.childColumnId then
    { c with isForeignKey := true, references := some ⟨r.parentTable, r.parentColumn⟩ }
  else c

/-- Write a resolved edge onto its child column. -/
def mark (r : Resolved) (tables : List (Table α)) : List (Table α) :=
  tables.map fun t =>
    if t.id == r.childTableId then { t with columns := t.columns.map r.markColumn } else t

@[simp] theorem markColumn_id (r : Resolved) (c : Column) : (r.markColumn c).id = c.id := by
  unfold markColumn
  split <;> rfl
@[simp] theorem markColumn_name (r : Resolved) (c : Column) :
    (r.markColumn c).name = c.name := by
  unfold markColumn
  split <;> rfl

end Resolved

/-- Write edges onto their child columns one after another, each seeing what the ones before it
wrote. -/
def Relationship.markAll {α : Type} (tables : List (Table α)) (rs : List Relationship) :
    List (Table α) :=
  rs.foldl (fun tables r =>
    match r.resolve? tables with
    | some resolved => resolved.mark tables
    | none => tables) tables

end SchemaGraph

/-!
## Edges from references

The references stored on columns are enough to draw the edges: each one gives an edge from its
column to the column it names. A reference to a table that does not exist gives none, and one to a
missing column goes to the primary key if the parent has exactly one.
-/

namespace SchemaGraph

namespace Table

variable {α : Type}

/-- The column that a reference by name means. -/
def parentColumn? (t : Table α) (name : String) : Option Column :=
  (t.columnNamed? name).or <|
    match t.primaryKeys with
    | [c] => some c
    | _ => none

end Table

namespace Relationship

variable {α : Type}

def derivedId (childTable parentTable childColumn : String) : String :=
  s!"e-{childTable}-{parentTable}-{childColumn}"

/-- The edge that one reference gives. -/
def ofReference? (tables : List (Table α)) (t : Table α) (c : Column) : Option Relationship := do
  let ref ← c.references
  let parent ← Table.named? tables ref.table
  let parentColumn ← parent.parentColumn? ref.column
  return normal
    { id := derivedId t.id parent.id c.id
      source := t.id
      target := parent.id
      sourceColumn := c.id
      targetColumn := parentColumn.id }

/-- The edges of all references, in the order of the tables and of their columns. -/
def derive (tables : List (Table α)) : List Relationship :=
  tables.flatMap fun t => t.columns.filterMap (ofReference? tables t)

end Relationship
end SchemaGraph
