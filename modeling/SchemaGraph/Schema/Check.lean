import SchemaGraph.Decode.Scalar
import SchemaGraph.Schema.Basic

/-!
# Reading schemas from documents

Every part of a schema is read from an object with one member per field, under its name on the wire
or its name in the settings style. Members that no field knows are ignored. What is read is in
normal form: a column has a type and no reference to a blank table, and the ends of a relationship
carry no handle word.
-/

namespace SchemaGraph

open Decode

/-- A name; null is read as the empty name, which validation reports later. -/
def checkName : Json → Checked String
  | .null => .valid ""
  | v => text v

namespace Position

def ofMembers (ms : Members) : Checked (Position Float) :=
  Position.mk <$> optional ["x"] 0.0 number ms <*> optional ["y"] 0.0 number ms

def check : Json → Checked (Position Float) := record "Position" ofMembers

def origin : Position Float := ⟨0.0, 0.0⟩

end Position

/-- A column type. Any value will do that can be printed. -/
def DataType.check (v : Json) : Checked String :=
  (printed v).map fun _ => store v fallback

namespace ColumnReference

def ofMembers (ms : Members) : Checked ColumnReference :=
  ColumnReference.mk <$> required ["table"] text ms <*> required ["column"] text ms

def check : Json → Checked ColumnReference := record "ColumnReference" ofMembers

/-- Whether the object names no table at all. -/
def namesNoTable (ms : Members) : Checked Bool :=
  match ms.get? "table" with
  | some v => if v.isGiven then (printed v).map Text.allBlank else .valid true
  | none => .valid true

/-- A reference of a column, where an object that names no table stands for none. -/
def checkKept : Json → Checked (Option ColumnReference)
  | .null => .valid none
  | .obj ms =>
    (namesNoTable ms).bind fun blank => if blank then .valid none else (ofMembers ms).map some
  | v => (check v).map some

end ColumnReference

namespace Column

def typeNames : List String := ["type", "dataType", "data_type"]

def ofMembers (ms : Members) : Checked Column :=
  Column.mk <$> required ["id"] text ms
    <*> optional ["name"] "" checkName ms
    <*> optional typeNames DataType.fallback DataType.check ms
    <*> optional ["isPrimaryKey", "is_primary_key"] false flag ms
    <*> optional ["isForeignKey", "is_foreign_key"] false flag ms
    <*> optional ["isNullable", "is_nullable"] true flag ms
    <*> optional ["references"] none ColumnReference.checkKept ms

def check : Json → Checked Column := record "Column" ofMembers

end Column

namespace Table

/-- A table whose columns are read by a check of their own. -/
def ofMembersWith (columns : Members → Checked (List Column)) (ms : Members) :
    Checked (Table Float) :=
  Table.mk <$> required ["id"] text ms
    <*> optional ["name"] "" checkName ms
    <*> columns ms
    <*> optional ["position"] Position.origin Position.check ms
    <*> optional ["color"] none (nullable text) ms
    <*> optional ["description"] none (nullable text) ms

def ofMembers : Members → Checked (Table Float) :=
  ofMembersWith (optional ["columns"] [] (list Column.check))

def check : Json → Checked (Table Float) := record "Table" ofMembers

end Table

namespace Relationship

def sourceNames : List String := ["sourceColumnRef", "source_column_ref", "sourceHandle"]

def targetNames : List String := ["targetColumnRef", "target_column_ref", "targetHandle"]

def checkEnd (v : Json) : Checked String := (text v).map withoutHandle

def ofMembers (ms : Members) : Checked Relationship :=
  Relationship.mk <$> required ["id"] text ms
    <*> required ["source"] text ms
    <*> required ["target"] text ms
    <*> required sourceNames checkEnd ms
    <*> required targetNames checkEnd ms
    <*> optional ["label"] none (nullable text) ms

def check : Json → Checked Relationship := record "Relationship" ofMembers

end Relationship

namespace Issue

def ofMembers (ms : Members) : Checked Issue :=
  Issue.mk <$> required ["id"] text ms
    <*> required ["severity"] (member Severity.all Severity.name) ms
    <*> required ["title"] text ms
    <*> required ["description"] text ms
    <*> optional ["affectedTableId", "affected_table_id"] none (nullable text) ms

def check : Json → Checked Issue := record "SchemaIssue" ofMembers

end Issue

def Dialect.check : Json → Checked Dialect := member Dialect.all Dialect.name

def ReferentialAction.check : Json → Checked ReferentialAction :=
  member ReferentialAction.all ReferentialAction.name

namespace State

def ofMembers (ms : Members) : Checked (State Float) :=
  State.mk <$> optional ["tables"] [] (list Table.check) ms
    <*> optional ["relationships"] [] (list Relationship.check) ms
    <*> optional ["dialect"] Dialect.postgresql Dialect.check ms

def check : Json → Checked (State Float) := record "SchemaState" ofMembers

end State
end SchemaGraph
