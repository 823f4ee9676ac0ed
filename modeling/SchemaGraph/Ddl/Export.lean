import SchemaGraph.Ddl.Script
import SchemaGraph.Decode.Scalar
import SchemaGraph.Json.Basic
import SchemaGraph.Relationship
import SchemaGraph.Schema.Check
import SchemaGraph.Snapshot.Writer
import SchemaGraph.Validation

/-!
# Export

An export validates the selected tables and compiles them if nothing stands in the way. The issues
are part of the answer in either case. Without a dialect in the options, that of the schema counts.
-/

namespace SchemaGraph.Ddl

open Decode

variable {α : Type}

structure ExportOptions where
  dialect : Option Dialect := none
  onDelete : Option ReferentialAction := none
  onUpdate : Option ReferentialAction := none
  style : Option Config.StatementStyle := none
  header : Option Bool := none
  deriving Repr, DecidableEq

namespace ExportOptions

def names : List String :=
  ["dialect", "on_delete", "on_update", "statement_style", "include_header"]

def ofMembers (ms : Members) : Checked ExportOptions :=
  closed names ms <|
    ExportOptions.mk <$> optional ["dialect"] none (nullable Dialect.check) ms
      <*> optional ["on_delete"] none (nullable ReferentialAction.check) ms
      <*> optional ["on_update"] none (nullable ReferentialAction.check) ms
      <*> optional ["statement_style"] none (nullable Config.StatementStyle.check) ms
      <*> optional ["include_header"] none (nullable flag) ms

def check : Json → Checked ExportOptions := record "CompilationOptions" ofMembers

def toJson (o : ExportOptions) : Json :=
  .obj [("dialect", .ofOption (.str ·.name) o.dialect),
    ("on_delete", .ofOption (.str ·.name) o.onDelete),
    ("on_update", .ofOption (.str ·.name) o.onUpdate),
    ("statement_style", .ofOption (.str ·.name) o.style),
    ("include_header", .ofOption .bool o.header)]

def request (dialect : Dialect) (o : ExportOptions) : Request :=
  { dialect := .str dialect.name
    onDelete := .ofOption (.str ·.name) o.onDelete
    onUpdate := .ofOption (.str ·.name) o.onUpdate
    style := .ofOption (.str ·.name) o.style
    header := .ofOption .bool o.header }

end ExportOptions

structure Export where
  sql : Option String
  issues : List Issue
  dialect : Dialect
  deriving Repr, DecidableEq

namespace Export

def requireSql (e : Export) : Except Failure String :=
  match e.sql with
  | some sql => .ok sql
  | none => .error (.blocked e.issues)

end Export

def exportSchema (settings : Except Failure Config.Compilation) (o : ExportOptions)
    (selection : Option (List String)) (s : State α) : Except Failure Export :=
  let dialect := o.dialect.getD s.dialect
  let tables := Table.select selection s.tables
  let issues := Validation.issues tables
  if Validation.isBlocked issues then .ok { sql := none, issues, dialect }
  else do
    let options ← (o.request dialect).options settings
    return { sql := some (compile options tables s.relationships).text, issues, dialect }

end SchemaGraph.Ddl

/-!
## Writing resolved relationships
-/

namespace SchemaGraph.Resolved

def members (r : Resolved) : Members :=
  [("relationship_id", .str r.relationshipId), ("child_table_id", .str r.childTableId),
    ("child_table", .str r.childTable), ("child_column_id", .str r.childColumnId),
    ("child_column", .str r.childColumn), ("parent_table_id", .str r.parentTableId),
    ("parent_table", .str r.parentTable), ("parent_column_id", .str r.parentColumnId),
    ("parent_column", .str r.parentColumn), ("rule", .str r.rule.name)]

def toJson (r : Resolved) : Json := .obj r.members

end SchemaGraph.Resolved

/-!
## Writing scripts and exports as documents
-/

namespace SchemaGraph.Ddl

def Script.toJson (s : Script) : Json :=
  .obj [("script", .str s.text), ("create_statements", .arr (s.creates.map .str)),
    ("constraint_statements", .arr (s.constraints.map .str)),
    ("resolved_relationships", .arr (s.resolved.map Resolved.toJson)),
    ("dialect", .str s.dialect.name)]

def Export.toJson (e : Export) : Json :=
  .obj [("sql", .ofText? e.sql), ("issues", .arr (e.issues.map Issue.toJson)),
    ("dialect", .str e.dialect.name), ("can_export", .bool e.sql.isSome)]

end SchemaGraph.Ddl
