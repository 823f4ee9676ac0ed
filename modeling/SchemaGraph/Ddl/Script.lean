import SchemaGraph.Config.Settings
import SchemaGraph.Failure
import SchemaGraph.Relationship

/-!
# Scripts of statements

A schema is written as a script, statement by statement.

## Statements

A table becomes a `CREATE TABLE` statement, and a resolved relationship a foreign key constraint
that is added to its child table. Names and column types are written as they are stored.
-/

namespace SchemaGraph.Ddl

open Config

variable {α : Type}

def columnDefinition (c : Column) : String :=
  let suffix := if c.isPrimaryKey then " PRIMARY KEY" else if c.isNullable then "" else " NOT NULL"
  s!"{c.name} {c.dataType}{suffix}"

def createTable (style : StatementStyle) (indent : String) (t : Table α) : String :=
  let definitions := t.columns.map columnDefinition
  match style with
  | .compact =>
    if definitions.isEmpty then s!"CREATE TABLE {t.name} ( );"
    else "CREATE TABLE " ++ t.name ++ " ( " ++ ", ".intercalate definitions ++ " );"
  | .pretty =>
    let body := ",\n".intercalate (definitions.map (indent ++ ·))
    let lines := if definitions.isEmpty then "" else body ++ "\n"
    s!"CREATE TABLE {t.name} (\n{lines});"

/-- An action is written only if it is not the one that holds anyway. -/
def actionClause (event : String) (a : ReferentialAction) : String :=
  if a == .noAction then "" else s!" ON {event} {a.name}"

def addConstraint (onDelete onUpdate : ReferentialAction) (r : Resolved) : String :=
  s!"ALTER TABLE {r.childTable} ADD CONSTRAINT {r.constraintName} " ++
    s!"FOREIGN KEY ({r.childColumn}) REFERENCES {r.parentTable}({r.parentColumn})" ++
    actionClause "DELETE" onDelete ++ actionClause "UPDATE" onUpdate ++ ";"

end SchemaGraph.Ddl

/-!
## Scripts

A script creates the tables and then adds the constraints. A relationship takes part if both of its
tables do and it resolves. Of several relationships that would give a constraint for the same child
column and the same parent table, told apart by their names, the first one counts.
-/

namespace SchemaGraph.Ddl

open Config

variable {α : Type}

/-- The decisions that a script depends on. -/
structure Options where
  dialect : Dialect
  onDelete : ReferentialAction
  onUpdate : ReferentialAction
  style : StatementStyle
  hasHeader : Bool
  indent : String
  deriving Repr

structure Script where
  header : Option String
  creates : List String
  constraints : List String
  resolved : List Resolved
  dialect : Dialect
  deriving Repr

/-- The relationships between the given tables. -/
def within (tables : List (Table α)) (rs : List Relationship) : List Relationship :=
  let ids := tables.map (·.id)
  rs.filter fun r => ids.contains r.source && ids.contains r.target

/-- Keep the first one for each constraint, apart from the constraints already there. -/
def firstOfEach : List (String × String × String) → List Resolved → List Resolved
  | _, [] => []
  | seen, r :: rest =>
    if seen.contains r.constraintKey then firstOfEach seen rest
    else r :: firstOfEach (r.constraintKey :: seen) rest

/-- The foreign keys of a script. -/
def foreignKeys (tables : List (Table α)) (rs : List Relationship) : List Resolved :=
  firstOfEach [] (Relationship.resolveAll tables (within tables rs))

def header (d : Dialect) : String := s!"-- Generated by SchemaForge ({d.name})"

def compile (o : Options) (tables : List (Table α)) (rs : List Relationship) : Script :=
  let resolved := foreignKeys tables rs
  { header := if o.hasHeader then some (header o.dialect) else none
    creates := tables.map (createTable o.style o.indent)
    constraints := resolved.map (addConstraint o.onDelete o.onUpdate)
    resolved
    dialect := o.dialect }

namespace Script

/-- The text of a script. -/
def text (s : Script) : String :=
  let paragraphs := (s.header.toList ++ s.creates).map (· ++ "\n\n")
  let constraints :=
    if s.constraints.isEmpty then ""
    else "-- Relationships\n" ++ "\n".intercalate s.constraints ++ "\n"
  String.join paragraphs ++ constraints

end Script

/-- What a caller asks for; whatever is not given is decided by the settings. -/
structure Request where
  dialect : Json := .null
  onDelete : Json := .null
  onUpdate : Json := .null
  style : Json := .null
  header : Json := .null

/-- The value asked for, or that of the settings, by its name. -/
def choose (family : String) (all : List β) (nameOf : β → String) (asked : Json)
    (default : String) : Except Failure β :=
  let v := if asked.isGiven then asked else .str default
  match v.asText?.bind fun s => all.find? fun b => nameOf b == s with
  | some b => .ok b
  | none => do throw (.value (.notOneOf (← v.shownOrFail) family))

def Request.options (settings : Except Failure Config.Compilation) (r : Request) :
    Except Failure Options := do
  let s ← settings
  let dialect ← choose "Dialect" Dialect.all Dialect.name r.dialect s.dialect
  let action := choose "ReferentialAction" ReferentialAction.all ReferentialAction.name
  let onDelete ← action r.onDelete s.onDelete
  let onUpdate ← action r.onUpdate s.onUpdate
  return {
    dialect
    onDelete
    onUpdate
    style := if r.style.isGiven then .ofText (r.style.asText?.getD "") else s.style
    hasHeader := if r.header matches .null then s.includeHeader else r.header.isGiven
    indent := s.indent }

end SchemaGraph.Ddl
