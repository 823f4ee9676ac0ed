import SchemaGraph.Schema.Basic

/-!
# Validation

Before a schema is compiled its selected tables are checked for flaws. A table or column without a
name, or with the name of an earlier one, is an error; names are compared without blank ends and up
to case. A table without columns or without a primary key is worth a warning, and nothing else is
said about a table without columns. Issues are numbered in the order in which they are found.
-/

namespace SchemaGraph

inductive Flaw where
  | unnamedTable (id : String)
  | duplicateTable (name : String)
  | emptyTable (table : String)
  | missingKey (table : String)
  | unnamedColumn (table : String)
  | duplicateColumn (table name : String)
  deriving Repr, DecidableEq

namespace Flaw

def severity : Flaw → Severity
  | unnamedTable _ | duplicateTable _ | unnamedColumn _ | duplicateColumn .. => .error
  | emptyTable _ | missingKey _ => .warning

def title : Flaw → String
  | unnamedTable _ => "Unnamed table"
  | duplicateTable _ => "Duplicate table name"
  | emptyTable _ => "Empty table"
  | missingKey _ => "Missing primary key"
  | unnamedColumn _ => "Unnamed column"
  | duplicateColumn .. => "Duplicate column"

def description : Flaw → String
  | unnamedTable id => s!"Table with ID {String.ofList (id.toList.take 4)}... is unnamed."
  | duplicateTable name => s!"Duplicate table name: \"{name}\"."
  | emptyTable table => s!"Table \"{table}\" has no columns."
  | missingKey table => s!"Table \"{table}\" has no Primary Key."
  | unnamedColumn table => s!"Table \"{table}\" contains an unnamed column."
  | duplicateColumn table name => s!"Table \"{table}\" has duplicate column: \"{name}\"."

end Flaw

/-- The form in which names are compared. -/
def comparedName (name : String) : String := Text.lower (Text.trim name)

namespace Table

variable {α : Type}

def displayName (t : Table α) : String := if t.name == "" then "Unnamed" else t.name

end Table

namespace Validation

variable {α : Type}

/-- The flaws in the names of columns, given the names that earlier columns have. -/
def columnFlaws (table : String) : List String → List Column → List Flaw
  | _, [] => []
  | seen, c :: rest =>
    let name := comparedName c.name
    if name == "" then .unnamedColumn table :: columnFlaws table seen rest
    else if seen.contains name then
      .duplicateColumn table c.name :: columnFlaws table seen rest
    else columnFlaws table (name :: seen) rest

/-- The flaws of a table apart from its name. -/
def bodyFlaws (t : Table α) : List Flaw :=
  if t.columns.isEmpty then [.emptyTable t.displayName]
  else
    (if t.primaryKeys.isEmpty then [.missingKey t.displayName] else []) ++
      columnFlaws t.displayName [] t.columns

/-- The flaws of tables, each with the id of its table, given the names that earlier tables have. -/
def tableFlaws : List String → List (Table α) → List (String × Flaw)
  | _, [] => []
  | seen, t :: rest =>
    let body := (bodyFlaws t).map (t.id, ·)
    if Text.allBlank t.name then
      (t.id, .unnamedTable t.id) :: body ++ tableFlaws seen rest
    else
      let name := comparedName t.name
      if seen.contains name then (t.id, .duplicateTable t.name) :: body ++ tableFlaws seen rest
      else body ++ tableFlaws (name :: seen) rest

def issueOf (n : Nat) (table : String) (flaw : Flaw) : Issue :=
  { id := s!"issue-{n}"
    severity := flaw.severity
    title := flaw.title
    description := flaw.description
    affectedTable := some table }

/-- Check tables. -/
def issues (tables : List (Table α)) : List Issue :=
  (tableFlaws [] tables).zipIdx.map fun ((table, flaw), i) => issueOf (i + 1) table flaw

/-- Whether an issue stands in the way of compilation. -/
def isBlocked (issues : List Issue) : Bool := issues.any (·.severity == .error)

def count (severity : Severity) (issues : List Issue) : Nat :=
  (issues.filter (·.severity == severity)).length

end Validation

/-- The tables with the selected ids, in their own order; without a selection, all of them. -/
def Table.select {α : Type} (selection : Option (List String)) (tables : List (Table α)) :
    List (Table α) :=
  match selection with
  | none => tables
  | some ids => tables.filter fun t => ids.contains t.id

end SchemaGraph
