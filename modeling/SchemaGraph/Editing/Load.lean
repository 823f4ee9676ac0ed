import SchemaGraph.Editing.Table
import SchemaGraph.Layout.Placement
import SchemaGraph.Relationship

/-!
# Loading a schema

A schema that was made elsewhere comes as drafts of tables and, perhaps, of relationships. Missing
ids are drawn. Relationships that are given lose those that dangle, and if none are given they are
derived from the references of the columns. A schema without any positions is laid out.
-/

namespace SchemaGraph.Editing

open Decode

variable {α : Type}

/-- Move every table to its place in the layout. Without tables, no settings are needed. -/
def autoLayout [Scalar α] (settings : Except Failure (Layout.Settings α)) (s : State α) :
    Except Failure (State α) :=
  if s.tables.isEmpty then .ok s
  else do
    match Layout.arrange? (← settings) s with
    | some s => .ok s
    | none => .error (.crash .noKey)

def dialectOf (operation : String) (v : Json) : Except Failure Dialect :=
  match Dialect.check v with
  | .valid d => .ok d
  | _ => do refuse { operation } (.unknownDialect (← v.printedOrFail))

def setDialect (d : Dialect) (s : State α) : State α := { s with dialect := d }

def tableOf (draft : Json) : Edit (Table Float) := do
  let ms ← draft.entries
  let id ← Edit.freshId
  let ms := ms.putNew "id" (.str id)
  let drafts := (ms.get? "columns").getD .null
  let columns ← if drafts.isGiven then columnsOf drafts else pure []
  (Table.ofMembersWith (fun _ => .valid columns) ms).orFail

def relationshipsOf (drafts : Json) : Except Failure (Option (List Relationship)) :=
  match drafts with
  | .null => .ok none
  | drafts => do
    return some (← (← drafts.elements).mapM fun v => (Relationship.check v).orFail)

/-- What a schema is loaded from. -/
structure Source where
  tables : Json
  relationships : Json := .null
  dialect : Json := .str Dialect.postgresql.name
  shouldLayout : Json := .null

/-- Put a schema together from checked parts. -/
def assemble (layout : Except Failure (Layout.Settings Float)) (tables : List (Table Float))
    (relationships : Option (List Relationship)) (source : Source) :
    Except Failure (State Float) := do
  let dialect ← dialectOf "load_schema" source.dialect
  let relationships :=
    match relationships with
    | none => Relationship.derive tables
    | some given => Relationship.prune tables given
  let s : State Float := { tables, relationships, dialect }
  let wanted :=
    match source.shouldLayout with
    | .null => Layout.isUnplaced tables
    | v => v.isGiven
  if wanted then autoLayout layout s else return s

/-- Findings in a draft are reported as those of the loading. -/
def loadFailure : Failure → Failure
  | .invalid found => .operation ⟨{ operation := "load_schema" }, .invalidValue found⟩
  | f => f

def draftsOf (source : Source) : Edit (List (Table Float) × Option (List Relationship)) := do
  let tables ← (← source.tables.elements).mapM tableOf
  let relationships ← relationshipsOf source.relationships
  return (tables, relationships)

def loadSchema (layout : Except Failure (Layout.Settings Float)) (source : Source) :
    Edit (State Float) := do
  let (tables, relationships) ← ExceptT.adapt loadFailure (draftsOf source)
  assemble layout tables relationships source

end SchemaGraph.Editing
