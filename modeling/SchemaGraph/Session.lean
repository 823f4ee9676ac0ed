import SchemaGraph.Command.Check
import SchemaGraph.Editing.Load
import SchemaGraph.Editing.Relationship

/-!
# Commands and sessions

Commands are carried out one by one, in bulk, or on a session.

## Carrying out commands

Each command carries out one edit. A list of commands is carried out as a whole or not at all; the
ids that were drawn on the way are gone in either case.
-/

namespace SchemaGraph

open Decode Editing

/-- A position that was sent as null is no position to move to. -/
def PositionForm.checked : Option PositionForm → Checked (Position Float)
  | some p => .valid p.position
  | none => .fault (.notRecord "Position")

def flagSent : Option Bool → Checked Bool
  | some b => .valid b
  | none => .fault .notFlag

def textSent : Option String → Checked String
  | some s => .valid s
  | none => .fault .notText

/-- Check a field if it was sent. -/
def ifSent (check : α → Checked β) : Option α → Checked (Option β)
  | none => .valid none
  | some v => (check v).map some

def TableForm.change (f : TableForm) : Checked (TableChange Float) :=
  (fun position =>
      { name := f.name.map (·.getD "")
        position
        color := f.color
        description := f.description : TableChange Float })
    <$> ifSent PositionForm.checked f.position

def ColumnForm.change (f : ColumnForm) : Checked ColumnChange :=
  (fun primary foreign nullable =>
      { name := f.name.map (·.getD "")
        dataType := f.dataType.map fun s => DataType.store (.ofText? s) DataType.fallback
        isPrimaryKey := primary
        isForeignKey := foreign
        isNullable := nullable
        references := f.references.map (·.bind Column.keptReference) : ColumnChange })
    <$> ifSent flagSent f.isPrimaryKey <*> ifSent flagSent f.isForeignKey
    <*> ifSent flagSent f.isNullable

def RelationshipForm.change (f : RelationshipForm) : Checked RelationshipChange :=
  (fun source target sourceColumn targetColumn =>
      { source
        target
        sourceColumn := sourceColumn.map Relationship.withoutHandle
        targetColumn := targetColumn.map Relationship.withoutHandle
        label := f.label : RelationshipChange })
    <$> ifSent textSent f.source <*> ifSent textSent f.target <*> ifSent textSent f.sourceColumn
    <*> ifSent textSent f.targetColumn

def NewTable.draft (f : NewTable) : TableDraft :=
  { name := .ofText? f.name.join
    columns := .ofOption (fun cs => .arr (cs.map .obj)) f.columns.join
    position := .ofOption (fun p => p.position.toJson) f.position.join
    color := .ofText? f.color.join
    description := .ofText? f.description.join
    id := .ofText? f.id.join }

def NewColumn.draft (f : NewColumn) : ColumnDraft :=
  { name := .ofText? f.name.join
    dataType := .ofText? f.dataType.join
    isPrimaryKey := .bool (f.isPrimaryKey.getD false)
    isForeignKey := .bool (f.isForeignKey.getD false)
    isNullable := .bool (f.isNullable.getD true)
    references := .ofOption ColumnReference.toJson f.references.join
    id := .ofText? f.id.join }

def NewRelationship.draft (f : NewRelationship) : RelationshipDraft :=
  { source := .str f.source
    target := .str f.target
    sourceColumn := .str f.sourceColumn
    targetColumn := .str f.targetColumn
    label := .ofText? f.label.join
    id := .ofText? f.id.join }

namespace Command

def apply (settings : Config.Settings) (c : Command) (s : State Float) : Edit (State Float) :=
  match c with
  | addTable form => Editing.addTable settings form.draft s
  | renameTable table name => Editing.renameTable table name s
  | updateTable table form => Editing.updateTable table form.change s
  | removeTable table => Editing.removeTable table s
  | addColumn table form => Editing.addColumn settings table form.draft s
  | updateColumn table column form => Editing.updateColumn table column form.change s
  | removeColumn table column => Editing.removeColumn table column s
  | addRelationship form => Editing.addRelationship form.draft s
  | connectColumns form => Editing.connectColumns form.draft s
  | updateRelationship relationship form =>
    Editing.updateRelationship relationship form.change s
  | removeRelationship relationship => Editing.removeRelationship relationship s
  | setDialect dialect => pure (Editing.setDialect dialect s)
  | autoLayout => Editing.autoLayout settings.layoutSettings s

/-- Read a command and carry it out. -/
def applyDocument (settings : Config.Settings) (payload : Json) (s : State Float) :
    Edit (State Float) := do
  (← parse payload).apply settings s

/-- Carry out commands one after another. -/
def applyAll (settings : Config.Settings) : List Json → State Float → Edit (State Float)
  | [], s => pure s
  | payload :: rest, s => do applyAll settings rest (← applyDocument settings payload s)

end Command
end SchemaGraph

/-!
## Sessions

A session holds a schema while it is edited. An edit that fails leaves the schema as it was, but the
ids that it drew are gone.
-/

namespace SchemaGraph

structure Session where
  settings : Config.Settings
  state : State Float
  supply : Supply

namespace Session

def edit (s : Session) (e : State Float → Edit (State Float)) :
    Except Failure (State Float) × Session :=
  let (outcome, supply) := (e s.state).runOn s.supply
  match outcome with
  | .ok state => (.ok state, { s with state, supply })
  | .error f => (.error f, { s with supply })

end Session
end SchemaGraph
