import SchemaGraph.Editing.Basic
import SchemaGraph.Json.Reader
import SchemaGraph.Relationship
import SchemaGraph.Schema.Check

/-!
# Reading snapshots

A saved schema comes in one of two shapes. One holds tables and relationships as they are. The other
is that of the canvas, where a table is the data of a node and a relationship is an edge that names
its columns by handles. Edges without handles and dangling ones are dropped, and if a snapshot says
nothing about edges they are derived from the references of the columns.
-/

namespace SchemaGraph.Snapshot

open Decode

/-- The table of a node: its data, with the id and the position of the node. -/
def nodeTable (node : Json) : Except Failure Json :=
  match node with
  | .obj ms => do
    let data := (Members.get? ms "data").getD .null
    let data ← if data.isGiven then data.entries else .ok []
    let id := (Members.get? ms "id").getD ((data.get? "id").getD .null)
    let data := data.put "id" id
    return .obj <|
      match Members.get? ms "position" with
      | some position => data.put "position" position
      | none => data
  | _ => .error (.crash .noPart)

/-- Whether an edge names a column under one of a few names. -/
def namesColumn (names : List String) (ms : Members) : Bool :=
  names.any fun n => ((ms.get? n).getD .null).isGiven

/-- The relationship of an edge; none if it does not name its columns. -/
def edgeRelationship? (edge : Json) : Except Failure (Option Relationship) :=
  match edge with
  | .obj ms =>
    if namesColumn Relationship.sourceNames ms && namesColumn Relationship.targetNames ms then do
      return some (← (Relationship.check edge).orFail)
    else do
      -- That the edge is dropped is logged, with whatever it has for an id.
      let _ ← ((Members.get? ms "id").getD .null).printedOrFail
      return none
  | v => .error (.snapshot (.edgeNotObject v.kindName))

/-- The items of a member, none if it is missing or empty. -/
def itemsOf (v : Json) : Except Failure (List Json) := if v.isGiven then v.elements else .ok []

/-- The documents of the tables and of the edges, if there are any. -/
def parts (ms : Members) : Except Failure (List Json × Json) := do
  let member (name : String) : Json := (ms.get? name).getD .null
  if ms.has "tables" then
    let edges := (ms.get? "relationships").getD (member "edges")
    return (← itemsOf (member "tables"), edges)
  else
    let tables ← (← itemsOf (member "nodes")).mapM nodeTable
    return (tables, member "edges")

def dialectOf (v : Json) : Except Failure Dialect :=
  let v := if v.isGiven then v else .str Dialect.postgresql.name
  match Dialect.check v with
  | .valid d => .ok d
  | _ => do throw (.value (.notOneOf (← v.shownOrFail) "Dialect"))

def stateOfMembers (ms : Members) : Except Failure (State Float) := do
  let (drafts, edges) ← parts ms
  let tables ← drafts.mapM fun v => (Table.check v).orFail
  let relationships ←
    match edges with
    | .null => pure (Relationship.derive tables)
    | edges => do
      let given ← (← edges.elements).mapM edgeRelationship?
      pure (Relationship.prune tables (given.filterMap id))
  let dialect ← dialectOf ((ms.get? "dialect").getD .null)
  return { tables, relationships, dialect }

/-- Findings and refused values in a snapshot are reported as faults of the snapshot. -/
def failureOf : Failure → Failure
  | .invalid found => .snapshot (.invalid found)
  | .value fault => .snapshot (.invalidValue fault)
  | f => f

def ofJson (v : Json) : Except Failure (State Float) :=
  match v with
  | .obj ms => (stateOfMembers ms).mapError failureOf
  | v => .error (.snapshot (.notObject v.kindName))

/-- What a text that is no document is refused with. -/
def readFailure (e : Json.ReadError) : Failure :=
  match e.problem with
  | .tooManyDigits count => .value (.tooManyDigits count)
  | .tooDeep => .crash .tooDeep
  | _ => .snapshot (.notJson e)

def read (text : String) : Except Failure (State Float) := do
  ofJson (← (Json.read text).mapError readFailure)

end SchemaGraph.Snapshot
