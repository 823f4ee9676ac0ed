import SchemaGraph.Session

/-!
# Projects and their registry

A store holds projects, and a registry draws what its steps need.

## Projects

A store holds projects, each with its schema, in the order in which they were last written. It has a
capacity, and creating a project in a full store evicts the one that was written the longest time
ago. A project that is created again under its id keeps its place.

Ids and times are given by the caller.
-/

namespace SchemaGraph

structure Project where
  id : String
  name : String
  createdAt : String
  updatedAt : String
  revision : Nat
  state : State Float

namespace Project

def defaultName : String := "Untitled schema"

def create (id name time : String) (state : State Float) : Project :=
  { id, name, createdAt := time, updatedAt := time, revision := 0, state }

/-- The project with another schema. -/
def revise (p : Project) (time : String) (state : State Float) : Project :=
  { p with state, revision := p.revision + 1, updatedAt := time }

def members (p : Project) : Members :=
  [("project_id", .str p.id), ("name", .str p.name), ("created_at", .str p.createdAt),
    ("updated_at", .str p.updatedAt), ("revision", .ofNat p.revision), ("state", p.state.toJson)]

def toJson (p : Project) : Json := .obj p.members

end Project

structure Store where
  capacity : Nat
  projects : List Project := []

namespace Store

def get? (s : Store) (id : String) : Option Project := s.projects.find? (·.id == id)

def has (s : Store) (id : String) : Bool := s.projects.any (·.id == id)

def ids (s : Store) : List String := s.projects.map (·.id)

def isFull (s : Store) : Bool := s.capacity ≤ s.projects.length

/-- Put a project in the place of the one with its id, or at the end. -/
def putInto (p : Project) : List Project → List Project
  | [] => [p]
  | q :: rest => if q.id == p.id then p :: rest else q :: putInto p rest

def put (s : Store) (p : Project) : Store := { s with projects := putInto p s.projects }

/-- Make room for a project, unless it is there already; none if there is nothing to evict. -/
def makeRoom? (s : Store) (isThere : Bool) : Option Store :=
  if isThere || !s.isFull then some s
  else
    match s.projects with
    | [] => none
    | _ :: rest => some { s with projects := rest }

/-- The id to create a project under, if one is given. An empty one is none. -/
def givenId? (id : Option String) : Option String := id.filter (· != "")

/-- Create a project under a given id, or under a fresh one. -/
def create? (s : Store) (given : Option String) (fresh name time : String) (state : State Float) :
    Option (Store × Project) := do
  let s ← s.makeRoom? (given.any s.has)
  let p := Project.create (given.getD fresh) name time state
  return (s.put p, p)

def delete (s : Store) (id : String) : Store :=
  { s with projects := s.projects.filter (·.id != id) }

/-- Replace the schema of a project, which is then the one written last. -/
def update? (s : Store) (id time : String) (state : State Float) : Option (Store × Project) := do
  let p ← s.get? id
  let p := p.revise time state
  return ({ s.delete id with projects := (s.delete id).projects ++ [p] }, p)

theorem map_id_putInto (p : Project) (ps : List Project) :
    (putInto p ps).map (·.id) =
      if p.id ∈ ps.map (·.id) then ps.map (·.id) else ps.map (·.id) ++ [p.id] := by
  induction ps with
  | nil => simp [putInto]
  | cons q rest ih =>
    by_cases h : q.id = p.id
    · simp [putInto, h]
    · by_cases hm : p.id ∈ rest.map (·.id)
      · simp [putInto, h, ih, hm]
      · simp [putInto, h, ih, hm, Ne.symm h]

@[simp] theorem ids_delete (s : Store) (id : String) :
    (s.delete id).ids = s.ids.filter (· != id) := by
  simp [ids, delete, List.filter_map, Function.comp_def]

theorem has_iff {s : Store} {id : String} : s.has id = true ↔ id ∈ s.ids := by
  simp [ids, has]

def missing (id : String) : Failure :=
  .operation ⟨{ operation := "apply_command", more := [("project_id", .str id)] },
    .missingProject id⟩

/-- The schema that a command makes of that of a project. -/
def stateAfter (settings : Config.Settings) (id : String) (payload : Json) (s : Store) :
    Edit (State Float) :=
  match s.get? id with
  | none => throw (missing id)
  | some p => Command.applyDocument settings payload p.state

end Store
end SchemaGraph

/-!
## The registry

A registry is a store of projects together with all that its steps draw from: the ids of projects,
the ids of what commands create, and the readings of a clock. A clock is read whenever a project is
written, and the id of a project is drawn unless one is given. A step that fails leaves the store as
it was, but the ids that its command drew are gone.
-/

namespace SchemaGraph

structure Registry where
  settings : Config.Settings
  store : Store
  /-- The ids that commands and templates draw. -/
  ids : Supply
  projectIds : Supply
  /-- The readings of the clock. -/
  clock : Supply

namespace Registry

/-- A step of a registry, which may fail. -/
abbrev Step (α : Type) := ExceptT Failure (StateM Registry) α

/-- Run an edit on the ids of the registry. -/
def edit (e : Edit α) : Step α := do
  let r ← get
  let (outcome, ids) := e.runOn r.ids
  set { r with ids }
  match outcome with
  | .ok a => return a
  | .error f => throw f

/-- Create a project, under the id given if there is one. A store without capacity has no room. -/
def create (given : Option String) (name : String) (state : State Float) : Step Project := do
  let r ← get
  let given := Store.givenId? given
  let (fresh, rest) := r.projectIds.draw
  let (time, clock) := r.clock.draw
  match r.store.create? given fresh name time state with
  | some (store, p) =>
    set { r with store, clock, projectIds := if given.isSome then r.projectIds else rest }
    return p
  | none => throw (.crash .noItem)

/-- Replace the schema of a project, if it is there. -/
def update (id : String) (state : State Float) : Step (Option Project) := do
  let r ← get
  let (time, clock) := r.clock.draw
  match r.store.update? id time state with
  | some (store, p) =>
    set { r with store, clock }
    return some p
  | none => return none

/-- Whether there was a project to delete. -/
def delete (id : String) : Step Bool := do
  let r ← get
  set { r with store := r.store.delete id }
  return r.store.has id

/-- Carry out a command on a project. -/
def applyCommand (id : String) (payload : Json) : Step Project := do
  let r ← get
  let state ← edit (r.store.stateAfter r.settings id payload)
  match ← update id state with
  | some p => return p
  | none => throw (Store.missing id)

end Registry
end SchemaGraph
