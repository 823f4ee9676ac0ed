import SchemaGraph.Editing.Table
import SchemaGraph.Relationship

/-!
# Editing relationships

A relationship is added between two columns that exist. Connecting two columns adds it and also
decides which of them is the child, and writes the reference and the foreign key flag onto that
column, so that the stored reference and the drawn edge say the same.
-/

namespace SchemaGraph

open Decode

namespace State

variable {α : Type}

def requireRelationship (operation id : String) (s : State α) : Except Failure Relationship :=
  match s.relationship? id with
  | some r => .ok r
  | none => refuse { operation, relationshipId := .str id } (.missingRelationship id)

/-- Refuse a relationship with an end that is not there: tables first, then their columns. -/
def requireEnds (operation : String) (r : Relationship) (s : State α) : Except Failure Unit := do
  let source ← s.requireTable operation r.source
  let target ← s.requireTable operation r.target
  let _ ← source.requireColumn operation r.sourceColumn
  let _ ← target.requireColumn operation r.targetColumn
  return ()

end State

namespace Editing

variable {α : Type}

structure RelationshipDraft where
  source : Json
  target : Json
  sourceColumn : Json
  targetColumn : Json
  label : Json := .null
  id : Json := .null

def RelationshipDraft.document (d : RelationshipDraft) (id : Json) : Json :=
  .obj [("id", id), ("source", d.source), ("target", d.target),
    ("source_column_ref", d.sourceColumn), ("target_column_ref", d.targetColumn),
    ("label", d.label)]

def isRelationshipId (s : State α) : Json → Bool
  | .str id => (s.relationship? id).isSome
  | _ => false

/-- The relationship that a draft stands for, with ends that exist. -/
def relationshipOf (d : RelationshipDraft) (s : State α) : Edit Relationship := do
  let id ← Edit.givenId d.id
  if isRelationshipId s id then
    refuse { operation := "add_relationship", relationshipId := id } (.relationshipIdTaken id.text)
  else
    let r ← (Relationship.check (d.document id)).orFail
    s.requireEnds "add_relationship" r
    return r

def addRelationship (d : RelationshipDraft) (s : State α) : Edit (State α) := do
  let r ← relationshipOf d s
  return { s with relationships := s.relationships ++ [r] }

def connectColumns (d : RelationshipDraft) (s : State α) : Edit (State α) := do
  let r ← relationshipOf d s
  return { s with
    relationships := s.relationships ++ [r]
    tables := Relationship.markAll s.tables [r] }

def updateRelationship (id : String) (change : Checked RelationshipChange) (s : State α) :
    Except Failure (State α) := do
  let old ← s.requireRelationship "update_relationship" id
  let c ← accept { operation := "update_relationship", relationshipId := .str id } change
  let new := c.apply old
  s.requireEnds "update_relationship" new
  return { s with
    relationships := s.relationships.map fun r => if r.id == id then new else r }

def removeRelationship (id : String) (s : State α) : Except Failure (State α) := do
  let _ ← s.requireRelationship "remove_relationship" id
  return { s with relationships := s.relationships.filter (·.id != id) }

end Editing
end SchemaGraph
