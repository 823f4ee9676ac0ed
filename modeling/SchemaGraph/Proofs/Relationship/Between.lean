import SchemaGraph.Proofs.Relationship.References

/-!
# The ends of an edge

What is found at the two ends of an edge decides which of them is the child: first the end that
alone references the other one, and if there is none the key flags and the drawn direction. So two
lists of tables in which an edge has its ends resolve it to the same foreign key, or to one with
child and parent swapped, and it is the same if they have the child at the same end.
-/

namespace SchemaGraph

variable {α : Type} {tables : List (Table α)}

namespace Relationship

variable {r : Relationship}

/-- The tables and columns that are found at the two ends of an edge. -/
structure Between (r : Relationship) (tables : List (Table α)) where
  source : Table α
  sourceColumn : Column
  target : Table α
  targetColumn : Column
  atSource : r.sourcePlace.Holds tables source sourceColumn
  atTarget : r.targetPlace.Holds tables target targetColumn

namespace Between

variable (e : r.Between tables)

def resolved : Resolved :=
  r.resolveBetween e.source e.sourceColumn e.target e.targetColumn

/-- Which end alone references the other one: the source, the target, or none. -/
def pointing? : Option Bool :=
  Column.pointing? e.sourceColumn e.targetColumn e.source.name e.target.name

/-- Which end the key flags and the drawn direction make the child: the source, or the target. -/
def sourceByKeys : Bool := Column.sourceByKeys e.sourceColumn e.targetColumn

/-- Which end is the child. -/
def sourceIsChild : Bool := e.pointing?.getD e.sourceByKeys

theorem resolve?_eq : r.resolve? tables = some e.resolved :=
  resolve?_of_holds e.atSource e.atTarget

theorem places_resolved :
    (e.resolved.child.place, e.resolved.parent.place) =
      if e.sourceIsChild then (r.sourcePlace, r.targetPlace)
      else (r.targetPlace, r.sourcePlace) := by
  have direction : _ = e.sourceIsChild := Column.childIsSource_orient
  cases h : e.sourceIsChild with
  | true =>
      obtain ⟨child, parent⟩ := ends_of_childIsSource (r := r) (direction.trans h)
      rw [resolved, child, parent, if_pos rfl, ← e.atSource.eq, ← e.atTarget.eq]
      rfl
  | false =>
      obtain ⟨child, parent⟩ := ends_of_childIsTarget (r := r) (direction.trans h)
      rw [resolved, child, parent, if_neg (by decide), ← e.atSource.eq, ← e.atTarget.eq]
      rfl

/-- Of an edge on one column, the source counts as the child. -/
theorem sourceIsChild_of_loop (loop : r.sourcePlace = r.targetPlace) : e.sourceIsChild = true := by
  have source := e.atSource
  rw [loop] at source
  obtain ⟨sameTable, sameColumn⟩ := source.unique e.atTarget
  unfold sourceIsChild pointing? sourceByKeys Column.pointing? Column.sourceByKeys
  rw [sameTable, sameColumn]
  cases e.targetColumn.pointsAt (some e.target.name) e.targetColumn <;>
    cases e.targetColumn.actsAsForeignKey <;> simp

variable {tables' : List (Table α)} (e' : r.Between tables')

/-- Between the same two columns, foreign keys are the same or have child and parent swapped. -/
theorem signature_eq_or_swapped :
    e'.resolved.signature = e.resolved.signature ∨
      e'.resolved.signature = e.resolved.parent.place.pair e.resolved.child.place :=
  Relationship.signature_eq_or_swapped e.resolve?_eq e'.resolve?_eq

/-- They are the same if they have the same child. -/
theorem signature_eq_iff :
    e'.resolved.signature = e.resolved.signature ↔ e'.sourceIsChild = e.sourceIsChild := by
  have before := e.places_resolved
  have after := e'.places_resolved
  rw [Resolved.signature_eq_pair, Resolved.signature_eq_pair, Place.pair_inj, ← Prod.mk.injEq,
    before, after]
  by_cases loop : r.sourcePlace = r.targetPlace
  · simp [e.sourceIsChild_of_loop loop, e'.sourceIsChild_of_loop loop]
  · cases e.sourceIsChild <;> cases e'.sourceIsChild <;> simp [loop, Ne.symm loop]

end Between

theorem exists_between_of_resolve? {k : Resolved} (h : r.resolve? tables = some k) :
    ∃ e : r.Between tables, e.resolved = k := by
  obtain ⟨t, c, u, d, source, target, rfl⟩ := exists_holds_of_resolve? h
  exact ⟨⟨t, c, u, d, source, target⟩, rfl⟩

/-- An edge that dangles nowhere has its ends. -/
theorem exists_between {s : State α} (tableIds : (s.tables.map (·.id)).Nodup)
    (closed : s.NoneDangles) (hr : r ∈ s.relationships) : Nonempty (r.Between s.tables) := by
  have anchored := (isAnchored_iff tableIds).mpr (closed r hr)
  obtain ⟨k, resolves⟩ := exists_resolve?_iff.mpr anchored
  obtain ⟨e, -⟩ := exists_between_of_resolve? resolves
  exact ⟨e⟩

end Relationship

end SchemaGraph
