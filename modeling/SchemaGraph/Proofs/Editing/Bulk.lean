import SchemaGraph.Proofs.Editing.Link
import SchemaGraph.Proofs.Editing.Linked

/-!
# Connecting columns in bulk

A list of relationships can be written onto the tables at once, or their columns can be connected
one pair after another. Either way each relationship is resolved in the tables that the ones before
it left, so the two lead to the same tables. Writing a relationship takes no column away, so each
call finds the columns that were there at the start.
-/

namespace SchemaGraph

open Relationship

variable {α : Type} {s : State α}

namespace Editing

/-- Connect the columns of relationships, one pair after another. -/
def connectAll (rs : List Relationship) (s : State α) : Edit (State α) :=
  rs.foldlM (fun s r => connectColumns r.draft s) s

/-- A relationship that is read as it was asked for is added and written onto its child. -/
theorem connectColumns_draft {r : Relationship} (named : r.id ≠ "") (plain : r.IsPlain)
    (free : r.id ∉ s.relationships.map (·.id)) (ends : s.HasEnds r) (supply : Supply) :
    (connectColumns r.draft s).runOn supply =
      (.ok { s with
        relationships := s.relationships ++ [r]
        tables := markAll s.tables [r] }, supply) := by
  have read : r.normal = r := normal_eq_self_iff_isPlain.mpr plain
  rw [connectColumns, Edit.runOn_bind, relationshipOf_draft named free, read,
    State.requireEnds_eq_ok_iff.mpr ends]
  rfl

/-- All calls succeed, since the columns that the later ones need are still there. -/
theorem runOn_connectAll {rs : List Relationship} (named : ∀ r ∈ rs, r.id ≠ "")
    (plain : ∀ r ∈ rs, r.IsPlain) (ids : ((s.relationships ++ rs).map (·.id)).Nodup)
    (ends : ∀ r ∈ rs, s.HasEnds r) (supply : Supply) :
    (connectAll rs s).runOn supply =
      (.ok { s with
        relationships := s.relationships ++ rs
        tables := markAll s.tables rs }, supply) := by
  induction rs generalizing s with
  | nil => simp [connectAll, markAll]
  | cons r rs ih =>
      obtain ⟨rNamed, restNamed⟩ := List.forall_mem_cons.mp named
      obtain ⟨rPlain, restPlain⟩ := List.forall_mem_cons.mp plain
      obtain ⟨rEnds, restEnds⟩ := List.forall_mem_cons.mp ends
      have free : r.id ∉ s.relationships.map (·.id) := by
        rw [List.map_append, List.nodup_append] at ids
        exact fun taken => ids.2.2 _ taken _ (List.mem_map_of_mem List.mem_cons_self) rfl
      let next : State α :=
        { s with relationships := s.relationships ++ [r], tables := markAll s.tables [r] }
      have nextIds : ((next.relationships ++ rs).map (·.id)).Nodup := by
        rwa [List.append_assoc]
      have nextEnds : ∀ q ∈ rs, next.HasEnds q := fun q hq =>
        (State.hasEnds_congr (outline_markAll s.tables [r])).mpr (restEnds q hq)
      calc (connectAll (r :: rs) s).runOn supply
          = (connectAll rs next).runOn supply := by
            rw [connectAll, List.foldlM_cons, Edit.runOn_bind,
              connectColumns_draft rNamed rPlain free rEnds]
            rfl
        _ = _ := by
            rw [ih restNamed restPlain nextIds nextEnds]
            simp [next, markAll]

/-- Relationships are drawn into a schema without any by connecting their columns one pair after
another. Every call succeeds, and after any number of them the schema has the relationships drawn
so far, written onto its tables in bulk. -/
theorem connectAll_markAll {rs : List Relationship} (noEdges : s.relationships = [])
    (tableIds : (s.tables.map (·.id)).Nodup) (ids : (rs.map (·.id)).Nodup)
    (named : ∀ r ∈ rs, r.id ≠ "") (plain : ∀ r ∈ rs, r.IsPlain)
    (anchored : ∀ r ∈ rs, r.isAnchored s.tables = true) (supply : Supply) :
    ∀ done, done <+: rs → (connectAll done s).runOn supply =
      (.ok { s with relationships := done, tables := markAll s.tables done }, supply) := by
  rintro done ⟨rest, rfl⟩
  have sofar : ∀ r ∈ done, r ∈ done ++ rest := fun r hr => List.mem_append_left rest hr
  have doneIds : ((s.relationships ++ done).map (·.id)).Nodup := by
    rw [noEdges, List.nil_append]
    exact ids.sublist ((List.sublist_append_left done rest).map _)
  have ends : ∀ r ∈ done, s.HasEnds r := fun r hr =>
    (isAnchored_iff tableIds).mp (anchored r (sofar r hr))
  rw [runOn_connectAll (fun r hr => named r (sofar r hr)) (fun r hr => plain r (sofar r hr))
    doneIds ends, noEdges, List.nil_append]

theorem connectAll_markAll_orders :
    let s : State Float := { State.orders Position.origin with relationships := [] }
    let rs := (State.orders Position.origin).relationships
    (connectAll rs s).runOn ⟨toString, 0⟩ =
      (.ok { s with relationships := rs, tables := markAll s.tables rs }, ⟨toString, 0⟩) := by
  intro s rs
  exact connectAll_markAll rfl (by decide) (by decide) (by decide) (by decide) (by decide)
    ⟨toString, 0⟩ rs (List.prefix_refl rs)

end Editing
end SchemaGraph
