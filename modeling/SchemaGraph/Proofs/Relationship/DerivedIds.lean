import SchemaGraph.Proofs.Editing.Linked
import SchemaGraph.Proofs.Relationship.Derived
import SchemaGraph.Proofs.Text.Words

/-!
# Ids of derived edges

The id of a derived edge joins the id of the child table, that of the parent table and that of the
child column with hyphens. Every reference gives an edge of its own, but ids may contain hyphens
themselves, so that the joined id of one edge may be that of another one, read in another way.
Edits find a relationship by its id, and then they meet both.
-/

namespace SchemaGraph

open Editing Text

variable {α : Type}

namespace State

/-- An edit of a relationship under its id leaves all other ones as they are. -/
structure EditsAlone (s : State α) (r : Relationship) : Prop where
  remove : removeRelationship r.id s =
    .ok { s with relationships := s.relationships.erase r }
  update : ∀ change s', updateRelationship r.id change s = .ok s' →
    ∃ new, s' = { s with relationships := s.relationships.map fun q => if q = r then new else q }

/-- Relationships can be edited one at a time exactly if their ids are different. -/
theorem editsAlone_iff {s : State α} (distinct : s.relationships.Nodup) :
    (∀ r ∈ s.relationships, s.EditsAlone r) ↔ (s.relationships.map (·.id)).Nodup := by
  constructor
  · intro alone
    refine distinct.map_on fun q hq r hr same => ?_
    by_contra different
    obtain ⟨-, removed⟩ := removeRelationship_ok (alone r hr).remove
    have others : s.relationships.erase r = s.relationships.filter (·.id != r.id) :=
      congrArg State.relationships removed
    have kept : q ∈ s.relationships.erase r := (List.mem_erase_of_ne different).mpr hq
    rw [others, List.mem_filter] at kept
    simp [same] at kept
  · intro ids r hr
    have sameIff : ∀ q ∈ s.relationships, q.id = r.id ↔ q = r := fun q hq =>
      ⟨List.inj_on_of_nodup_map ids hq hr, congrArg Relationship.id⟩
    refine ⟨?_, fun change s' success => ?_⟩
    · have found : ∃ q, s.relationship? r.id = some q :=
        Option.isSome_iff_exists.mp (relationship?_isSome_iff.mpr (List.mem_map_of_mem hr))
      obtain ⟨q, found⟩ := found
      rw [removeRelationship, requireRelationship_eq_ok_iff.mpr found, distinct.erase_eq_filter]
      have others : s.relationships.filter (·.id != r.id) = s.relationships.filter (· != r) :=
        List.filter_congr fun q hq => by simp [bne, sameIff q hq]
      rw [← others]
      rfl
    · obtain ⟨old, c, -, -, -, -, rfl⟩ := updateRelationship_ok success
      refine ⟨c.apply old, congrArg (fun rs => { s with relationships := rs }) ?_⟩
      exact List.map_congr_left fun q hq => by simp [sameIff q hq]

end State

namespace Relationship

variable {tables : List (Table α)} {t t' : Table α} {c c' : Column} {q r : Relationship}

theorem toList_derivedId (child parent column : String) :
    (derivedId child parent column).toList =
      ['e', '-'] ++ (child.toList ++ '-' :: (parent.toList ++ '-' :: column.toList)) := by
  change ("e-" ++ child ++ "-" ++ parent ++ "-" ++ column).toList = _
  simp

/-- Whether the ids of two edges may be one that is read in two ways. -/
def MayShareId (q r : Relationship) : Prop := MayReadAs '-' q.source q.target r.source r.target

/-- The edges of references on different columns are different, and they share an id only if it is
read in two ways. -/
theorem ofReference?_apart (hq : ofReference? tables t c = some q)
    (hr : ofReference? tables t' c' = some r) (different : t.id = t'.id → c.id ≠ c'.id) :
    q ≠ r ∧ (q.id = r.id → q.MayShareId r) := by
  obtain ⟨u, d, -, rfl⟩ := ofReference?_eq_some_iff.mp hq
  obtain ⟨u', d', -, rfl⟩ := ofReference?_eq_some_iff.mp hr
  have reading (same : derivedId t.id u.id c.id = derivedId t'.id u'.id c'.id) :
      MayReadAs '-' t.id u.id t'.id u'.id := by
    have lists := congrArg String.toList same
    rw [toList_derivedId, toList_derivedId, List.append_right_inj] at lists
    refine (joined_eq_cases lists).resolve_left ?_
    rintro ⟨child, -, column⟩
    exact different child column
  refine ⟨fun same => ?_, reading⟩
  have child : t.id = t'.id := congrArg source same
  have parent : u.id = u'.id := congrArg target same
  have ids : derivedId t.id u.id c.id = derivedId t'.id u'.id c'.id :=
    congrArg Relationship.id same
  have lists := congrArg String.toList ids
  rw [← child, ← parent, toList_derivedId, toList_derivedId] at lists
  exact different child (String.toList_inj.mp (by simpa using lists))

section

variable (tableIds : (tables.map (·.id)).Nodup)
  (columnIds : ∀ t ∈ tables, (t.columns.map (·.id)).Nodup)

include tableIds columnIds

theorem pairwise_derive :
    (derive tables).Pairwise fun q r => q ≠ r ∧ (q.id = r.id → q.MayShareId r) := by
  rw [derive, List.pairwise_flatMap]
  constructor
  · intro t ht
    refine List.pairwise_filterMap.mpr ((List.pairwise_map.mp (columnIds t ht)).imp ?_)
    intro c c' different q hq r hr
    exact ofReference?_apart hq hr fun _ => different
  · refine (List.pairwise_map.mp tableIds).imp fun different q hq r hr => ?_
    obtain ⟨c, -, hq⟩ := List.mem_filterMap.mp hq
    obtain ⟨c', -, hr⟩ := List.mem_filterMap.mp hr
    exact ofReference?_apart hq hr fun same => absurd same different

end

/-- A derived edge goes from a table to a table. -/
theorem exists_tables_of_mem_derive (h : r ∈ derive tables) :
    ∃ t ∈ tables, ∃ u ∈ tables, r.source = t.id ∧ r.target = u.id := by
  simp only [derive, List.mem_flatMap, List.mem_filterMap, ofReference?_eq_some_iff] at h
  obtain ⟨t, ht, c, -, u, d, means, rfl⟩ := h
  exact ⟨t, ht, u, means.mem_table, rfl, rfl⟩

theorem nodup_ids_derive (tableIds : (tables.map (·.id)).Nodup)
    (columnIds : ∀ t ∈ tables, (t.columns.map (·.id)).Nodup)
    (apart : ∀ t ∈ tables, ∀ u ∈ tables, ¬ ContinuesAfter '-' t.id u.id) :
    ((derive tables).map (·.id)).Nodup := by
  refine List.pairwise_map.mpr ((pairwise_derive tableIds columnIds).imp_of_mem ?_)
  rintro q r hq hr ⟨-, shared⟩ same
  obtain ⟨t, ht, u, hu, source, target⟩ := exists_tables_of_mem_derive hq
  obtain ⟨t', ht', u', hu', source', target'⟩ := exists_tables_of_mem_derive hr
  have twoWays := shared same
  rw [MayShareId, source, target, source', target'] at twoWays
  rcases twoWays with continued | continued | ⟨-, continued | continued⟩
  · exact apart t ht t' ht' continued
  · exact apart t' ht' t ht continued
  · exact apart u hu u' hu' continued
  · exact apart u' hu' u hu continued

/-- Every reference gives an edge of its own. The derived edges have different ids exactly if each
of them can be edited without another one. Two of them share an id only if the id of one table
continues that of another one after a hyphen. So all ids are different if no id of a table does. -/
theorem derive_editsAlone_iff {s : State α} (tableIds : (s.tables.map (·.id)).Nodup)
    (columnIds : ∀ t ∈ s.tables, (t.columns.map (·.id)).Nodup)
    (derived : s.relationships = derive s.tables) :
    (((derive s.tables).map (·.id)).Nodup ↔ ∀ r ∈ derive s.tables, s.EditsAlone r) ∧
      ((derive s.tables).Pairwise fun q r => q ≠ r ∧ (q.id = r.id → q.MayShareId r)) ∧
      ((∀ t ∈ s.tables, ∀ u ∈ s.tables, ¬ ContinuesAfter '-' t.id u.id) →
        ((derive s.tables).map (·.id)).Nodup) := by
  have pairs := pairwise_derive tableIds columnIds
  have distinct : s.relationships.Nodup := by
    rw [derived]
    exact pairs.imp And.left
  have alone := State.editsAlone_iff distinct
  rw [derived] at alone
  exact ⟨alone.symm, pairs, nodup_ids_derive tableIds columnIds⟩

/-- A schema with the edges that its references give. -/
def redrawn (s : State α) : State α := { s with relationships := derive s.tables }

theorem derive_editsAlone_iff_orders :
    let s := redrawn (State.orders Position.origin)
    s.relationships.map (·.id) = ["e-t2-t1-c2", "e-t2-t2-c3"] ∧
      ∀ r ∈ s.relationships, s.EditsAlone r := by
  intro s
  obtain ⟨alone, -, distinct⟩ :=
    derive_editsAlone_iff (s := s) (by decide) (by decide) rfl
  exact ⟨by decide, alone.mp (distinct (by decide))⟩

/-- Orders that reference an item, and items of orders that share the key of an item. -/
def itemOrders (corner : Position α) : State α :=
  let item : ColumnReference := ⟨"items", "id"⟩
  { tables := [
      { id := "item", name := "items", position := corner
        columns := [{ id := "id", name := "id", isPrimaryKey := true }] },
      { id := "order", name := "orders", position := corner
        columns := [{ id := "item-id", name := "item_id", references := some item }] },
      { id := "order-item", name := "order_items", position := corner
        columns := [
          { id := "id", name := "id", isPrimaryKey := true, references := some item }] }] }

/-- The two edges to the items have one id, and removing one removes both. -/
theorem not_nodup_ids_derive_itemOrders :
    let s := redrawn (itemOrders Position.origin)
    (s.tables.map (·.id)).Nodup ∧ (∀ t ∈ s.tables, (t.columns.map (·.id)).Nodup) ∧
      (derive s.tables).map (·.id) = ["e-order-item-item-id", "e-order-item-item-id"] ∧
      removeRelationship "e-order-item-item-id" s = .ok { s with relationships := [] } := by
  intro s
  exact ⟨by decide, by decide, by decide, rfl⟩

end Relationship
end SchemaGraph
