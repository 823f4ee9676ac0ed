import SchemaGraph.Proofs.Editing.Link
import SchemaGraph.Proofs.Editing.Linked

/-!
# What a removal takes with it

A removal asks of each relationship whether it touches what is removed, and loading a schema asks
whether its ends can be found. The two agree on a schema without dangling relationships: what
touches a removed table or column is what would dangle without it. A column is removed by its id and
that of its table, so one with the same id in another table stays, and of columns that share an id
in one table all go.
-/

namespace SchemaGraph

open Editing

variable {α : Type} {s s' : State α}

/-- One schema is what remains of another one with these tables: the relationships that do not
dangle between them are kept as they are and in their order, and no others are. -/
structure State.IsRemainder (s s' : State α) (tables : List (Table α)) : Prop where
  tables : s'.tables = tables
  pruned : s'.relationships = Relationship.prune s'.tables s.relationships
  kept : ∀ r ∈ s.relationships, r ∈ s'.relationships ↔ s'.HasEnds r
  dialect : s'.dialect = s.dialect

namespace State

/-- It is enough to drop the relationships that lose an end. -/
theorem isRemainder_of_touches {tables : List (Table α)} {touches : Relationship → Bool}
    (closed : s.NoneDangles) (rest : s'.tables = tables) (tableIds : (tables.map (·.id)).Nodup)
    (lost : ∀ r, s.HasEnds r → (s'.HasEnds r ↔ touches r = false))
    (relationships : s'.relationships = s.relationships.filter (!touches ·))
    (dialect : s'.dialect = s.dialect) : s.IsRemainder s' tables := by
  subst rest
  have agree : ∀ r ∈ s.relationships, (!touches r) = r.isAnchored s'.tables := by
    intro r hr
    rw [Bool.eq_iff_iff, Bool.not_eq_true', ← lost r (closed r hr)]
    exact (Relationship.isAnchored_iff tableIds).symm
  have pruned : s'.relationships = Relationship.prune s'.tables s.relationships := by
    rw [relationships, Relationship.prune]
    exact List.filter_congr agree
  refine ⟨rfl, pruned, fun r hr => ?_, dialect⟩
  rw [relationships, List.mem_filter, Bool.not_eq_true', ← lost r (closed r hr)]
  exact and_iff_right hr

theorem hasEnds_without_table {r : Relationship} (gone : String) (h : s.HasEnds r) :
    ({ s with tables := s.tables.filter (·.id != gone) } : State α).HasEnds r ↔
      r.touchesTable gone = false := by
  simp [HasEnds, hasColumn_without_table, Relationship.touchesTable, h.1, h.2]

theorem hasEnds_without_column {t : Table α} {table : String} {r : Relationship}
    (ht : s.table? table = some t) (gone : String) (h : s.HasEnds r) :
    (s.replaceTable table { t with columns := t.columns.filter (·.id != gone) }).HasEnds r ↔
      r.touchesColumn table gone = false := by
  simp [HasEnds, hasColumn_without_column ht, Relationship.touchesColumn, h.1, h.2]

end State

namespace Editing

/-- A table that is there can be removed. -/
theorem exists_removeTable {t : Table α} {id : String} (ht : s.table? id = some t) :
    ∃ s', removeTable id s = .ok s' := by
  rw [removeTable, State.requireTable_eq_ok_iff.mpr ht]
  exact ⟨_, rfl⟩

/-- A column that is there can be removed. -/
theorem exists_removeColumn {table column : String} (has : s.HasColumn table column) :
    ∃ s', removeColumn table column s = .ok s' := by
  obtain ⟨t, ht, hc⟩ := has
  obtain ⟨c, hc⟩ := Option.isSome_iff_exists.mp hc
  simp only [removeColumn, State.requireTable_eq_ok_iff.mpr ht,
    Table.requireColumn_eq_ok_iff.mpr hc, bind, Except.bind]
  exact ⟨_, rfl⟩

theorem removeTable_isRemainder {id : String} (tableIds : (s.tables.map (·.id)).Nodup)
    (closed : s.NoneDangles) (removed : removeTable id s = .ok s') :
    s.IsRemainder s' (s.tables.filter (·.id != id)) := by
  obtain ⟨-, rfl⟩ := removeTable_ok removed
  refine State.isRemainder_of_touches closed rfl ?_ ?_ rfl rfl
  · exact tableIds.sublist (List.filter_sublist.map _)
  · exact fun _ has => State.hasEnds_without_table id has

theorem removeColumn_isRemainder {table column : String} (tableIds : (s.tables.map (·.id)).Nodup)
    (closed : s.NoneDangles) (removed : removeColumn table column s = .ok s') :
    s.IsRemainder s' (s.tables.map fun t =>
      if t.id = table then { t with columns := t.columns.filter (·.id != column) } else t) := by
  obtain ⟨t, ht, -, rfl⟩ := removeColumn_ok removed
  have replaced := State.replaceTable_eq_map tableIds ht (f := fun t =>
    if t.id = table then { t with columns := t.columns.filter (·.id != column) } else t)
    fun _ other => if_neg other
  rw [if_pos (State.id_of_table? ht)] at replaced
  have rest := congrArg State.tables replaced
  dsimp only at rest
  refine State.isRemainder_of_touches closed rest ?_ ?_ rfl (by simp)
  · rw [← rest, State.ids_replaceTable ht (by rfl)]
    exact tableIds
  · exact fun _ has => State.hasEnds_without_column ht column has

/-- Whatever table or column of a schema without dangling relationships is removed, what remains is
the other tables and columns, and exactly the relationships that still have both ends. -/
theorem removals_areExact (tableIds : (s.tables.map (·.id)).Nodup) (closed : s.NoneDangles) :
    (∀ t ∈ s.tables, ∃ s', removeTable t.id s = .ok s' ∧
      s.IsRemainder s' (s.tables.filter (·.id != t.id))) ∧
    ∀ t ∈ s.tables, ∀ c ∈ t.columns, ∃ s', removeColumn t.id c.id s = .ok s' ∧
      s.IsRemainder s' (s.tables.map fun u =>
        if u.id = t.id then { u with columns := u.columns.filter (·.id != c.id) } else u) := by
  constructor
  · intro t ht
    have found := (find?_eq_some_iff_of_nodup tableIds).mpr ⟨ht, rfl⟩
    obtain ⟨s', removed⟩ := exists_removeTable found
    exact ⟨s', removed, removeTable_isRemainder tableIds closed removed⟩
  · intro t ht c hc
    obtain ⟨s', removed⟩ := exists_removeColumn (s.hasColumn_of_mem tableIds ht hc)
    exact ⟨s', removed, removeColumn_isRemainder tableIds closed removed⟩

/-- Without the ids of orders, the relationship from them is gone, and the one to the ids of
customers, which are in another table, is not. -/
theorem removals_areExact_orders :
    let s := State.orders Position.origin
    (s.tables.map (·.id)).Nodup ∧ s.NoneDangles ∧
      (∃ s', removeTable "t1" s = .ok s' ∧
        s.IsRemainder s' (s.tables.filter (·.id != "t1")) ∧
        s'.relationships.map (·.id) = ["e2"]) ∧
      ∃ s', removeColumn "t2" "c1" s = .ok s' ∧
        s.IsRemainder s' (s.tables.map fun u =>
          if u.id = "t2" then { u with columns := u.columns.filter (·.id != "c1") } else u) ∧
        s'.relationships.map (·.id) = ["e1"] := by
  intro s
  have tableIds : (s.tables.map (·.id)).Nodup := by decide
  have closed : s.NoneDangles := (State.orders_wellLinked _).ends
  obtain ⟨tables, columns⟩ := removals_areExact tableIds closed
  obtain ⟨s₁, removed₁, rest₁⟩ := tables s.tables[0] (List.getElem_mem _)
  obtain ⟨s₂, removed₂, rest₂⟩ := columns s.tables[1] (List.getElem_mem _)
    s.tables[1].columns[0] (List.getElem_mem _)
  refine ⟨tableIds, closed, ⟨s₁, removed₁, rest₁, ?_⟩, s₂, removed₂, rest₂, ?_⟩
  · rw [rest₁.pruned, rest₁.tables]
    decide
  · rw [rest₂.pruned, rest₂.tables]
    decide

end Editing

end SchemaGraph
