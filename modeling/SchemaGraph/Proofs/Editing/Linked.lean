import SchemaGraph.Proofs.Editing.Effect

/-!
# Edits keep a schema linked

A schema is linked when its tables have different ids, its relationships have different ids, and no
relationship dangles. Every edit takes a linked schema to a linked one. Most edits keep the outline
and the relationships; the removals drop the relationships that would dangle, and new ends of a
relationship are looked up before it is stored.
-/

namespace SchemaGraph

open Decode

variable {α : Type}

/-- Distinct ids, and both ends of every relationship are there. -/
structure State.WellLinked (s : State α) : Prop where
  tableIds : (s.tables.map (·.id)).Nodup
  relationshipIds : (s.relationships.map (·.id)).Nodup
  ends : ∀ r ∈ s.relationships,
    s.HasColumn r.source r.sourceColumn ∧ s.HasColumn r.target r.targetColumn

/-- Orders that reference the customer who placed them and the order they replace. -/
def State.orders (corner : Position α) : State α :=
  let key (id : String) : Column :=
    { id, name := "id", dataType := "INT", isPrimaryKey := true, isNullable := false }
  let pointer (id name table : String) : Column :=
    { id, name, dataType := "INT", isForeignKey := true, references := some ⟨table, "id"⟩ }
  { tables := [
      { id := "t1", name := "customers", columns := [key "c1"], position := corner },
      { id := "t2", name := "orders", position := corner
        columns := [key "c1", pointer "c2" "customer" "customers",
          pointer "c3" "replaces" "orders"] }]
    relationships := [
      { id := "e1", source := "t2", target := "t1", sourceColumn := "c2", targetColumn := "c1" },
      { id := "e2", source := "t2", target := "t2", sourceColumn := "c1", targetColumn := "c3",
        label := some "follows" }] }

theorem State.orders_wellLinked (corner : Position α) : (State.orders corner).WellLinked := by
  refine ⟨?_, ?_, ?_⟩
  · change ["t1", "t2"].Nodup
    decide
  · change ["e1", "e2"].Nodup
    decide
  · intro r hr
    rcases List.mem_cons.mp hr with rfl | hr
    · exact ⟨⟨_, rfl, rfl⟩, ⟨_, rfl, rfl⟩⟩
    · rw [List.mem_singleton.mp hr]
      exact ⟨⟨_, rfl, rfl⟩, ⟨_, rfl, rfl⟩⟩

namespace State.WellLinked

variable {s s' : State α}

theorem empty (d : Dialect) : ({ dialect := d } : State α).WellLinked :=
  ⟨List.nodup_nil, List.nodup_nil, fun _ h => by cases h⟩

/-- Edits inside the tables: ids and relationships stay, and columns only join. -/
theorem of_columns (h : s.WellLinked) (ids : s'.tables.map (·.id) = s.tables.map (·.id))
    (relationships : s'.relationships = s.relationships)
    (grow : ∀ table column, s.HasColumn table column → s'.HasColumn table column) :
    s'.WellLinked := by
  refine ⟨by rw [ids]; exact h.tableIds, by rw [relationships]; exact h.relationshipIds, ?_⟩
  intro r hr
  rw [relationships] at hr
  exact ⟨grow _ _ (h.ends r hr).1, grow _ _ (h.ends r hr).2⟩

theorem of_outline (h : s.WellLinked)
    (outline : s'.tables.map Table.outline = s.tables.map Table.outline)
    (relationships : s'.relationships = s.relationships) : s'.WellLinked :=
  h.of_columns (map_id_of_outline outline) relationships
    fun _ _ has => (hasColumn_congr outline).mpr has

/-- Removals: what is left keeps its ids, and the relationships left keep their ends. -/
theorem of_sublist (h : s.WellLinked)
    (tables : (s'.tables.map (·.id)).Sublist (s.tables.map (·.id)))
    (relationships : s'.relationships.Sublist s.relationships)
    (ends : ∀ r ∈ s'.relationships, s.HasColumn r.source r.sourceColumn →
      s.HasColumn r.target r.targetColumn →
      s'.HasColumn r.source r.sourceColumn ∧ s'.HasColumn r.target r.targetColumn) :
    s'.WellLinked := by
  refine ⟨h.tableIds.sublist tables, h.relationshipIds.sublist (relationships.map _), ?_⟩
  intro r hr
  have old := h.ends r (relationships.subset hr)
  exact ends r hr old.1 old.2

/-- A relationship between columns that are there may join under a fresh id. -/
theorem append_relationship (h : s.WellLinked) {r : Relationship}
    (fresh : r.id ∉ s.relationships.map (·.id)) (source : s.HasColumn r.source r.sourceColumn)
    (target : s.HasColumn r.target r.targetColumn) :
    { s with relationships := s.relationships ++ [r] }.WellLinked := by
  refine ⟨h.tableIds, ?_, ?_⟩
  · simpa using List.Nodup.concat fresh h.relationshipIds
  · intro q hq
    rcases List.mem_append.mp hq with hq | hq
    · exact h.ends q hq
    · rw [List.mem_singleton.mp hq]
      exact ⟨source, target⟩

end State.WellLinked

namespace Editing

open State

variable {s s' : State α}

theorem addTable_wellLinked (settings : Config.Settings) (d : TableDraft) {s : State Float}
    (h : s.WellLinked) : (addTable settings d s).Ensures State.WellLinked := by
  refine (addTable_ensures settings d s).mono ?_
  rintro _ ⟨t, new, rfl⟩
  refine ⟨?_, h.relationshipIds, ?_⟩
  · simpa using List.Nodup.concat new.fresh h.tableIds
  · -- A table that was found before is still the first one with its id.
    have grow : ∀ table column, s.HasColumn table column →
        ({ s with tables := s.tables ++ [t] } : State Float).HasColumn table column := by
      rintro table column ⟨u, hu, hc⟩
      refine ⟨u, ?_, hc⟩
      simp only [table?, List.find?_append] at hu ⊢
      rw [hu]
      rfl
    intro r hr
    exact ⟨grow _ _ (h.ends r hr).1, grow _ _ (h.ends r hr).2⟩

theorem updateTable_wellLinked {id : String} {change : Checked (TableChange α)}
    (h : s.WellLinked) (hu : updateTable id change s = .ok s') : s'.WellLinked := by
  have outline := updateTable_outline hu
  obtain ⟨t, c, ht, -, rfl⟩ := updateTable_ok hu
  exact h.of_outline outline (by simp)

theorem removeTable_wellLinked {id : String} (h : s.WellLinked)
    (hr : removeTable id s = .ok s') : s'.WellLinked := by
  obtain ⟨-, rfl⟩ := removeTable_ok hr
  refine h.of_sublist (List.filter_sublist.map _) List.filter_sublist ?_
  intro r hr source target
  have untouched := (List.mem_filter.mp hr).2
  simp only [Relationship.touchesTable, Bool.not_eq_true', Bool.or_eq_false_iff,
    beq_eq_false_iff_ne] at untouched
  exact ⟨(hasColumn_without_table s id).mpr ⟨untouched.1, source⟩,
    (hasColumn_without_table s id).mpr ⟨untouched.2, target⟩⟩

theorem addColumn_wellLinked (settings : Config.Settings) (table : String) (d : ColumnDraft)
    (h : s.WellLinked) : (addColumn settings table d s).Ensures State.WellLinked := by
  refine (addColumn_ensures settings table d s).mono ?_
  rintro _ ⟨t, c, ht, -, rfl⟩
  refine h.of_columns (ids_replaceTable ht rfl) (by simp) ?_
  intro other column has
  rw [hasColumn_replaceTable ht (by rfl)]
  split
  · rename_i same
    rw [same, hasColumn_iff_of_table? ht] at has
    rw [List.map_append]
    exact List.mem_append_left _ has
  · exact has

theorem updateColumn_wellLinked {table column : String} {change : Checked ColumnChange}
    (h : s.WellLinked) (hu : updateColumn table column change s = .ok s') : s'.WellLinked := by
  have outline := updateColumn_outline hu
  obtain ⟨t, old, c, ht, -, -, rfl⟩ := updateColumn_ok hu
  exact h.of_outline outline (by simp)

theorem removeColumn_wellLinked {table column : String} (h : s.WellLinked)
    (hr : removeColumn table column s = .ok s') : s'.WellLinked := by
  obtain ⟨t, ht, -, rfl⟩ := removeColumn_ok hr
  refine h.of_sublist (by rw [ids_replaceTable ht (by rfl)]) List.filter_sublist ?_
  intro r hr source target
  have untouched := (List.mem_filter.mp hr).2
  simp only [Relationship.touchesColumn, Bool.not_eq_true', Bool.or_eq_false_iff,
    Bool.and_eq_false_iff, beq_eq_false_iff_ne] at untouched
  exact ⟨(hasColumn_without_column ht column).mpr
      ⟨fun he => untouched.1.elim (· he.1) (· he.2), source⟩,
    (hasColumn_without_column ht column).mpr
      ⟨fun he => untouched.2.elim (· he.1) (· he.2), target⟩⟩

theorem addRelationship_wellLinked (d : RelationshipDraft) (h : s.WellLinked) :
    (addRelationship d s).Ensures State.WellLinked := by
  refine (addRelationship_ensures d s).mono ?_
  rintro _ ⟨r, fresh, source, target, rfl⟩
  exact h.append_relationship fresh source target

theorem connectColumns_wellLinked (d : RelationshipDraft) (h : s.WellLinked) :
    (connectColumns d s).Ensures State.WellLinked := by
  refine (connectColumns_ensures d s).mono ?_
  rintro _ ⟨r, fresh, source, target, rfl⟩
  have added := h.append_relationship fresh source target
  exact added.of_outline (Relationship.outline_markAll s.tables [r]) rfl

theorem updateRelationship_wellLinked {id : String} {change : Checked RelationshipChange}
    (h : s.WellLinked) (hu : updateRelationship id change s = .ok s') : s'.WellLinked := by
  obtain ⟨old, c, hold, -, source, target, rfl⟩ := updateRelationship_ok hu
  have sameId : (c.apply old).id = id := by
    rw [RelationshipChange.apply_id, id_of_relationship? hold]
  refine ⟨h.tableIds, ?_, ?_⟩
  · rw [map_key_replaced sameId]
    exact h.relationshipIds
  · intro q hq
    obtain ⟨r, hr, rfl⟩ := List.mem_map.mp hq
    split
    · exact ⟨source, target⟩
    · exact h.ends r hr

theorem removeRelationship_wellLinked {id : String} (h : s.WellLinked)
    (hr : removeRelationship id s = .ok s') : s'.WellLinked := by
  obtain ⟨-, rfl⟩ := removeRelationship_ok hr
  exact h.of_sublist (List.Sublist.refl _) List.filter_sublist fun _ _ source target =>
    ⟨source, target⟩

theorem setDialect_wellLinked (d : Dialect) (h : s.WellLinked) : (setDialect d s).WellLinked :=
  h.of_outline rfl rfl

theorem autoLayout_wellLinked [Scalar α] {settings : Except Failure (Layout.Settings α)}
    (h : s.WellLinked) (ha : autoLayout settings s = .ok s') : s'.WellLinked := by
  have outline := autoLayout_outline ha
  obtain ⟨tables, rfl, -⟩ := autoLayout_ok ha
  exact h.of_outline outline rfl

end Editing
end SchemaGraph
