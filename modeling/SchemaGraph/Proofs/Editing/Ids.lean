import SchemaGraph.Proofs.Editing.Drawn

/-!
# Edits and repeated ids

Edits keep the ids of a schema different from each other, with one exception. A new table and a new
column have to come with an id that is not in use, but of the columns of a new table it is not asked
whether their ids are different. Adding a table therefore keeps ids different exactly if the columns
that it comes with have different ids.
-/

namespace SchemaGraph

open Decode

variable {α : Type}

/-- No two tables have the same id, and no two columns of one table. -/
structure State.HasDistinctIds (s : State α) : Prop where
  tables : (s.tables.map (·.id)).Nodup
  columns : ∀ t ∈ s.tables, (t.columns.map (·.id)).Nodup

def Outline.IsDistinct (outline : Outline) : Prop :=
  (outline.map Prod.fst).Nodup ∧ ∀ o ∈ outline, o.2.Nodup

instance (outline : Outline) : Decidable outline.IsDistinct :=
  inferInstanceAs (Decidable (_ ∧ _))

namespace State.HasDistinctIds

variable {s s' : State α} {id : String} {t t' : Table α}

theorem iff_outline : s.HasDistinctIds ↔ Outline.IsDistinct (s.tables.map Table.outline) := by
  have ids : (s.tables.map Table.outline).map Prod.fst = s.tables.map (·.id) := List.map_map
  rw [Outline.IsDistinct, ids, List.forall_mem_map]
  exact ⟨fun h => ⟨h.tables, h.columns⟩, fun h => ⟨h.1, h.2⟩⟩

theorem of_outline (h : s.HasDistinctIds)
    (outline : s'.tables.map Table.outline = s.tables.map Table.outline) : s'.HasDistinctIds := by
  rw [iff_outline] at h ⊢
  rwa [outline]

theorem of_sublist (h : s.HasDistinctIds) (fewer : s'.tables.Sublist s.tables) :
    s'.HasDistinctIds :=
  ⟨h.tables.sublist (fewer.map _), fun t ht => h.columns t (fewer.subset ht)⟩

/-- A table may be replaced by one with its id whose columns have different ids. -/
theorem replaceTable (h : s.HasDistinctIds) (found : s.table? id = some t) (same : t'.id = t.id)
    (columns : (t'.columns.map (·.id)).Nodup) : (s.replaceTable id t').HasDistinctIds := by
  refine ⟨by rw [ids_replaceTable found same]; exact h.tables, fun u hu => ?_⟩
  rcases mem_replaceTable found hu with rfl | hu
  · exact columns
  · exact h.columns u hu

end State.HasDistinctIds

namespace Editing

open State

variable {s s' : State α}

/-- Of the ids of a new table and its columns, those of the columns may be the same. -/
theorem addTable_hasDistinctIds_iff {settings : Config.Settings} {d : TableDraft}
    {s s' : State Float} {supply rest : Supply} (h : s.HasDistinctIds)
    (added : (addTable settings d s).runOn supply = (.ok s', rest)) :
    s'.HasDistinctIds ↔ (d.outline.run supply).1.2.Nodup := by
  obtain ⟨t, new, rfl⟩ := addTable_ensures settings d s supply s' (by rw [added])
  have ids := congrArg Prod.fst (addTable_follows settings d s supply _ rest added)
  have own : (d.outline.run supply).1 = t.outline := by
    change s.tables.map Table.outline ++ [(d.outline.run supply).1] =
      (s.tables ++ [t]).map Table.outline at ids
    rw [List.map_append] at ids
    exact List.singleton_inj.mp (List.append_cancel_left ids)
  rw [own]
  constructor
  · exact fun h => h.columns t (List.mem_append_right _ List.mem_cons_self)
  · refine fun columns => ⟨?_, fun u hu => ?_⟩
    · simpa using List.Nodup.concat new.fresh h.tables
    · rcases List.mem_append.mp hu with hu | hu
      · exact h.columns u hu
      · rw [List.mem_singleton.mp hu]
        exact columns

theorem removeTable_hasDistinctIds {id : String} (h : s.HasDistinctIds)
    (hr : removeTable id s = .ok s') : s'.HasDistinctIds := by
  obtain ⟨-, rfl⟩ := removeTable_ok hr
  exact h.of_sublist List.filter_sublist

theorem addColumn_hasDistinctIds (settings : Config.Settings) (table : String) (d : ColumnDraft)
    (h : s.HasDistinctIds) : (addColumn settings table d s).Ensures HasDistinctIds := by
  refine (addColumn_ensures settings table d s).mono ?_
  rintro _ ⟨t, c, ht, new, rfl⟩
  refine h.replaceTable ht (by rfl) ?_
  simpa using List.Nodup.concat new.fresh (h.columns t (mem_of_table? ht))

theorem removeColumn_hasDistinctIds {table column : String} (h : s.HasDistinctIds)
    (hr : removeColumn table column s = .ok s') : s'.HasDistinctIds := by
  obtain ⟨t, ht, -, rfl⟩ := removeColumn_ok hr
  have columns : ((t.columns.filter (·.id != column)).map (·.id)).Nodup :=
    (h.columns t (mem_of_table? ht)).sublist (List.filter_sublist.map _)
  exact (h.replaceTable ht (by rfl) columns).of_outline rfl

end Editing

end SchemaGraph
