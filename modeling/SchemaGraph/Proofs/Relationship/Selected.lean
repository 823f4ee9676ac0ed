import SchemaGraph.Proofs.Relationship.References

/-!
# Relationships between selected tables

Selecting tables takes all tables with an id or none of them, so what is looked up by an id is the
same among the selected tables as among all. A relationship between two selected tables resolves as
it does among all tables, and any other one does not resolve.
-/

namespace SchemaGraph

variable {α : Type} {tables : List (Table α)} {selection : Option (List String)}

namespace Table

theorem select_eq_filter :
    select selection tables = tables.filter fun t => selection.all (·.contains t.id) := by
  cases selection with
  | none => simp [select]
  | some ids => simp [select]

theorem select_sublist : (select selection tables).Sublist tables := by
  rw [select_eq_filter]
  exact List.filter_sublist

/-- A table is selected if its id is that of a selected table. -/
theorem contains_ids_select {t : Table α} (ht : t ∈ tables) :
    ((select selection tables).map (·.id)).contains t.id = selection.all (·.contains t.id) := by
  rw [select_eq_filter, Bool.eq_iff_iff, List.contains_iff_mem, List.mem_map]
  constructor
  · rintro ⟨u, hu, same⟩
    rw [← same]
    exact (List.mem_filter.mp hu).2
  · exact fun chosen => ⟨t, List.mem_filter.mpr ⟨ht, chosen⟩, rfl⟩

/-- Of two selections, the one that takes no table that the other one does not take is made from
the other one's tables. -/
theorem select_eq_filter_of_subset {part whole : Option (List String)}
    (fewer : select part tables ⊆ select whole tables) :
    select part tables = (select whole tables).filter fun t =>
      ((select part tables).map (·.id)).contains t.id := by
  have chosen : ∀ t ∈ tables, part.all (·.contains t.id) = true →
      whole.all (·.contains t.id) = true := by
    intro t ht h
    have mem : t ∈ select part tables := by
      rw [select_eq_filter]
      exact List.mem_filter.mpr ⟨ht, h⟩
    have mem' := fewer mem
    rw [select_eq_filter] at mem'
    exact (List.mem_filter.mp mem').2
  calc select part tables
      = tables.filter fun t => part.all (·.contains t.id) := select_eq_filter
    _ = tables.filter fun t => part.all (·.contains t.id) && whole.all (·.contains t.id) := by
        refine List.filter_congr fun t ht => ?_
        rw [Bool.eq_iff_iff, Bool.and_eq_true]
        exact ⟨fun h => ⟨h, chosen t ht h⟩, fun h => h.1⟩
    _ = (select whole tables).filter fun t => part.all (·.contains t.id) := by
        rw [select_eq_filter, List.filter_filter]
    _ = (select whole tables).filter fun t => ((select part tables).map (·.id)).contains t.id :=
        List.filter_congr fun t ht => (contains_ids_select (select_sublist.subset ht)).symm

end Table

namespace Relationship

variable {r : Relationship} {d : Resolved}

theorem resolve?_select :
    r.resolve? (Table.select selection tables) =
      if ((Table.select selection tables).map (·.id)).contains r.source &&
          ((Table.select selection tables).map (·.id)).contains r.target then
        r.resolve? tables
      else none := by
  split
  · rename_i both
    rw [Bool.and_eq_true, List.contains_iff_mem, List.contains_iff_mem] at both
    rw [resolve?, resolve?, Table.ofId?_select both.1, Table.ofId?_select both.2]
  · rename_i outside
    by_contra resolves
    obtain ⟨d, h⟩ := Option.ne_none_iff_exists'.mp resolves
    obtain ⟨source, target, -, -, hs, ht, -⟩ := resolve?_eq_some_iff.mp h
    have hasSource := Table.ofId?_isSome_iff.mp (Option.isSome_of_eq_some hs)
    have hasTarget := Table.ofId?_isSome_iff.mp (Option.isSome_of_eq_some ht)
    refine outside ?_
    rw [Bool.and_eq_true, List.contains_iff_mem, List.contains_iff_mem]
    exact ⟨hasSource, hasTarget⟩

end Relationship

/-- The child and the parent of a foreign key are among some tables. -/
def Resolved.isAmong (ids : List String) (d : Resolved) : Bool :=
  ids.contains d.childTableId && ids.contains d.parentTableId

namespace Relationship

variable {r : Relationship} {d : Resolved}

theorem isAmong_of_resolve? (h : r.resolve? tables = some d) (ids : List String) :
    d.isAmong ids = (ids.contains r.source && ids.contains r.target) := by
  rw [Resolved.isAmong]
  rcases joins_of_resolve? h with ⟨source, target⟩ | ⟨source, target⟩
  · rw [show r.source = d.childTableId from congrArg Place.table source,
      show r.target = d.parentTableId from congrArg Place.table target]
  · rw [show r.source = d.parentTableId from congrArg Place.table source,
      show r.target = d.childTableId from congrArg Place.table target, Bool.and_comm]

/-- The foreign keys between selected tables are those of all tables that have both ends there. -/
theorem resolveAll_select (rs : List Relationship) :
    resolveAll (Table.select selection tables) rs =
      (resolveAll tables rs).filter
        (Resolved.isAmong ((Table.select selection tables).map (·.id))) := by
  rw [resolveAll, resolveAll, List.filter_filterMap]
  refine List.filterMap_congr fun r _ => ?_
  rw [resolve?_select]
  cases h : r.resolve? tables with
  | none => simp
  | some d =>
      rw [Option.filter_some, isAmong_of_resolve? h]

end Relationship

end SchemaGraph
