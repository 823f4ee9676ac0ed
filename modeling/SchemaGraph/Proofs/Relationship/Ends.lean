import SchemaGraph.Proofs.Schema.Outline
import SchemaGraph.Proofs.Validation.Names

/-!
# The ends of a resolved relationship

A resolved relationship names its child and its parent twice, by ids and by names. The ids decide
the names, also where an id is in use twice, since one and the same table is taken for it. The names
decide the ids only if they are distinct, which is what validation makes sure of.
-/

namespace SchemaGraph

variable {α : Type} {tables : List (Table α)} {r : Relationship} {d : Resolved}

namespace Resolved

/-- One of the two columns of a resolved relationship. -/
structure End where
  tableId : String
  table : String
  columnId : String
  column : String

def child (d : Resolved) : End := ⟨d.childTableId, d.childTable, d.childColumnId, d.childColumn⟩

def parent (d : Resolved) : End :=
  ⟨d.parentTableId, d.parentTable, d.parentColumnId, d.parentColumn⟩

/-- The table and the column that are looked up by the ids have the names. -/
def End.IsIn (tables : List (Table α)) (e : End) : Prop :=
  ∃ t, Table.ofId? tables e.tableId = some t ∧ t.name = e.table ∧
    ∃ c, t.column? e.columnId = some c ∧ c.name = e.column

namespace End.IsIn

variable {e e' : End}

theorem of_lookup {table column : String} {t : Table α} {c : Column}
    (ht : Table.ofId? tables table = some t) (hc : t.column? column = some c) :
    IsIn tables ⟨t.id, t.name, c.id, c.name⟩ := by
  refine ⟨t, ?_, rfl, c, ?_, rfl⟩
  · rw [← Table.id_of_ofId? ht] at ht
    exact ht
  · rw [← Table.id_of_column? hc] at hc
    exact hc

theorem mem (h : e.IsIn tables) : ∃ t ∈ tables, t.id = e.tableId ∧ t.name = e.table ∧
    ∃ c ∈ t.columns, c.id = e.columnId ∧ c.name = e.column := by
  obtain ⟨t, ht, name, c, hc, column⟩ := h
  exact ⟨t, Table.mem_of_ofId? ht, Table.id_of_ofId? ht, name, c, Table.mem_of_column? hc,
    Table.id_of_column? hc, column⟩

theorem table_eq (h : e.IsIn tables) (h' : e'.IsIn tables) (same : e.tableId = e'.tableId) :
    e.table = e'.table := by
  obtain ⟨t, ht, name, -⟩ := h
  obtain ⟨t', ht', name', -⟩ := h'
  rw [same, ht', Option.some_inj] at ht
  rw [← name, ← name', ht]

theorem column_eq (h : e.IsIn tables) (h' : e'.IsIn tables) (same : e.tableId = e'.tableId)
    (sameColumn : e.columnId = e'.columnId) : e.column = e'.column := by
  obtain ⟨t, ht, -, c, hc, name⟩ := h
  obtain ⟨t', ht', -, c', hc', name'⟩ := h'
  rw [same, ht', Option.some_inj] at ht
  rw [sameColumn, ← ht, hc', Option.some_inj] at hc
  rw [← name, ← name', hc]

/-- With distinct names, a name is that of one table only. -/
theorem ofId?_eq (named : Table.AllNamed tables) (h : e.IsIn tables) (h' : e'.IsIn tables)
    (same : e.table = e'.table) :
    Table.ofId? tables e.tableId = Table.ofId? tables e'.tableId := by
  obtain ⟨t, ht, name, -⟩ := h
  obtain ⟨t', ht', name', -⟩ := h'
  have one : t = t' := by
    refine List.inj_on_of_nodup_map named.distinct (Table.mem_of_ofId? ht)
      (Table.mem_of_ofId? ht') ?_
    rw [name, name', same]
  rw [ht, ht', one]

theorem tableId_eq (named : Table.AllNamed tables) (h : e.IsIn tables) (h' : e'.IsIn tables)
    (same : e.table = e'.table) : e.tableId = e'.tableId := by
  have one := ofId?_eq named h h' same
  obtain ⟨t, ht, -⟩ := h
  rw [ht] at one
  rw [← Table.id_of_ofId? ht, ← Table.id_of_ofId? one.symm]

theorem columnId_eq (named : Table.AllNamed tables) (h : e.IsIn tables) (h' : e'.IsIn tables)
    (same : e.table = e'.table) (sameColumn : e.column = e'.column) :
    e.columnId = e'.columnId := by
  have one := ofId?_eq named h h' same
  obtain ⟨t, ht, -, c, hc, name⟩ := h
  obtain ⟨t', ht', -, c', hc', name'⟩ := h'
  rw [ht, ht', Option.some_inj] at one
  subst one
  have sameColumn : c = c' := by
    refine List.inj_on_of_nodup_map (named.columns t (Table.mem_of_ofId? ht)).distinct
      (Table.mem_of_column? hc) (Table.mem_of_column? hc') ?_
    rw [name, name', sameColumn]
  rw [← Table.id_of_column? hc, ← Table.id_of_column? hc', sameColumn]

end End.IsIn

end Resolved

namespace Relationship

theorem resolve?_eq_some_iff : r.resolve? tables = some d ↔
    ∃ source target sourceColumn targetColumn,
      Table.ofId? tables r.source = some source ∧ Table.ofId? tables r.target = some target ∧
      source.column? r.sourceColumn = some sourceColumn ∧
      target.column? r.targetColumn = some targetColumn ∧
      r.resolveBetween source sourceColumn target targetColumn = d := by
  simp only [resolve?, Option.bind_eq_bind, Option.bind_eq_some_iff, Option.pure_def,
    Option.some_inj]
  constructor
  · rintro ⟨source, hs, target, ht, sourceColumn, hsc, targetColumn, htc, rfl⟩
    exact ⟨source, target, sourceColumn, targetColumn, hs, ht, hsc, htc, rfl⟩
  · rintro ⟨source, target, sourceColumn, targetColumn, hs, ht, hsc, htc, rfl⟩
    exact ⟨source, hs, target, ht, sourceColumn, hsc, targetColumn, htc, rfl⟩

/-- Both ends are in the tables, whichever of them is the child. -/
theorem ends_of_resolve? (h : r.resolve? tables = some d) :
    d.child.IsIn tables ∧ d.parent.IsIn tables := by
  obtain ⟨source, target, sourceColumn, targetColumn, hs, ht, hsc, htc, rfl⟩ :=
    resolve?_eq_some_iff.mp h
  have sourceEnd := Resolved.End.IsIn.of_lookup hs hsc
  have targetEnd := Resolved.End.IsIn.of_lookup ht htc
  dsimp only [resolveBetween]
  split
  · exact ⟨sourceEnd, targetEnd⟩
  · exact ⟨targetEnd, sourceEnd⟩

theorem relationshipId_of_resolve? (h : r.resolve? tables = some d) : d.relationshipId = r.id := by
  obtain ⟨source, target, sourceColumn, targetColumn, -, -, -, -, rfl⟩ :=
    resolve?_eq_some_iff.mp h
  dsimp only [resolveBetween]
  split <;> rfl

/-- What resolves is what is anchored. -/
theorem exists_resolve?_iff : (∃ d, r.resolve? tables = some d) ↔ r.isAnchored tables = true := by
  constructor
  · rintro ⟨d, h⟩
    obtain ⟨source, target, sourceColumn, targetColumn, hs, ht, hsc, htc, -⟩ :=
      resolve?_eq_some_iff.mp h
    simp [isAnchored, hs, ht, hsc, htc]
  · intro h
    unfold isAnchored at h
    split at h
    · rename_i source target hs ht
      rw [Bool.and_eq_true, Option.isSome_iff_exists, Option.isSome_iff_exists] at h
      obtain ⟨⟨sourceColumn, hsc⟩, ⟨targetColumn, htc⟩⟩ := h
      exact ⟨_, resolve?_eq_some_iff.mpr ⟨source, target, sourceColumn, targetColumn,
        hs, ht, hsc, htc, rfl⟩⟩
    · cases h

end Relationship

/-- Among selected tables, a table is found as among all. -/
theorem Table.ofId?_select {selection : Option (List String)} {id : String}
    (selected : id ∈ (select selection tables).map (·.id)) :
    ofId? (select selection tables) id = ofId? tables id := by
  cases selection with
  | none => rfl
  | some ids =>
      obtain ⟨t, ht, rfl⟩ := List.mem_map.mp selected
      obtain ⟨-, chosen⟩ := List.mem_filter.mp ht
      rw [select, ofId?, ofId?, List.filter_reverse.symm, List.find?_filter]
      refine congrArg (fun p => List.find? p tables.reverse) (funext fun u => ?_)
      by_cases same : u.id = t.id
      · rw [same, chosen, beq_self_eq_true]
        rfl
      · simp [same]

theorem Relationship.isAnchored_select {selection : Option (List String)}
    (source : r.source ∈ (Table.select selection tables).map (·.id))
    (target : r.target ∈ (Table.select selection tables).map (·.id)) :
    r.isAnchored (Table.select selection tables) = r.isAnchored tables := by
  rw [isAnchored, isAnchored, Table.ofId?_select source, Table.ofId?_select target]

end SchemaGraph
