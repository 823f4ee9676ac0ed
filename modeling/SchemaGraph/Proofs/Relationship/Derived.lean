import SchemaGraph.Proofs.Relationship.References
import SchemaGraph.Proofs.Schema.Written
import SchemaGraph.Relationship

/-!
# The edges of references

Every reference that means a column gives one edge, drawn from the column that stores it to the
column that it means. The ends of an edge lose a handle word, so this holds only where no id of a
column begins with one: otherwise the edge may end at a column that is not there.
-/

namespace SchemaGraph

variable {α : Type} {tables : List (Table α)} {t u : Table α} {c d : Column}

/-- No id of a column begins with a handle word. -/
def Table.HavePlainIds (tables : List (Table α)) : Prop :=
  ∀ t ∈ tables, ∀ c ∈ t.columns,
    ¬ "source-".toList <+: c.id.toList ∧ ¬ "target-".toList <+: c.id.toList

instance (tables : List (Table α)) : Decidable (Table.HavePlainIds tables) :=
  inferInstanceAs (Decidable (∀ t ∈ tables, _))

namespace Column

/-- The column that a reference means: that of the name, or else the only key of the table. -/
def Means (tables : List (Table α)) (c : Column) (u : Table α) (d : Column) : Prop :=
  ∃ ref, c.references = some ref ∧ Table.named? tables ref.table = some u ∧
    u.parentColumn? ref.column = some d

namespace Means

theorem unique {u' : Table α} {d' : Column} (h : c.Means tables u d) (h' : c.Means tables u' d') :
    u = u' ∧ d = d' := by
  obtain ⟨ref, href, hu, hd⟩ := h
  obtain ⟨ref', href', hu', hd'⟩ := h'
  obtain rfl : ref = ref' := Option.some.inj (href.symm.trans href')
  obtain rfl : u = u' := Option.some.inj (hu.symm.trans hu')
  exact ⟨rfl, Option.some.inj (hd.symm.trans hd')⟩

theorem mem_table (h : c.Means tables u d) : u ∈ tables := by
  obtain ⟨ref, -, hu, -⟩ := h
  exact List.mem_of_find?_eq_some hu

/-- What is meant by its name is referenced; what is not is meant as a key. -/
theorem mem_and_pointsAt_or_key (h : c.Means tables u d) :
    d ∈ u.columns ∧ (c.pointsAt (some u.name) d = true ∨ d.isPrimaryKey = true) := by
  obtain ⟨ref, href, hu, hd⟩ := h
  have sameTable : Text.lower u.name = Text.lower ref.table := by
    simpa using List.find?_some hu
  rcases Option.or_eq_some_iff.mp hd with named | ⟨-, key⟩
  · have sameColumn : Text.lower d.name = Text.lower ref.column := by
      simpa using List.find?_some named
    refine ⟨List.mem_of_find?_eq_some named, .inl ?_⟩
    exact pointsAt_iff.mpr ⟨ref, href, sameTable.symm, sameColumn.symm⟩
  · split at key
    · rename_i only
      have isKey : d ∈ u.primaryKeys := by
        rw [only, ← Option.some.inj key]
        exact List.mem_singleton_self _
      obtain ⟨there, flagged⟩ := List.mem_filter.mp isKey
      exact ⟨there, .inr flagged⟩
    · cases key

theorem references_ne_none (h : c.Means tables u d) : c.references ≠ none := by
  obtain ⟨ref, href, -⟩ := h
  rw [href]
  exact Option.some_ne_none ref

theorem mem_column (h : c.Means tables u d) : d ∈ u.columns := h.mem_and_pointsAt_or_key.1

theorem actsAsForeignKey (h : c.Means tables u d) : c.actsAsForeignKey = true := by
  obtain ⟨ref, href, -⟩ := h
  exact actsAsForeignKey_of_references href

/-- The column that stores a reference gives way as the child only to one that references it. -/
theorem pointsAt_of_childIsTarget {table : String} (h : c.Means tables u d)
    (direction : (orient c d (some table) (some u.name)).childIsSource = false) :
    d.pointsAt (some table) c = true := by
  by_contra unreferenced
  rw [Bool.not_eq_true] at unreferenced
  have foreign := h.actsAsForeignKey
  rw [childIsSource_orient, pointing?, unreferenced] at direction
  rcases h.mem_and_pointsAt_or_key.2 with points | key
  · simp [points] at direction
  · cases points : c.pointsAt (some u.name) d <;> cases other : d.actsAsForeignKey <;>
      simp [points, sourceByKeys, foreign, other, key] at direction

end Means

/-- Where names tell columns apart, a reference means the column that it names. -/
theorem means_of_pointsAt (distinct : Table.Distinct tables) (hu : u ∈ tables)
    (hd : d ∈ u.columns) (points : c.pointsAt (some u.name) d = true) : c.Means tables u d := by
  obtain ⟨ref, href, sameTable, sameColumn⟩ := pointsAt_iff.mp points
  refine ⟨ref, href, distinct.named?_eq_some_iff.mpr ⟨hu, sameTable.symm⟩, ?_⟩
  have named := (distinct.columnNamed?_eq_some_iff hu).mpr ⟨hd, sameColumn.symm⟩
  rw [Table.parentColumn?, named]
  rfl

end Column

/-- What a column references by name is what its reference means. -/
theorem RefersTo.eq_of_means {p q : Place} (h : RefersTo tables p q)
    (distinct : Table.Distinct tables) (hp : p.Holds tables t c) (means : c.Means tables u d) :
    q = ⟨u.id, d.id⟩ := by
  obtain ⟨t', c', u', d', hp', hq, points⟩ := h
  obtain ⟨rfl, rfl⟩ := hp.unique hp'
  obtain ⟨hu, hd⟩ := hq.mem
  obtain ⟨rfl, rfl⟩ := means.unique (Column.means_of_pointsAt distinct hu hd points)
  exact hq.eq.symm

namespace Relationship

open Resolved

variable {r : Relationship} {k : Resolved}

/-- The edge from a column to the one that its reference means. -/
def along (t : Table α) (c : Column) (u : Table α) (d : Column) : Relationship where
  id := derivedId t.id u.id c.id
  source := t.id
  target := u.id
  sourceColumn := c.id
  targetColumn := d.id

theorem ofReference?_eq_some_iff :
    ofReference? tables t c = some r ↔ ∃ u d, c.Means tables u d ∧ r = (along t c u d).normal := by
  simp only [ofReference?, Option.bind_eq_bind, Option.bind_eq_some_iff, Option.pure_def,
    Option.some_inj]
  constructor
  · rintro ⟨ref, href, u, hu, d, hd, rfl⟩
    exact ⟨u, d, ⟨ref, href, hu, hd⟩, rfl⟩
  · rintro ⟨u, d, ⟨ref, href, hu, hd⟩, rfl⟩
    exact ⟨ref, href, u, hu, d, hd, rfl⟩

/-- The edge of a reference resolves between the column that stores it and the one meant. -/
theorem resolve?_along (distinct : Table.Distinct tables) (ht : t ∈ tables) (hc : c ∈ t.columns)
    (h : c.Means tables u d) :
    (along t c u d).resolve? tables = some ((along t c u d).resolveBetween t c u d) :=
  resolve?_of_holds (distinct.holds ht hc) (distinct.holds h.mem_table h.mem_column)

section Plain

variable (plain : Table.HavePlainIds tables)

include plain

theorem normal_along (ht : t ∈ tables) (hc : c ∈ t.columns) (h : c.Means tables u d) :
    (along t c u d).normal = along t c u d :=
  normal_eq_self_iff.mpr ⟨withoutHandle_eq_self_iff.mpr (plain t ht c hc),
    withoutHandle_eq_self_iff.mpr (plain u h.mem_table d h.mem_column)⟩

/-- The derived edges are those from each column to the one that its reference means. -/
theorem mem_derive_iff :
    r ∈ derive tables ↔
      ∃ t ∈ tables, ∃ c ∈ t.columns, ∃ u d, c.Means tables u d ∧ r = along t c u d := by
  simp only [derive, List.mem_flatMap, List.mem_filterMap, ofReference?_eq_some_iff]
  refine exists_congr fun t => and_congr_right fun ht => ?_
  refine exists_congr fun c => and_congr_right fun hc => ?_
  refine exists_congr fun u => exists_congr fun d => and_congr_right fun h => ?_
  rw [normal_along plain ht hc h]

/-- No derived edge dangles. -/
theorem isAnchored_of_mem_derive (tableIds : (tables.map (·.id)).Nodup) (h : r ∈ derive tables) :
    r.isAnchored tables = true := by
  obtain ⟨t, ht, c, hc, u, d, means, rfl⟩ := (mem_derive_iff plain).mp h
  have source : (t.column? c.id).isSome = true :=
    Table.column?_isSome_iff.mpr (List.mem_map_of_mem hc)
  have target : (u.column? d.id).isSome = true :=
    Table.column?_isSome_iff.mpr (List.mem_map_of_mem means.mem_column)
  simp only [isAnchored, along, Table.ofId?_eq_some_of_mem tableIds ht,
    Table.ofId?_eq_some_of_mem tableIds means.mem_table, source, target, Bool.and_self]

/-- Whichever end of a derived edge is the child, its reference means the parent. -/
theorem means_of_resolve? (distinct : Table.Distinct tables) (hr : r ∈ derive tables)
    (h : r.resolve? tables = some k) :
    ∃ t ∈ tables, ∃ c ∈ t.columns, ∃ u d, c.Means tables u d ∧ r.Joins ⟨t.id, c.id⟩ ⟨u.id, d.id⟩ ∧
      k.child = .of t c ∧ k.parent = .of u d := by
  obtain ⟨t, ht, c, hc, u, d, means, rfl⟩ := (mem_derive_iff plain).mp hr
  rw [resolve?_along distinct ht hc means, Option.some_inj] at h
  subst h
  cases direction : (Column.orient c d (some t.name) (some u.name)).childIsSource with
  | true =>
      exact ⟨t, ht, c, hc, u, d, means, .inl ⟨rfl, rfl⟩, ends_of_childIsSource direction⟩
  | false =>
      have back := means.pointsAt_of_childIsTarget direction
      exact ⟨u, means.mem_table, d, means.mem_column, t, c,
        Column.means_of_pointsAt distinct ht hc back, .inr ⟨rfl, rfl⟩,
        ends_of_childIsTarget direction⟩

end Plain

end Relationship
end SchemaGraph
