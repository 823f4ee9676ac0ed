import SchemaGraph.Proofs.Relationship.Signatures

/-!
# Writing an edge onto its child column

The child column of a resolved edge is made to reference the parent, and everything else stays as
it is. So the references between places change in one place: what the child referenced before is
forgotten, and it references the parent now, and whatever else has the names of the parent.
-/

namespace SchemaGraph

variable {α : Type} {tables : List (Table α)}

section Changed

variable {g : Place → Column → Column} (ids : ∀ p c, (g p c).id = c.id)

include ids

theorem Table.Distinct.mapColumns (h : Distinct tables) (names : ∀ p c, (g p c).name = c.name) :
    Distinct (tables.map (Table.mapColumns g)) where
  tableIds := by
    rw [List.map_map]
    exact h.tableIds
  tableNames := by
    rw [List.map_map]
    exact h.tableNames
  columnIds := by
    refine List.forall_mem_map.mpr fun t ht => ?_
    simpa only [Table.mapColumns, List.map_map, Function.comp_def, ids] using h.columnIds t ht
  columnNames := by
    refine List.forall_mem_map.mpr fun t ht => ?_
    simpa only [Table.mapColumns, List.map_map, Function.comp_def, names] using h.columnNames t ht

theorem Table.HavePlainIds.mapColumns (h : HavePlainIds tables) :
    HavePlainIds (tables.map (Table.mapColumns g)) := by
  refine List.forall_mem_map.mpr fun t ht => List.forall_mem_map.mpr fun c hc => ?_
  rw [ids]
  exact h t ht c hc

end Changed

/-- The names in a reference are those of the table and the column at a place, up to case. -/
def ColumnReference.Names (ref : ColumnReference) (tables : List (Table α)) (q : Place) : Prop :=
  ∃ u d, q.Holds tables u d ∧ Text.lower ref.table = Text.lower u.name ∧
    Text.lower ref.column = Text.lower d.name

namespace Resolved

variable {k : Resolved} {p q : Place}

/-- The reference that a resolved edge writes onto its child. -/
def written (k : Resolved) : ColumnReference := ⟨k.parentTable, k.parentColumn⟩

/-- The column at a place as a resolved edge leaves it. -/
def markAt (k : Resolved) (p : Place) (c : Column) : Column :=
  if p = k.child.place then
    { c with isForeignKey := true, references := some ⟨k.parentTable, k.parentColumn⟩ }
  else c

@[simp] theorem markAt_id (k : Resolved) (p : Place) (c : Column) : (k.markAt p c).id = c.id := by
  unfold markAt
  split <;> rfl

@[simp] theorem markAt_name (k : Resolved) (p : Place) (c : Column) :
    (k.markAt p c).name = c.name := by
  unfold markAt
  split <;> rfl

@[simp] theorem markAt_isPrimaryKey (k : Resolved) (p : Place) (c : Column) :
    (k.markAt p c).isPrimaryKey = c.isPrimaryKey := by
  unfold markAt
  split <;> rfl

theorem markAt_child (k : Resolved) (c : Column) :
    k.markAt k.child.place c = { c with isForeignKey := true, references := some k.written } :=
  if_pos rfl

theorem markAt_of_ne (other : p ≠ k.child.place) (c : Column) : k.markAt p c = c := if_neg other

theorem mark_eq_map (k : Resolved) (tables : List (Table α)) :
    k.mark tables = tables.map (Table.mapColumns k.markAt) := by
  refine List.map_congr_left fun t _ => ?_
  unfold Table.mapColumns markAt
  by_cases here : t.id = k.childTableId
  · simp [here, markColumn, child, End.place, Place.mk.injEq]
  · simp [here, child, End.place, Place.mk.injEq]

theorem distinct_mark (h : Table.Distinct tables) (k : Resolved) :
    Table.Distinct (k.mark tables) := by
  rw [mark_eq_map]
  exact h.mapColumns k.markAt_id k.markAt_name

theorem havePlainIds_mark (h : Table.HavePlainIds tables) (k : Resolved) :
    Table.HavePlainIds (k.mark tables) := by
  rw [mark_eq_map]
  exact h.mapColumns k.markAt_id

theorem holds_mark_iff {t' : Table α} {c' : Column} :
    p.Holds (k.mark tables) t' c' ↔
      ∃ t c, p.Holds tables t c ∧ t.mapColumns k.markAt = t' ∧ k.markAt p c = c' := by
  rw [mark_eq_map]
  exact Place.holds_map_iff (Table.mapColumns_id _) (fun _ => rfl) k.markAt_id

theorem pointsAt_markAt (k : Resolved) (q : Place) (c d : Column) (table : Option String) :
    c.pointsAt table (k.markAt q d) = c.pointsAt table d := by
  simp only [Column.pointsAt, markAt_name]

theorem names_written_parent (parent : k.parent.IsIn tables) :
    k.written.Names tables k.parent.place := by
  obtain ⟨u, d, hq, table, column⟩ := parent.holds
  exact ⟨u, d, hq, by rw [table]; rfl, by rw [column]; rfl⟩

/-- Where names tell columns apart, what is written names the parent only. -/
theorem names_written_iff (distinct : Table.Distinct tables) (parent : k.parent.IsIn tables) :
    k.written.Names tables q ↔ q = k.parent.place := by
  refine ⟨?_, by rintro rfl; exact names_written_parent parent⟩
  rintro ⟨v, e, there, sameTable, sameColumn⟩
  obtain ⟨u, d, hq, table, column⟩ := parent.holds
  obtain ⟨rfl, rfl⟩ := distinct.eq_of_names there.mem.1 there.mem.2 hq.mem.1 hq.mem.2
    (by rw [table]; exact sameTable.symm) (by rw [column]; exact sameColumn.symm)
  exact there.eq.symm.trans hq.eq

/-- The child references what the reference names that was written onto it. -/
theorem refersTo_mark_child_iff (child : k.child.IsIn tables) :
    RefersTo (k.mark tables) k.child.place q ↔ k.written.Names tables q := by
  constructor
  · rintro ⟨t', c', u', d', hp', hq', points⟩
    obtain ⟨t, c, -, rfl, rfl⟩ := holds_mark_iff.mp hp'
    obtain ⟨u, d, hq, rfl, rfl⟩ := holds_mark_iff.mp hq'
    rw [pointsAt_markAt, Table.mapColumns_name, markAt_child, Column.pointsAt_iff] at points
    obtain ⟨ref, href, sameTable, sameColumn⟩ := points
    cases href
    exact ⟨u, d, hq, sameTable, sameColumn⟩
  · rintro ⟨u, d, hq, sameTable, sameColumn⟩
    obtain ⟨t, c, hp, -, -⟩ := child.holds
    refine ⟨_, _, _, _, holds_mark_iff.mpr ⟨t, c, hp, rfl, rfl⟩,
      holds_mark_iff.mpr ⟨u, d, hq, rfl, rfl⟩, ?_⟩
    rw [pointsAt_markAt, Table.mapColumns_name, markAt_child, Column.pointsAt_iff]
    exact ⟨_, rfl, sameTable, sameColumn⟩

/-- All other columns reference what they did. -/
theorem refersTo_mark_iff_of_ne (other : p ≠ k.child.place) :
    RefersTo (k.mark tables) p q ↔ RefersTo tables p q := by
  constructor
  · rintro ⟨t', c', u', d', hp', hq', points⟩
    obtain ⟨t, c, hp, rfl, rfl⟩ := holds_mark_iff.mp hp'
    obtain ⟨u, d, hq, rfl, rfl⟩ := holds_mark_iff.mp hq'
    rw [pointsAt_markAt, Table.mapColumns_name, markAt_of_ne other] at points
    exact ⟨t, c, u, d, hp, hq, points⟩
  · rintro ⟨t, c, u, d, hp, hq, points⟩
    refine ⟨_, _, _, _, holds_mark_iff.mpr ⟨t, c, hp, rfl, rfl⟩,
      holds_mark_iff.mpr ⟨u, d, hq, rfl, rfl⟩, ?_⟩
    rw [pointsAt_markAt, Table.mapColumns_name, markAt_of_ne other]
    exact points

/-- The child references the parent and nothing else; all other references are those before. -/
theorem refersTo_mark_iff (distinct : Table.Distinct tables) (child : k.child.IsIn tables)
    (parent : k.parent.IsIn tables) :
    RefersTo (k.mark tables) p q ↔
      (p = k.child.place ∧ q = k.parent.place) ∨ (p ≠ k.child.place ∧ RefersTo tables p q) := by
  by_cases here : p = k.child.place
  · subst here
    rw [refersTo_mark_child_iff child, names_written_iff distinct parent]
    simp
  · rw [refersTo_mark_iff_of_ne here]
    simp [here]

end Resolved

end SchemaGraph
