import Mathlib.Data.List.Nodup
import SchemaGraph.Editing.Table
import SchemaGraph.Proofs.Partial
import SchemaGraph.Relationship

/-!
# The outline of a schema

An edge names its ends by ids, so whether it dangles depends on no more than the ids of the tables
and, for each table, the ids of its columns. This is the outline of a schema. Most edits keep it,
and the others change it in one place.

Looking up a table takes the first one with an id, and looking up the end of an edge the last one.
With distinct ids there is only one to take.
-/

namespace SchemaGraph

namespace Table

variable {α : Type}

/-- The id of a table with those of its columns. -/
def outline (t : Table α) : String × List String := (t.id, t.columns.map (·.id))

theorem column?_isSome_iff {t : Table α} {id : String} :
    (t.column? id).isSome = true ↔ id ∈ t.columns.map (·.id) := by
  simp [column?, List.find?_isSome]

theorem mem_of_column? {t : Table α} {id : String} {c : Column} (h : t.column? id = some c) :
    c ∈ t.columns :=
  List.mem_of_find?_eq_some h

theorem id_of_column? {t : Table α} {id : String} {c : Column} (h : t.column? id = some c) :
    c.id = id := by
  have found := List.find?_some h
  simpa using found

theorem mem_of_ofId? {tables : List (Table α)} {id : String} {t : Table α}
    (h : ofId? tables id = some t) : t ∈ tables :=
  List.mem_reverse.mp (List.mem_of_find?_eq_some h)

theorem id_of_ofId? {tables : List (Table α)} {id : String} {t : Table α}
    (h : ofId? tables id = some t) : t.id = id := by
  have found := List.find?_some h
  simpa using found

theorem ofId?_isSome_iff {tables : List (Table α)} {id : String} :
    (ofId? tables id).isSome = true ↔ id ∈ tables.map (·.id) := by
  simp [ofId?, List.find?_isSome]

/-- With distinct ids, a table is found under its id from either end. -/
theorem ofId?_eq_some_of_mem {tables : List (Table α)} (distinct : (tables.map (·.id)).Nodup)
    {t : Table α} (h : t ∈ tables) : ofId? tables t.id = some t :=
  find?_reverse_eq_some_of_mem distinct h

/-- A table that was moved is the same table elsewhere. -/
def IsMoved (t t' : Table α) : Prop := ∃ position, t' = { t with position }

theorem IsMoved.outline_eq {t t' : Table α} (h : t.IsMoved t') :
    t'.outline = t.outline := by
  obtain ⟨position, rfl⟩ := h
  rfl

end Table

namespace Resolved

variable {α : Type}

/-- Writing a resolved edge changes flags and references of columns only. -/
theorem outline_mark (r : Resolved) (tables : List (Table α)) :
    (r.mark tables).map Table.outline = tables.map Table.outline := by
  rw [mark, List.map_map]
  refine List.map_congr_left fun t _ => ?_
  simp only [Function.comp_apply]
  split
  · simp [Table.outline, Function.comp_def]
  · rfl

end Resolved

theorem Relationship.outline_markAll {α : Type} (tables : List (Table α))
    (rs : List Relationship) :
    (markAll tables rs).map Table.outline = tables.map Table.outline := by
  unfold markAll
  induction rs generalizing tables with
  | nil => rfl
  | cons r rs ih =>
      rw [List.foldl_cons, ih]
      split
      · exact Resolved.outline_mark _ _
      · rfl

namespace State

variable {α : Type} {s s' : State α} {id table column : String} {t t' : Table α}

theorem mem_of_table? (h : s.table? id = some t) : t ∈ s.tables :=
  List.mem_of_find?_eq_some h

theorem id_of_table? (h : s.table? id = some t) : t.id = id := by
  have found := List.find?_some h
  simpa using found

theorem table?_isSome_iff : (s.table? id).isSome = true ↔ id ∈ s.tables.map (·.id) := by
  simp [table?, List.find?_isSome]

theorem ofId?_eq_table? (distinct : (s.tables.map (·.id)).Nodup) (id : String) :
    Table.ofId? s.tables id = s.table? id := by
  cases h : s.table? id with
  | some t =>
      rw [← id_of_table? h]
      exact Table.ofId?_eq_some_of_mem distinct (mem_of_table? h)
  | none =>
      have absent : ¬ (s.table? id).isSome = true := by simp [h]
      rw [table?_isSome_iff, ← Table.ofId?_isSome_iff] at absent
      simpa using absent

/-- A table with an id, and a column with an id in that table. -/
def HasColumn (s : State α) (table column : String) : Prop :=
  ∃ t, s.table? table = some t ∧ (t.column? column).isSome = true

/-- Every relationship ends at columns that are there. -/
def NoneDangles (s : State α) : Prop :=
  ∀ r ∈ s.relationships, s.HasColumn r.source r.sourceColumn ∧ s.HasColumn r.target r.targetColumn

theorem hasColumn_iff_of_table? (h : s.table? table = some t) :
    s.HasColumn table column ↔ column ∈ t.columns.map (·.id) := by
  simp [HasColumn, h, Table.column?_isSome_iff]

theorem hasColumn_iff_outline :
    s.HasColumn table column ↔
      ∃ o, (s.tables.map Table.outline).find? (·.1 == table) = some o ∧ column ∈ o.2 := by
  simp only [HasColumn, table?, Table.column?_isSome_iff, List.find?_map, Option.map_eq_some_iff]
  constructor
  · rintro ⟨t, ht, hc⟩
    exact ⟨t.outline, ⟨t, ht, rfl⟩, hc⟩
  · rintro ⟨_, ⟨t, ht, rfl⟩, hc⟩
    exact ⟨t, ht, hc⟩

/-- Which columns there are depends on the outline alone. -/
theorem hasColumn_congr (h : s'.tables.map Table.outline = s.tables.map Table.outline) :
    s'.HasColumn table column ↔ s.HasColumn table column := by
  rw [hasColumn_iff_outline, hasColumn_iff_outline, h]

theorem map_id_of_outline (h : s'.tables.map Table.outline = s.tables.map Table.outline) :
    s'.tables.map (·.id) = s.tables.map (·.id) := by
  have first := congrArg (List.map Prod.fst) h
  simpa [Table.outline, Function.comp_def] using first

/-- A table is replaced where it was found, and nothing else is. -/
theorem replaceTable_split (h : s.table? id = some t) (t' : Table α) :
    ∃ before after, s.tables = before ++ t :: after ∧ (∀ u ∈ before, u.id ≠ id) ∧
      s.replaceTable id t' = { s with tables := before ++ t' :: after } := by
  obtain ⟨hid, before, after, split, earlier⟩ := List.find?_eq_some_iff_append.mp h
  have others : ∀ u ∈ before, u.id ≠ id := fun u hu => by simpa using earlier u hu
  have index : s.tableIndex? id = some before.length := by
    have absent : before.findIdx? (·.id == id) = none := by
      rw [List.findIdx?_eq_none_iff]
      intro u hu
      simpa using others u hu
    have here : (t.id == id) = true := hid
    simp [tableIndex?, split, List.findIdx?_append, absent, List.findIdx?_cons, here]
  refine ⟨before, after, split, others, ?_⟩
  simp [replaceTable, index, split]

theorem mem_replaceTable (h : s.table? id = some t) {u : Table α}
    (hu : u ∈ (s.replaceTable id t').tables) : u = t' ∨ u ∈ s.tables := by
  obtain ⟨before, after, split, -, replaced⟩ := replaceTable_split h t'
  rw [replaced] at hu
  rcases List.mem_append.mp hu with hu | hu
  · exact .inr (by simp [split, hu])
  · rcases List.mem_cons.mp hu with rfl | hu
    · exact .inl rfl
    · exact .inr (by simp [split, hu])

/-- Without repeated ids, a table is replaced wherever it is. -/
theorem replaceTable_eq_map (distinct : (s.tables.map (·.id)).Nodup) (h : s.table? id = some t)
    {f : Table α → Table α} (elsewhere : ∀ u : Table α, u.id ≠ id → f u = u) :
    s.replaceTable id (f t) = { s with tables := s.tables.map f } := by
  obtain ⟨before, after, split, earlier, replaced⟩ := replaceTable_split h (f t)
  rw [split, List.map_append, List.map_cons, List.nodup_append, List.nodup_cons] at distinct
  have later : ∀ u ∈ after, u.id ≠ id := by
    intro u hu same
    rw [← id_of_table? h] at same
    exact distinct.2.1.1 (same ▸ List.mem_map_of_mem hu)
  have keep : ∀ us : List (Table α), (∀ u ∈ us, u.id ≠ id) → us.map f = us := by
    intro us others
    conv_rhs => rw [← List.map_id us]
    exact List.map_congr_left fun u hu => elsewhere u (others u hu)
  rw [replaced, split, List.map_append, List.map_cons, keep before earlier, keep after later]

/-- Looking a table up after one was replaced by another one with its id. -/
theorem table?_replaceTable (h : s.table? id = some t) (same : t'.id = t.id) (other : String) :
    (s.replaceTable id t').table? other = if other = id then some t' else s.table? other := by
  obtain ⟨before, after, split, others, replaced⟩ := replaceTable_split h t'
  have found : t.id = id := id_of_table? h
  simp only [table?, replaced, split, List.find?_append, List.find?_cons, same, found]
  by_cases ho : other = id
  · subst ho
    have absent : before.find? (·.id == other) = none := by
      rw [List.find?_eq_none]
      intro u hu
      simpa using others u hu
    simp [absent]
  · have different : (id == other) = false := by simpa using Ne.symm ho
    simp [ho, different]

theorem ids_replaceTable (h : s.table? id = some t) (same : t'.id = t.id) :
    (s.replaceTable id t').tables.map (·.id) = s.tables.map (·.id) :=
  map_id_replaceTable s (same.trans (id_of_table? h))

theorem hasColumn_replaceTable (h : s.table? id = some t) (same : t'.id = t.id) :
    (s.replaceTable id t').HasColumn table column ↔
      if table = id then column ∈ t'.columns.map (·.id) else s.HasColumn table column := by
  simp only [HasColumn, table?_replaceTable h same, ← Table.column?_isSome_iff]
  by_cases ht : table = id <;> simp [ht]

/-- Looking a table up after those with an id were taken out. -/
theorem table?_without (s : State α) (gone : String) :
    ({ s with tables := s.tables.filter (·.id != gone) } : State α).table? id =
      if id = gone then none else s.table? id := by
  simp only [table?, List.find?_filter]
  split
  · rename_i same
    subst same
    rw [List.find?_eq_none]
    intro u _
    simp
  · rename_i other
    congr 1
    funext u
    by_cases here : u.id = id <;> simp [here, other]

/-- Without the tables with an id, the columns of all other tables are there. -/
theorem hasColumn_without_table (s : State α) (gone : String) :
    ({ s with tables := s.tables.filter (·.id != gone) } : State α).HasColumn table column ↔
      table ≠ gone ∧ s.HasColumn table column := by
  simp only [HasColumn, table?_without]
  by_cases same : table = gone <;> simp [same]

/-- Without the columns with an id in one table, all other columns are there. -/
theorem hasColumn_without_column (h : s.table? id = some t) (gone : String) :
    (s.replaceTable id { t with columns := t.columns.filter (·.id != gone) }).HasColumn
        table column ↔ ¬ (table = id ∧ column = gone) ∧ s.HasColumn table column := by
  rw [hasColumn_replaceTable h (by rfl)]
  by_cases same : table = id
  · subst same
    rw [if_pos rfl, hasColumn_iff_of_table? h]
    constructor
    · intro left
      obtain ⟨c, hc, rfl⟩ := List.mem_map.mp left
      obtain ⟨hc, other⟩ := List.mem_filter.mp hc
      exact ⟨fun both => bne_iff_ne.mp other both.2, List.mem_map_of_mem hc⟩
    · rintro ⟨apart, has⟩
      obtain ⟨c, hc, rfl⟩ := List.mem_map.mp has
      have other : (c.id != gone) = true := bne_iff_ne.mpr fun here => apart ⟨rfl, here⟩
      exact List.mem_map_of_mem (List.mem_filter.mpr ⟨hc, other⟩)
  · simp [same]

/-- Replacing a table by one with the same outline keeps the outline of the schema. -/
theorem outline_replaceTable (h : s.table? id = some t) (same : t'.outline = t.outline) :
    (s.replaceTable id t').tables.map Table.outline = s.tables.map Table.outline := by
  obtain ⟨before, after, split, -, replaced⟩ := replaceTable_split h t'
  rw [replaced, split, List.map_append, List.map_append, List.map_cons, List.map_cons, same]

@[simp] theorem replaceTable_relationships (s : State α) (id : String) (t' : Table α) :
    (s.replaceTable id t').relationships = s.relationships := by
  unfold replaceTable
  split <;> rfl

@[simp] theorem replaceTable_dialect (s : State α) (id : String) (t' : Table α) :
    (s.replaceTable id t').dialect = s.dialect := by
  unfold replaceTable
  split <;> rfl

end State

/-- Without repeated ids, edges are anchored exactly when their columns are there. -/
theorem Relationship.isAnchored_iff {α : Type} {s : State α}
    (distinct : (s.tables.map (·.id)).Nodup) {r : Relationship} :
    isAnchored s.tables r = true ↔
      s.HasColumn r.source r.sourceColumn ∧ s.HasColumn r.target r.targetColumn := by
  simp only [isAnchored, State.ofId?_eq_table? distinct, State.HasColumn]
  cases s.table? r.source <;> cases s.table? r.target <;> simp

end SchemaGraph
