import SchemaGraph.Proofs.Editing.Typed

/-!
# What updates leave alone

An update of a table puts one table in the place of another, and one of a column puts one column in
the place of another. The fields that were not sent stay, and so does everything around the table
or the column. As the whole record goes through normal form, references to blank tables are
dropped from it, and this is all that an update does beyond what was sent.
-/

namespace SchemaGraph

open Decode

variable {α : Type}

/-- A schema becomes another one by what happens to the first table with an id. -/
def State.ChangesTable (s : State α) (id : String) (change : Table α → Table α → Prop)
    (s' : State α) : Prop :=
  ∃ before t t' after, s.tables = before ++ t :: after ∧ t.id = id ∧ (∀ u ∈ before, u.id ≠ id) ∧
    s' = { s with tables := before ++ t' :: after } ∧ change t t'

/-- A table becomes another one by what happens to columns with an id. What happens to the first one
is given, and if there are more of them, anything may happen to those. -/
def Table.ChangesColumn (id : String) (change : Column → Column → Prop) (t t' : Table α) : Prop :=
  ∃ before c c' after after', t.columns = before ++ c :: after ∧ c.id = id ∧
    (∀ d ∈ before, d.id ≠ id) ∧ List.Forall₂ (fun d d' => d.id ≠ id → d' = d) after after' ∧
    t' = { t with columns := before ++ c' :: after' } ∧ change c c'

/-- What was not sent is left alone. -/
structure TableForm.Leaves (form : TableForm) (t t' : Table Float) : Prop where
  id : t'.id = t.id
  name : form.name = none → t'.name = t.name
  position : form.position = none → t'.position = t.position
  color : form.color = none → t'.color = t.color
  description : form.description = none → t'.description = t.description
  columns : t'.columns = t.columns.map Column.withoutBlankReference

/-- What was not sent is left alone. -/
structure ColumnForm.Leaves (form : ColumnForm) (c c' : Column) : Prop where
  id : c'.id = c.id
  name : form.name = none → c'.name = c.name
  dataType : form.dataType = none → c'.dataType = c.dataType
  isPrimaryKey : form.isPrimaryKey = none → c'.isPrimaryKey = c.isPrimaryKey
  isForeignKey : form.isForeignKey = none → c'.isForeignKey = c.isForeignKey
  isNullable : form.isNullable = none → c'.isNullable = c.isNullable
  references : form.references = none → c'.references = c.withoutBlankReference.references

theorem State.changesTable_replaceTable {s : State α} {id : String} {t t' : Table α}
    {change : Table α → Table α → Prop} (found : s.table? id = some t) (h : change t t') :
    s.ChangesTable id change (s.replaceTable id t') := by
  obtain ⟨before, after, split, others, replaced⟩ := replaceTable_split found t'
  exact ⟨before, t, t', after, split, id_of_table? found, others, replaced, h⟩

theorem Table.changesColumn_map {t : Table α} {id : String} {c c' : Column}
    {change : Column → Column → Prop} (found : t.column? id = some c) (h : change c c') :
    t.ChangesColumn id change
      { t with columns := t.columns.map fun d => if d.id == id then c' else d } := by
  obtain ⟨here, before, after, split, earlier⟩ := List.find?_eq_some_iff_append.mp found
  have others : ∀ d ∈ before, d.id ≠ id := fun d hd => by simpa using earlier d hd
  have kept : (before.map fun d => if d.id == id then c' else d) = before := by
    refine (List.map_congr_left fun d hd => ?_).trans (List.map_id before)
    exact if_neg (by simpa using others d hd)
  -- Behind the first column, those with its id are replaced too.
  refine ⟨before, c, c', after, after.map fun d => if d.id == id then c' else d, split,
    id_of_column? found, others, ?_, ?_, h⟩
  · refine List.forall₂_map_right_iff.mpr (List.forall₂_same.mpr fun d _ other => ?_)
    exact if_neg (by simpa using other)
  · rw [split, List.map_append, List.map_cons, kept, if_pos here]

/-- Normal form drops references to blank tables and nothing else. -/
theorem Table.IsTyped.normal_columns {t : Table α} (h : t.IsTyped) :
    t.normal.columns = t.columns.map Column.withoutBlankReference :=
  List.map_congr_left fun c hc => Column.normal_of_typed (h c hc)

theorem TableForm.leaves_apply {form : TableForm} {c : TableChange Float} {t : Table Float}
    (typed : t.IsTyped) (valid : form.change = .valid c) : form.Leaves t (c.apply t) := by
  obtain ⟨position, sent, rfl⟩ := Checked.fmap_eq_valid_iff.mp valid
  refine ⟨rfl, fun h => ?_, fun h => ?_, fun h => ?_, fun h => ?_, typed.normal_columns⟩
  · simp [TableChange.apply, h]
  · simp [TableChange.apply, eq_none_of_ifSent sent h]
  · simp [TableChange.apply, h]
  · simp [TableChange.apply, h]

theorem ColumnForm.leaves_apply {form : ColumnForm} {change : ColumnChange} {c : Column}
    (typed : c.IsTyped) (valid : form.change = .valid change) :
    form.Leaves c (change.apply c) := by
  simp only [ColumnForm.change, Checked.seq_eq_valid_iff, Checked.fmap_eq_valid_iff] at valid
  obtain ⟨_, nullable, ⟨_, foreign, ⟨primary, sentPrimary, rfl⟩, sentForeign, rfl⟩, sentNullable,
    rfl⟩ := valid
  have normal := Column.normal_of_typed typed
  refine ⟨rfl, fun h => ?_, fun h => ?_, fun h => ?_, fun h => ?_, fun h => ?_, fun h => ?_⟩
  · simp [ColumnChange.apply, h]
  · simp [ColumnChange.apply, h, normal, Column.withoutBlankReference]
  · simp [ColumnChange.apply, eq_none_of_ifSent sentPrimary h, Column.normal]
  · simp [ColumnChange.apply, eq_none_of_ifSent sentForeign h, Column.normal]
  · simp [ColumnChange.apply, eq_none_of_ifSent sentNullable h, Column.normal]
  · simp [ColumnChange.apply, h, normal]

namespace Editing

variable {s s' : State Float}

theorem updateTable_leaves {id : String} {form : TableForm} (typed : s.IsTyped)
    (h : updateTable id form.change s = .ok s') : s.ChangesTable id form.Leaves s' := by
  obtain ⟨t, c, found, valid, rfl⟩ := updateTable_ok h
  exact State.changesTable_replaceTable found (form.leaves_apply (typed.table found) valid)

theorem updateColumn_leaves {table column : String} {form : ColumnForm} (typed : s.IsTyped)
    (h : updateColumn table column form.change s = .ok s') :
    s.ChangesTable table (Table.ChangesColumn column form.Leaves) s' := by
  obtain ⟨t, old, c, found, listed, valid, rfl⟩ := updateColumn_ok h
  have oldTyped : old.IsTyped := typed.table found old (Table.mem_of_column? listed)
  exact State.changesTable_replaceTable found
    (Table.changesColumn_map listed (form.leaves_apply oldTyped valid))

end Editing
end SchemaGraph
