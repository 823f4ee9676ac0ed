import SchemaGraph.Proofs.Editing.Effect
import SchemaGraph.Session

/-!
# Columns have a type

Every edit stores columns with a type and leaves the types of the others alone, or puts them into
normal form, which gives a type to those that lack one. So columns that have a type keep having one.
The same cannot be said of references: connecting columns stores a reference to a table as it is
named, and tables may have blank names.
-/

namespace SchemaGraph

open Decode

variable {α : Type}

def Column.IsTyped (c : Column) : Prop := Text.allBlank c.dataType = false

def Table.IsTyped (t : Table α) : Prop := ∀ c ∈ t.columns, c.IsTyped

/-- All columns of all tables have a type. -/
def State.IsTyped (s : State α) : Prop := ∀ t ∈ s.tables, t.IsTyped

theorem Table.IsTyped.normal (t : Table α) : t.normal.IsTyped := by
  refine List.forall_mem_map.mpr fun c _ => ?_
  exact c.normal_isStored.typed

namespace State.IsTyped

variable {s s' : State α} {id : String} {t t' : Table α}

theorem table (h : s.IsTyped) (found : s.table? id = some t) : t.IsTyped :=
  h t (mem_of_table? found)

theorem replaceTable (h : s.IsTyped) (found : s.table? id = some t) (typed : t'.IsTyped) :
    (s.replaceTable id t').IsTyped := by
  intro u hu
  rcases mem_replaceTable found hu with rfl | hu
  · exact typed
  · exact h u hu

end State.IsTyped

namespace Resolved

theorem isTyped_markColumn (r : Resolved) {c : Column} (h : c.IsTyped) :
    (r.markColumn c).IsTyped := by
  unfold markColumn
  split <;> exact h

theorem isTyped_mark (r : Resolved) {tables : List (Table α)} (h : ∀ t ∈ tables, t.IsTyped) :
    ∀ t ∈ r.mark tables, t.IsTyped := by
  refine List.forall_mem_map.mpr fun t ht => ?_
  split
  · exact List.forall_mem_map.mpr fun c hc => r.isTyped_markColumn (h t ht c hc)
  · exact h t ht

end Resolved

theorem Relationship.isTyped_markAll (rs : List Relationship) {tables : List (Table α)}
    (h : ∀ t ∈ tables, t.IsTyped) : ∀ t ∈ markAll tables rs, t.IsTyped := by
  unfold markAll
  induction rs generalizing tables with
  | nil => exact h
  | cons r rs ih =>
      rw [List.foldl_cons]
      refine ih ?_
      split
      · exact Resolved.isTyped_mark _ h
      · exact h

/-- What was not sent is not changed. -/
theorem eq_none_of_ifSent {β γ : Type} {check : β → Checked γ} {v : Option β} {a : Option γ}
    (h : ifSent check v = .valid a) (absent : v = none) : a = none := by
  rw [absent] at h
  exact (Checked.valid.inj h).symm

theorem ColumnForm.change_isStored {form : ColumnForm} {c : ColumnChange}
    (h : form.change = .valid c) : c.IsStored := by
  simp only [change, Checked.seq_eq_valid_iff, Checked.fmap_eq_valid_iff] at h
  obtain ⟨_, _, ⟨_, _, ⟨_, _, rfl⟩, _, rfl⟩, _, rfl⟩ := h
  refine ⟨fun s hs => ?_, fun r hr => ?_⟩
  · obtain ⟨_, -, rfl⟩ := Option.map_eq_some_iff.mp hs
    exact DataType.allBlank_store _ DataType.allBlank_fallback
  · obtain ⟨_, -, kept⟩ := Option.map_eq_some_iff.mp hr
    exact Column.named_of_keptReference kept

namespace Editing

variable {s s' : State α}

theorem addTable_isTyped (settings : Config.Settings) (d : TableDraft) {s : State Float}
    (h : s.IsTyped) : (addTable settings d s).Ensures State.IsTyped := by
  refine (addTable_ensures settings d s).mono ?_
  rintro _ ⟨t, new, rfl⟩ u hu
  rcases List.mem_append.mp hu with hu | hu
  · exact h u hu
  · rw [List.mem_singleton.mp hu]
    exact fun c hc => (new.stored c hc).typed

theorem updateTable_isTyped {id : String} {change : Checked (TableChange α)} (h : s.IsTyped)
    (hu : updateTable id change s = .ok s') : s'.IsTyped := by
  obtain ⟨t, c, ht, -, rfl⟩ := updateTable_ok hu
  exact h.replaceTable ht (Table.IsTyped.normal t)

theorem removeTable_isTyped {id : String} (h : s.IsTyped) (hr : removeTable id s = .ok s') :
    s'.IsTyped := by
  obtain ⟨-, rfl⟩ := removeTable_ok hr
  exact fun t ht => h t (List.mem_filter.mp ht).1

theorem addColumn_isTyped (settings : Config.Settings) (table : String) (d : ColumnDraft)
    (h : s.IsTyped) : (addColumn settings table d s).Ensures State.IsTyped := by
  refine (addColumn_ensures settings table d s).mono ?_
  rintro _ ⟨t, c, ht, new, rfl⟩
  refine h.replaceTable ht fun d hd => ?_
  rcases List.mem_append.mp hd with hd | hd
  · exact h.table ht d hd
  · rw [List.mem_singleton.mp hd]
    exact new.stored.typed

theorem updateColumn_isTyped {table column : String} {form : ColumnForm} (h : s.IsTyped)
    (hu : updateColumn table column form.change s = .ok s') : s'.IsTyped := by
  obtain ⟨t, old, c, ht, -, hc, rfl⟩ := updateColumn_ok hu
  refine h.replaceTable ht (List.forall_mem_map.mpr fun d hd => ?_)
  split
  · exact ((form.change_isStored hc).apply old).typed
  · exact h.table ht d hd

theorem removeColumn_isTyped {table column : String} (h : s.IsTyped)
    (hr : removeColumn table column s = .ok s') : s'.IsTyped := by
  obtain ⟨t, ht, -, rfl⟩ := removeColumn_ok hr
  exact h.replaceTable ht fun c hc => h.table ht c (List.mem_filter.mp hc).1

theorem connectColumns_isTyped (d : RelationshipDraft) (h : s.IsTyped) :
    (connectColumns d s).Ensures State.IsTyped := by
  refine (connectColumns_ensures d s).mono ?_
  rintro _ ⟨r, -, -, -, rfl⟩
  exact Relationship.isTyped_markAll [r] h

theorem autoLayout_isTyped [Scalar α] {settings : Except Failure (Layout.Settings α)}
    (h : s.IsTyped) (ha : autoLayout settings s = .ok s') : s'.IsTyped := by
  obtain ⟨tables, rfl, moved⟩ := autoLayout_ok ha
  intro t' ht'
  obtain ⟨t, ht, position, rfl⟩ := exists_of_mem_left moved.flip ht'
  exact h t ht

end Editing

namespace Command

open Editing

/-- Every kind of command keeps the types of columns given. -/
theorem apply_isTyped (settings : Config.Settings) (c : Command) (s : State Float)
    (h : s.IsTyped) : (c.apply settings s).Ensures State.IsTyped := by
  cases c with
  | addTable form => exact addTable_isTyped settings form.draft h
  | renameTable table name => exact Edit.Ensures.lift fun _ hu => updateTable_isTyped h hu
  | updateTable table form => exact Edit.Ensures.lift fun _ hu => updateTable_isTyped h hu
  | removeTable table => exact Edit.Ensures.lift fun _ hr => removeTable_isTyped h hr
  | addColumn table form => exact addColumn_isTyped settings table form.draft h
  | updateColumn table column form =>
      exact Edit.Ensures.lift fun _ hu => updateColumn_isTyped h hu
  | removeColumn table column => exact Edit.Ensures.lift fun _ hr => removeColumn_isTyped h hr
  | addRelationship form =>
      refine (addRelationship_ensures form.draft s).mono ?_
      rintro _ ⟨r, -, -, -, rfl⟩
      exact h
  | connectColumns form => exact connectColumns_isTyped form.draft h
  | updateRelationship relationship form =>
      refine Edit.Ensures.lift fun _ hu => ?_
      obtain ⟨_, _, _, _, _, _, rfl⟩ := updateRelationship_ok hu
      exact h
  | removeRelationship relationship =>
      refine Edit.Ensures.lift fun _ hr => ?_
      obtain ⟨-, rfl⟩ := removeRelationship_ok hr
      exact h
  | setDialect dialect => exact Edit.Ensures.pure h
  | autoLayout => exact Edit.Ensures.lift fun _ ha => autoLayout_isTyped h ha

end Command
end SchemaGraph
