import SchemaGraph.Editing.Load
import SchemaGraph.Editing.Relationship
import SchemaGraph.Proofs.Decode.Valid
import SchemaGraph.Proofs.Editing.Ensures
import SchemaGraph.Proofs.Partial
import SchemaGraph.Proofs.Schema.Outline
import SchemaGraph.Proofs.Schema.Stored

/-!
# What each edit does

One statement for each edit says all that its success tells: what was found beforehand, and which
schema comes out. Properties of edits are read off these statements, and no other proof opens the
definition of an edit.
-/

namespace SchemaGraph

open Decode

variable {α : Type}

namespace State

variable {s : State α} {operation id : String}

theorem requireTable_eq_ok_iff {t : Table α} :
    s.requireTable operation id = .ok t ↔ s.table? id = some t := by
  unfold requireTable
  cases s.table? id <;> simp [refuse]

theorem requireRelationship_eq_ok_iff {r : Relationship} :
    s.requireRelationship operation id = .ok r ↔ s.relationship? id = some r := by
  unfold requireRelationship
  cases s.relationship? id <;> simp [refuse]

theorem id_of_relationship? {r : Relationship} (h : s.relationship? id = some r) : r.id = id := by
  have found := List.find?_some h
  simpa using found

theorem relationship?_isSome_iff :
    (s.relationship? id).isSome = true ↔ id ∈ s.relationships.map (·.id) := by
  simp [relationship?, List.find?_isSome]

end State

theorem Table.requireColumn_eq_ok_iff {t : Table α} {operation id : String} {c : Column} :
    t.requireColumn operation id = .ok c ↔ t.column? id = some c := by
  unfold requireColumn
  cases t.column? id <;> simp [refuse]

/-- The ends of an edge are accepted when both columns are there. -/
theorem State.hasColumn_of_requireEnds {s : State α} {operation : String} {r : Relationship}
    (h : s.requireEnds operation r = .ok ()) :
    s.HasColumn r.source r.sourceColumn ∧ s.HasColumn r.target r.targetColumn := by
  obtain ⟨source, hsource, h⟩ := bind_ok h
  obtain ⟨target, htarget, h⟩ := bind_ok h
  obtain ⟨c, hc, h⟩ := bind_ok h
  obtain ⟨d, hd, -⟩ := bind_ok h
  rw [requireTable_eq_ok_iff] at hsource htarget
  rw [Table.requireColumn_eq_ok_iff] at hc hd
  exact ⟨⟨source, hsource, by rw [hc]; rfl⟩, ⟨target, htarget, by rw [hd]; rfl⟩⟩

theorem accept_eq_ok_iff {context : ErrorContext} {c : Checked α} {a : α} :
    accept context c = .ok a ↔ c = .valid a := by
  cases c <;> simp [accept, refuse]

theorem Column.get?_id_of_check {ms : Members} {c : Column}
    (h : Column.check (.obj ms) = .valid c) : ms.get? "id" = some (.str c.id) := by
  simp only [Column.check, record, Column.ofMembers, Checked.seq_eq_valid_iff,
    Checked.fmap_eq_valid_iff] at h
  obtain ⟨_, _, ⟨_, _, ⟨_, _, ⟨_, _, ⟨_, _, ⟨_, _, ⟨_, hid, rfl⟩, _, rfl⟩, _, rfl⟩, _, rfl⟩, _,
    rfl⟩, _, rfl⟩, _, rfl⟩ := h
  exact get?_of_required hid

theorem Layout.moveTables?_isMoved {r : Result α} {tables moved : List (Table α)}
    (h : moveTables? r tables = some moved) : List.Forall₂ Table.IsMoved tables moved := by
  refine (mapM_eq_some_iff.mp h).imp fun t t' ht => ?_
  obtain ⟨n, -, rfl⟩ := Option.map_eq_some_iff.mp ht
  exact ⟨n.position, rfl⟩

theorem Layout.moveTables?_moved {r : Result α} {tables moved : List (Table α)}
    (h : moveTables? r tables = some moved) : moveTables? r moved = some moved := by
  refine mapM_eq_some_iff.mpr (List.forall₂_same.mpr fun t' ht' => ?_)
  obtain ⟨t, -, ht⟩ := exists_of_mem_left (mapM_eq_some_iff.mp h).flip ht'
  obtain ⟨n, found, rfl⟩ := Option.map_eq_some_iff.mp ht
  exact Option.map_eq_some_iff.mpr ⟨n, found, rfl⟩

theorem TableChange.outline_apply (c : TableChange α) (t : Table α) :
    (c.apply t).outline = t.outline := by
  simp [Table.outline, apply, Function.comp_def]

/-- Columns with an id may be replaced by any column with that id. -/
theorem Table.outline_replaced {t : Table α} {id : String} {c : Column} (same : c.id = id) :
    ({ t with columns := t.columns.map fun d => if d.id == id then c else d } : Table α).outline =
      t.outline :=
  congrArg (t.id, ·) (map_key_replaced same t.columns)

namespace Editing

/-- The id of a new table was checked last, so the value that was found to be free is its id. -/
theorem TableDraft.id_of_build {d : TableDraft} {id : Json} {name : String}
    {columns : List Column} {position : Position Float} {t : Table Float}
    (h : d.build id name columns position = .valid t) : id = .str t.id := by
  simp only [build, Checked.seq_eq_valid_iff, Checked.fmap_eq_valid_iff,
    Checked.below_eq_valid_iff, text_eq_valid_iff] at h
  obtain ⟨_, _, ⟨_, _, ⟨_, _, ⟨_, _, ⟨_, _, ⟨_, hid, rfl⟩, _, rfl⟩, _, rfl⟩, _, rfl⟩, _, rfl⟩, _,
    rfl⟩ := h
  exact hid

theorem ColumnDraft.id_of_document {d : ColumnDraft} {id : Json} {name defaultType : String}
    {c : Column} (h : Column.check (d.document id name defaultType) = .valid c) :
    id = .str c.id :=
  Option.some.inj (Column.get?_id_of_check h)

theorem RelationshipDraft.id_of_document {d : RelationshipDraft} {id : Json} {r : Relationship}
    (h : Relationship.check (d.document id) = .valid r) : id = .str r.id := by
  simp only [document, Relationship.check, record, Relationship.ofMembers,
    Checked.seq_eq_valid_iff, Checked.fmap_eq_valid_iff] at h
  obtain ⟨_, _, ⟨_, _, ⟨_, _, ⟨_, _, ⟨_, _, ⟨_, hid, rfl⟩, _, rfl⟩, _, rfl⟩, _, rfl⟩, _, rfl⟩, _,
    rfl⟩ := h
  rwa [required_of_find? (by rfl), Checked.below_eq_valid_iff, text_eq_valid_iff] at hid

theorem columnOf_isStored (draft : Json) : (columnOf draft).Ensures Column.IsStored :=
  Edit.Ensures.bind_any fun _ => Edit.Ensures.bind_any fun _ =>
    Edit.Ensures.lift fun _ h => Column.isStored_of_check (Checked.orFail_eq_ok_iff.mp h)

theorem columnsOf_isStored (drafts : Json) :
    (columnsOf drafts).Ensures fun columns => ∀ c ∈ columns, c.IsStored := by
  refine Edit.Ensures.bind_any fun items => ?_
  refine (Edit.Ensures.mapM (R := fun _ c => c.IsStored) fun v _ => columnOf_isStored v).mono ?_
  intro columns stored c hc
  obtain ⟨_, -, h⟩ := exists_of_mem_left stored.flip hc
  exact h

theorem TableDraft.newColumns_isStored (d : TableDraft) :
    d.newColumns.Ensures fun columns => ∀ c ∈ columns, c.IsStored := by
  unfold newColumns
  split
  · refine Edit.Ensures.bind_any fun id => Edit.Ensures.pure fun c hc => ?_
    rw [List.mem_singleton.mp hc]
    exact ⟨(by decide : Text.allBlank "INT" = false), fun _ hr => by cases hr⟩
  · exact columnsOf_isStored _

theorem TableDraft.columns_of_build {d : TableDraft} {id : Json} {name : String}
    {columns : List Column} {position : Position Float} {t : Table Float}
    (h : d.build id name columns position = .valid t) : t.columns = columns := by
  simp only [build, Checked.seq_eq_valid_iff, Checked.fmap_eq_valid_iff] at h
  obtain ⟨_, _, ⟨_, _, ⟨_, _, ⟨_, _, ⟨_, _, ⟨_, _, rfl⟩, _, rfl⟩, same, rfl⟩, _, rfl⟩, _, rfl⟩, _,
    rfl⟩ := h
  exact (Checked.valid.inj same).symm

theorem TableDraft.name_of_build {d : TableDraft} {id : Json} {name : String}
    {columns : List Column} {position : Position Float} {t : Table Float}
    (h : d.build id name columns position = .valid t) : t.name = name := by
  simp only [build, Checked.seq_eq_valid_iff, Checked.fmap_eq_valid_iff] at h
  obtain ⟨_, _, ⟨_, _, ⟨_, _, ⟨_, _, ⟨_, _, ⟨_, _, rfl⟩, same, rfl⟩, _, rfl⟩, _, rfl⟩, _, rfl⟩, _,
    rfl⟩ := h
  exact (Checked.valid.inj same).symm

/-- What is known of a table that is added: it has the first free name, and an id that no other
table has. -/
structure TableDraft.MakesTable (settings : Config.Settings) (d : TableDraft) (s : State Float)
    (t : Table Float) : Prop where
  named : ∃ defaults base, settings.editing = .ok defaults ∧
    baseName d.name defaults.tableName = .ok base ∧
      t.name = freeName base (s.tables.map (·.name))
  fresh : t.id ∉ s.tables.map (·.id)
  stored : ∀ c ∈ t.columns, c.IsStored

/-- A table is added at the end. -/
theorem addTable_ensures (settings : Config.Settings) (d : TableDraft) (s : State Float) :
    (addTable settings d s).Ensures fun s' =>
      ∃ t, d.MakesTable settings s t ∧ s' = { s with tables := s.tables ++ [t] } := by
  refine Edit.Ensures.bind (Edit.Ensures.lift fun _ h => h) fun defaults configured => ?_
  refine Edit.Ensures.bind (Edit.Ensures.lift fun _ h => h) fun base asked => ?_
  refine Edit.Ensures.bind_any fun id => ?_
  refine Edit.Ensures.ite (fun _ => Edit.Ensures.lift fun _ h => by cases h) fun free => ?_
  refine Edit.Ensures.bind d.newColumns_isStored fun columns stored => ?_
  refine Edit.Ensures.bind_any fun position => ?_
  refine Edit.Ensures.bind
    (Edit.Ensures.lift fun t h => Checked.orFail_eq_ok_iff.mp h) fun t built => ?_
  have named := TableDraft.name_of_build built
  refine Edit.Ensures.pure ⟨t, ⟨⟨defaults, base, configured, asked, named⟩, ?_, ?_⟩, rfl⟩
  · intro taken
    rw [TableDraft.id_of_build built] at free
    exact free (State.table?_isSome_iff.mpr taken)
  · rwa [TableDraft.columns_of_build built]

theorem updateTable_ok {id : String} {change : Checked (TableChange α)} {s s' : State α}
    (h : updateTable id change s = .ok s') :
    ∃ t c, s.table? id = some t ∧ change = .valid c ∧ s' = s.replaceTable id (c.apply t) := by
  obtain ⟨t, ht, h⟩ := bind_ok h
  obtain ⟨c, hc, h⟩ := bind_ok h
  cases h
  exact ⟨t, c, State.requireTable_eq_ok_iff.mp ht, accept_eq_ok_iff.mp hc, rfl⟩

theorem updateTable_outline {id : String} {change : Checked (TableChange α)} {s s' : State α}
    (h : updateTable id change s = .ok s') :
    s'.tables.map Table.outline = s.tables.map Table.outline := by
  obtain ⟨t, c, ht, -, rfl⟩ := updateTable_ok h
  exact State.outline_replaceTable ht (c.outline_apply t)

theorem removeTable_ok {id : String} {s s' : State α} (h : removeTable id s = .ok s') :
    (∃ t, s.table? id = some t) ∧
      s' = { s with
        tables := s.tables.filter (·.id != id)
        relationships := s.relationships.filter (!·.touchesTable id) } := by
  obtain ⟨t, ht, h⟩ := bind_ok h
  cases h
  exact ⟨⟨t, State.requireTable_eq_ok_iff.mp ht⟩, rfl⟩

theorem ColumnDraft.name_of_document {d : ColumnDraft} {id : Json} {name defaultType : String}
    {c : Column} (h : Column.check (d.document id name defaultType) = .valid c) :
    c.name = name := by
  simp only [document, Column.check, record, Column.ofMembers, Checked.seq_eq_valid_iff,
    Checked.fmap_eq_valid_iff] at h
  obtain ⟨_, _, ⟨_, _, ⟨_, _, ⟨_, _, ⟨_, _, ⟨_, _, ⟨_, _, rfl⟩, same, rfl⟩, _, rfl⟩, _, rfl⟩, _,
    rfl⟩, _, rfl⟩, _, rfl⟩ := h
  exact (Checked.valid.inj same).symm

/-- What is known of a column that is added to a table: it has the first name that is free there,
and an id that no other column of the table has. -/
structure ColumnDraft.MakesColumn (settings : Config.Settings) (d : ColumnDraft) (t : Table α)
    (c : Column) : Prop where
  named : ∃ defaults base, settings.editing = .ok defaults ∧
    baseName d.name defaults.columnName = .ok base ∧
      c.name = freeName base (t.columns.map (·.name))
  fresh : c.id ∉ t.columns.map (·.id)
  stored : c.IsStored

/-- A column is added at the end of its table. -/
theorem addColumn_ensures (settings : Config.Settings) (table : String) (d : ColumnDraft)
    (s : State α) :
    (addColumn settings table d s).Ensures fun s' =>
      ∃ t c, s.table? table = some t ∧ d.MakesColumn settings t c ∧
        s' = s.replaceTable table { t with columns := t.columns ++ [c] } := by
  refine Edit.Ensures.bind (Edit.Ensures.lift fun _ h => h) fun defaults configured => ?_
  refine Edit.Ensures.bind
    (Edit.Ensures.lift fun t h => State.requireTable_eq_ok_iff.mp h) fun t ht => ?_
  refine Edit.Ensures.bind_any fun id => ?_
  refine Edit.Ensures.ite (fun _ => Edit.Ensures.lift fun _ h => by cases h) fun free => ?_
  refine Edit.Ensures.bind (Edit.Ensures.lift fun _ h => h) fun base asked => ?_
  refine Edit.Ensures.bind
    (Edit.Ensures.lift fun c h => Checked.orFail_eq_ok_iff.mp h) fun c checked => ?_
  have named := ColumnDraft.name_of_document checked
  refine Edit.Ensures.pure ⟨t, c, ht, ⟨⟨defaults, base, configured, asked, named⟩, ?_,
    Column.isStored_of_check checked⟩, rfl⟩
  intro taken
  rw [ColumnDraft.id_of_document checked] at free
  exact free (Table.column?_isSome_iff.mpr taken)

theorem updateColumn_ok {table column : String} {change : Checked ColumnChange} {s s' : State α}
    (h : updateColumn table column change s = .ok s') :
    ∃ t old c, s.table? table = some t ∧ t.column? column = some old ∧ change = .valid c ∧
      s' = s.replaceTable table
        { t with columns := t.columns.map fun d => if d.id == column then c.apply old else d } := by
  obtain ⟨t, ht, h⟩ := bind_ok h
  obtain ⟨old, hold, h⟩ := bind_ok h
  obtain ⟨c, hc, h⟩ := bind_ok h
  cases h
  exact ⟨t, old, c, State.requireTable_eq_ok_iff.mp ht, Table.requireColumn_eq_ok_iff.mp hold,
    accept_eq_ok_iff.mp hc, rfl⟩

theorem updateColumn_outline {table column : String} {change : Checked ColumnChange}
    {s s' : State α} (h : updateColumn table column change s = .ok s') :
    s'.tables.map Table.outline = s.tables.map Table.outline := by
  obtain ⟨t, old, c, ht, hold, -, rfl⟩ := updateColumn_ok h
  have sameId : (c.apply old).id = column := by
    rw [ColumnChange.apply_id, Table.id_of_column? hold]
  exact State.outline_replaceTable ht (Table.outline_replaced sameId)

theorem removeColumn_ok {table column : String} {s s' : State α}
    (h : removeColumn table column s = .ok s') :
    ∃ t, s.table? table = some t ∧ (∃ c, t.column? column = some c) ∧
      s' = { s.replaceTable table { t with columns := t.columns.filter (·.id != column) } with
        relationships := s.relationships.filter (!·.touchesColumn table column) } := by
  obtain ⟨t, ht, h⟩ := bind_ok h
  obtain ⟨c, hc, h⟩ := bind_ok h
  cases h
  exact ⟨t, State.requireTable_eq_ok_iff.mp ht, ⟨c, Table.requireColumn_eq_ok_iff.mp hc⟩, by simp⟩

/-- A draft becomes an edge between columns that are there, under an id that no edge has. -/
theorem relationshipOf_ensures (d : RelationshipDraft) (s : State α) :
    (relationshipOf d s).Ensures fun r =>
      r.id ∉ s.relationships.map (·.id) ∧
        s.HasColumn r.source r.sourceColumn ∧ s.HasColumn r.target r.targetColumn := by
  refine Edit.Ensures.bind_any fun id => ?_
  refine Edit.Ensures.ite (fun _ => Edit.Ensures.lift fun _ h => by cases h) fun free => ?_
  refine Edit.Ensures.bind
    (Edit.Ensures.lift fun r h => Checked.orFail_eq_ok_iff.mp h) fun r checked => ?_
  refine Edit.Ensures.bind
    (Edit.Ensures.lift fun _ h => State.hasColumn_of_requireEnds h) fun _ ends => ?_
  refine Edit.Ensures.pure ⟨?_, ends⟩
  intro taken
  rw [RelationshipDraft.id_of_document checked] at free
  exact free (State.relationship?_isSome_iff.mpr taken)

theorem addRelationship_ensures (d : RelationshipDraft) (s : State α) :
    (addRelationship d s).Ensures fun s' =>
      ∃ r : Relationship, r.id ∉ s.relationships.map (·.id) ∧
        s.HasColumn r.source r.sourceColumn ∧ s.HasColumn r.target r.targetColumn ∧
        s' = { s with relationships := s.relationships ++ [r] } := by
  refine Edit.Ensures.bind (relationshipOf_ensures d s) fun r hr => ?_
  exact Edit.Ensures.pure ⟨r, hr.1, hr.2.1, hr.2.2, rfl⟩

theorem connectColumns_ensures (d : RelationshipDraft) (s : State α) :
    (connectColumns d s).Ensures fun s' =>
      ∃ r : Relationship, r.id ∉ s.relationships.map (·.id) ∧
        s.HasColumn r.source r.sourceColumn ∧ s.HasColumn r.target r.targetColumn ∧
        s' = { s with
          relationships := s.relationships ++ [r]
          tables := Relationship.markAll s.tables [r] } := by
  refine Edit.Ensures.bind (relationshipOf_ensures d s) fun r hr => ?_
  exact Edit.Ensures.pure ⟨r, hr.1, hr.2.1, hr.2.2, rfl⟩

theorem updateRelationship_ok {id : String} {change : Checked RelationshipChange}
    {s s' : State α} (h : updateRelationship id change s = .ok s') :
    ∃ old c, s.relationship? id = some old ∧ change = .valid c ∧
      s.HasColumn (c.apply old).source (c.apply old).sourceColumn ∧
      s.HasColumn (c.apply old).target (c.apply old).targetColumn ∧
      s' = { s with
        relationships := s.relationships.map fun r => if r.id == id then c.apply old else r } := by
  obtain ⟨old, hold, h⟩ := bind_ok h
  obtain ⟨c, hc, h⟩ := bind_ok h
  obtain ⟨_, ends, h⟩ := bind_ok h
  cases h
  obtain ⟨source, target⟩ := State.hasColumn_of_requireEnds ends
  exact ⟨old, c, State.requireRelationship_eq_ok_iff.mp hold, accept_eq_ok_iff.mp hc, source,
    target, rfl⟩

theorem removeRelationship_ok {id : String} {s s' : State α}
    (h : removeRelationship id s = .ok s') :
    (∃ r, s.relationship? id = some r) ∧
      s' = { s with relationships := s.relationships.filter (·.id != id) } := by
  obtain ⟨r, hr, h⟩ := bind_ok h
  cases h
  exact ⟨⟨r, State.requireRelationship_eq_ok_iff.mp hr⟩, rfl⟩

/-- Laying out a schema moves its tables and does nothing else. -/
theorem autoLayout_ok [Scalar α] {settings : Except Failure (Layout.Settings α)} {s s' : State α}
    (h : autoLayout settings s = .ok s') :
    ∃ tables, s' = { s with tables } ∧
      List.Forall₂ Table.IsMoved s.tables tables := by
  have unmoved : List.Forall₂ Table.IsMoved s.tables s.tables :=
    List.forall₂_same.mpr fun t _ => ⟨t.position, rfl⟩
  unfold autoLayout at h
  split at h
  · cases h
    exact ⟨s.tables, rfl, unmoved⟩
  · obtain ⟨layout, -, h⟩ := bind_ok h
    cases harrange : Layout.arrange? layout s with
    | none =>
        rw [harrange] at h
        cases h
    | some arranged =>
        rw [harrange] at h
        cases h
        unfold Layout.arrange? at harrange
        split at harrange
        · cases harrange
          exact ⟨s.tables, rfl, unmoved⟩
        · obtain ⟨result, -, harrange⟩ := Option.bind_eq_some_iff.mp harrange
          obtain ⟨tables, hmove, harrange⟩ := Option.bind_eq_some_iff.mp harrange
          cases harrange
          exact ⟨tables, rfl, Layout.moveTables?_isMoved hmove⟩

theorem autoLayout_outline [Scalar α] {settings : Except Failure (Layout.Settings α)}
    {s s' : State α} (h : autoLayout settings s = .ok s') :
    s'.tables.map Table.outline = s.tables.map Table.outline := by
  obtain ⟨tables, rfl, moved⟩ := autoLayout_ok h
  exact (map_eq_map_iff.mpr (moved.imp fun _ _ hm => hm.outline_eq.symm)).symm

end Editing
end SchemaGraph
