import SchemaGraph.Proofs.Editing.Decided
import SchemaGraph.Proofs.Editing.Draft
import SchemaGraph.Proofs.Editing.Effect
import SchemaGraph.Proofs.Layout.Defined

/-!
# What edits are refused for

Whatever an edit looks up and does not find, and whatever change it cannot accept, it refuses as an
operation. There are two other ways to fail. What is found in the columns of a new table is not
reported as that of an operation, nor is a column the check of which is cut short, and a layout
fails if the number of a row is beyond all coordinates.
-/

namespace SchemaGraph

open Decode

variable {α : Type}

theorem refuse_refuses (context : ErrorContext) (fault : OperationFault) :
    OnlyRefuses (refuse context fault : Except Failure α) :=
  OnlyRefuses.refuse ⟨context, fault⟩

theorem accept_refuses (context : ErrorContext) {c : Checked α} (settled : c ≠ .tooDeep) :
    OnlyRefuses (accept context c) := by
  cases c with
  | valid a => exact OnlyRefuses.ok a
  | invalid found => exact refuse_refuses _ _
  | tooDeep => exact absurd rfl settled

theorem Table.requireColumn_refuses (operation id : String) (t : Table α) :
    OnlyRefuses (t.requireColumn operation id) := by
  unfold requireColumn
  cases t.column? id with
  | some c => exact OnlyRefuses.ok c
  | none => exact refuse_refuses _ _

namespace State

theorem requireTable_refuses (operation id : String) (s : State α) :
    OnlyRefuses (s.requireTable operation id) := by
  unfold requireTable
  cases s.table? id with
  | some t => exact OnlyRefuses.ok t
  | none => exact refuse_refuses _ _

theorem requireRelationship_refuses (operation id : String) (s : State α) :
    OnlyRefuses (s.requireRelationship operation id) := by
  unfold requireRelationship
  cases s.relationship? id with
  | some r => exact OnlyRefuses.ok r
  | none => exact refuse_refuses _ _

theorem requireEnds_refuses (operation : String) (r : Relationship) (s : State α) :
    OnlyRefuses (s.requireEnds operation r) := by
  refine (requireTable_refuses _ _ _).bind fun source _ => ?_
  refine (requireTable_refuses _ _ _).bind fun target _ => ?_
  refine (Table.requireColumn_refuses _ _ _).bind fun _ _ => ?_
  exact (Table.requireColumn_refuses _ _ _).bind fun _ _ => OnlyRefuses.ok ()

end State

/-- Whether a value makes a column once it has an id. -/
def Json.MakesColumn (v : Json) : Prop := ∃ ms, v.entries = .ok ms ∧ Column.IsDraft ms

/-- How making a column of a value fails, but for what is found in it: the value cannot be taken
apart, or something in it is nested too deep. -/
inductive Json.ResistsColumn (v : Json) : Failure → Prop
  | entries {f : Failure} (failed : v.entries = .error f) : ResistsColumn v f
  | deep {ms : Members} (read : v.entries = .ok ms) (deep : Column.IsTooDeep ms) :
    ResistsColumn v (.crash .tooDeep)

namespace Editing

theorem columnOf_isDecided (v : Json) : (columnOf v).IsDecided v.MakesColumn v.ResistsColumn := by
  have read (ms : Members) : Edit.IsDecided (Edit.freshId >>= fun id =>
      (Column.check (.obj (ms.putNew "id" (.str id)))).orFail) (Column.IsDraft ms)
        fun f => Column.IsTooDeep ms ∧ f = .crash .tooDeep := by
    refine Edit.IsDecided.bind_freshId fun id => (Edit.IsDecided.check _).congr ?_ fun f => ?_
    · exact ⟨fun h => Column.exists_check_putNew h "", fun h => Column.exists_check_putNew h id⟩
    · simp [Column.check_eq_tooDeep_iff, Column.isTooDeep_putNew_iff]
  refine (Edit.IsDecided.bind_lift read).congr Iff.rfl fun f => ⟨?_, ?_⟩
  · rintro (failed | ⟨ms, read, deep, rfl⟩)
    · exact .entries failed
    · exact .deep read deep
  · rintro (failed | ⟨read, deep⟩)
    · exact .inl failed
    · exact .inr ⟨_, read, deep, rfl⟩

theorem columnsOf_isDecided (v : Json) :
    (columnsOf v).IsDecided
      (∃ drafts, v.elements = .ok drafts ∧ ∀ draft ∈ drafts, draft.MakesColumn)
      fun f => v.elements = .error f ∨ ∃ drafts, v.elements = .ok drafts ∧
        RunsInto Json.MakesColumn (·.ResistsColumn f) drafts :=
  Edit.IsDecided.bind_lift (Edit.IsDecided.mapM columnOf_isDecided)

/-- The columns that a new table is asked for are objects, so they can be taken apart. -/
theorem newColumns_isDecided (form : NewTable) :
    form.draft.newColumns.IsDecided (∀ ms ∈ form.drafts, Column.IsDraft ms)
      fun f => RunsInto Column.IsDraft Column.IsTooDeep form.drafts ∧ f = .crash .tooDeep := by
  unfold TableDraft.newColumns NewTable.draft NewTable.drafts
  cases form.columns.join with
  | none =>
      exact Edit.IsDecided.bind_freshId fun _ => Edit.IsDecided.pure.congr (by simp)
        fun f => ⟨False.elim, fun h => by cases h.1⟩
  | some drafts =>
      refine (columnsOf_isDecided (.arr (drafts.map .obj))).congr ?_ fun f => ?_
      · simp [Json.elements, Json.MakesColumn]
      · have resists (ms : Members) :
            (Json.obj ms).ResistsColumn f ↔ Column.IsTooDeep ms ∧ f = .crash .tooDeep := by
          constructor
          · rintro (⟨⟨⟩⟩ | ⟨⟨⟩, deep⟩)
            exact ⟨deep, rfl⟩
          · rintro ⟨deep, rfl⟩
            exact .deep rfl deep
        simp [Json.elements, Json.MakesColumn, RunsInto.map_iff, resists, RunsInto.and_iff]

/-- How the columns of a new table fail: the first that is none has faults, or is nested too
deep. -/
inductive ColumnFails (drafts : List Members) : Failure → Prop
  | found {found : Findings} (faulty : RunsInto Column.IsDraft Column.IsFaulty drafts) :
    ColumnFails drafts (.invalid found)
  | deep (deep : RunsInto Column.IsDraft Column.IsTooDeep drafts) :
    ColumnFails drafts (.crash .tooDeep)

theorem ColumnFails.exists_not_isDraft {drafts : List Members} {f : Failure}
    (h : ColumnFails drafts f) : ∃ ms ∈ drafts, ¬ Column.IsDraft ms := by
  rcases h with faulty | deep
  · obtain ⟨ms, hms, bad⟩ := faulty.exists_bad
    exact ⟨ms, hms, bad.1⟩
  · obtain ⟨ms, hms, bad⟩ := deep.exists_bad
    exact ⟨ms, hms, bad.not_isDraft⟩

theorem newColumns_fails (form : NewTable) (supply : Supply) :
    form.draft.newColumns.FailsOnly supply (ColumnFails form.drafts) := by
  intro f failed
  have decided := newColumns_isDecided form
  have stuck : RunsInto Column.IsDraft
      (fun ms => Column.IsFaulty ms ∨ Column.IsTooDeep ms) form.drafts :=
    (RunsInto.of_not_all (decided.not_fine failed)).imp fun ms notDraft =>
      (em (Column.IsTooDeep ms)).symm.imp_left fun settled => ⟨notDraft, settled⟩
  rcases stuck.or with faulty | deep
  · rcases decided.failsOnly supply f failed with ⟨deep, rfl⟩ | ⟨found, rfl⟩
    · obtain ⟨ms, isFaulty, isDeep⟩ := faulty.meet deep (fun _ h => h.1) fun _ h => h.not_isDraft
      exact absurd isDeep isFaulty.2
    · exact .found faulty
  · have crash := decided.fails _ ⟨deep, rfl⟩ supply
    obtain rfl := Except.error.inj (failed.symm.trans crash)
    exact .deep deep

variable {settings : Config.Settings} {defaults : Config.Editing}

/-- A new table is refused if its id is taken, and else fails only for the first of its columns that
is none. -/
theorem addTable_failsOnly (configured : settings.editing = .ok defaults) (form : NewTable)
    (s : State Float) (supply : Supply) :
    (addTable settings form.draft s).FailsOnly supply fun f =>
      ((s.table? (supply.idFor form.id.join)).isSome = true ∧ f.IsRefusal) ∨
        (s.table? (supply.idFor form.id.join)).isSome = false ∧ ColumnFails form.drafts f := by
  refine Edit.FailsOnly.bind_known configured ?_
  obtain ⟨base, named⟩ := baseName_ofText? form.name.join defaults.tableName
  refine Edit.FailsOnly.bind_known named ?_
  refine Edit.FailsOnly.bind (Edit.failsOnly_givenId_ofText? _ _ _) fun id rest run => ?_
  obtain rfl := Edit.eq_idFor_of_givenId run
  refine Edit.FailsOnly.ite (fun taken => ?_) fun free => ?_
  · exact Edit.FailsOnly.lift fun f h => .inl ⟨taken, refuse_refuses _ _ f h⟩
  have isFree := Bool.eq_false_iff.mpr free
  -- What follows the columns is known to succeed, whatever columns there are.
  refine Edit.FailsOnly.bind ((newColumns_fails form rest).mono fun f h => .inr ⟨isFree, h⟩)
    fun columns _ _ => ?_
  obtain ⟨position, placed⟩ := form.exists_place defaults.spawnPosition
  refine Edit.FailsOnly.bind_known placed ?_
  obtain ⟨t, built⟩ := form.exists_build (supply.idFor form.id.join)
    (freeName base (s.tables.map (·.name))) columns position
  exact Edit.FailsOnly.bind_known (Checked.orFail_eq_ok_iff.mpr built) Edit.FailsOnly.pure

theorem addTable_ensures_isDraft (settings : Config.Settings) (form : NewTable)
    (s : State Float) :
    (addTable settings form.draft s).Ensures fun _ => ∀ ms ∈ form.drafts, Column.IsDraft ms := by
  refine Edit.Ensures.bind_any fun defaults => ?_
  refine Edit.Ensures.bind_any fun base => ?_
  refine Edit.Ensures.bind_any fun id => ?_
  refine Edit.Ensures.ite (fun _ => Edit.Ensures.lift fun _ h => by cases h) fun _ => ?_
  refine Edit.Ensures.bind (newColumns_isDecided form).ensures fun columns drafts => ?_
  refine Edit.Ensures.bind_any fun position => ?_
  exact Edit.Ensures.bind_any fun t => Edit.Ensures.pure drafts

/-- The first column that is none escapes, if the id of the table is free. -/
theorem addTable_error (configured : settings.editing = .ok defaults) (form : NewTable)
    {s : State Float} {supply : Supply}
    (free : (s.table? (supply.idFor form.id.join)).isSome = false)
    (bad : ∃ ms ∈ form.drafts, ¬ Column.IsDraft ms) :
    ∃ f, ((addTable settings form.draft s).runOn supply).1 = .error f ∧
      ColumnFails form.drafts f := by
  cases outcome : ((addTable settings form.draft s).runOn supply).1 with
  | ok s' =>
      obtain ⟨ms, hms, notDraft⟩ := bad
      exact absurd (addTable_ensures_isDraft settings form s supply s' outcome ms hms) notDraft
  | error f =>
      rcases addTable_failsOnly configured form s supply f outcome with ⟨taken, -⟩ | ⟨-, fails⟩
      · rw [free] at taken
        cases taken
      · exact ⟨f, rfl, fails⟩

/-! ### The other edits -/

theorem updateTable_refuses (id : String) {change : Checked (TableChange α)}
    (settled : change ≠ .tooDeep) (s : State α) : OnlyRefuses (updateTable id change s) := by
  refine (State.requireTable_refuses _ _ _).bind fun t _ => ?_
  exact (accept_refuses _ settled).bind fun c _ => OnlyRefuses.ok _

theorem removeTable_refuses (id : String) (s : State α) : OnlyRefuses (removeTable id s) :=
  (State.requireTable_refuses _ _ _).bind fun _ _ => OnlyRefuses.ok _

theorem updateColumn_refuses (table column : String) {change : Checked ColumnChange}
    (settled : change ≠ .tooDeep) (s : State α) :
    OnlyRefuses (updateColumn table column change s) := by
  refine (State.requireTable_refuses _ _ _).bind fun t _ => ?_
  refine (Table.requireColumn_refuses _ _ _).bind fun old _ => ?_
  exact (accept_refuses _ settled).bind fun c _ => OnlyRefuses.ok _

theorem removeColumn_refuses (table column : String) (s : State α) :
    OnlyRefuses (removeColumn table column s) := by
  refine (State.requireTable_refuses _ _ _).bind fun t _ => ?_
  exact (Table.requireColumn_refuses _ _ _).bind fun _ _ => OnlyRefuses.ok _

theorem updateRelationship_refuses (id : String) {change : Checked RelationshipChange}
    (settled : change ≠ .tooDeep) (s : State α) : OnlyRefuses (updateRelationship id change s) := by
  refine (State.requireRelationship_refuses _ _ _).bind fun old _ => ?_
  refine (accept_refuses _ settled).bind fun c _ => ?_
  exact (State.requireEnds_refuses _ _ _).bind fun _ _ => OnlyRefuses.ok _

theorem removeRelationship_refuses (id : String) (s : State α) :
    OnlyRefuses (removeRelationship id s) :=
  (State.requireRelationship_refuses _ _ _).bind fun _ _ => OnlyRefuses.ok _

/-- A new column is refused if its table is not there or its id is taken. -/
theorem addColumn_failsOnly (configured : settings.editing = .ok defaults) (table : String)
    (form : NewColumn) (s : State α) (supply : Supply) :
    (addColumn settings table form.draft s).FailsOnly supply fun f => f.IsRefusal ∧
      ∀ t, s.table? table = some t → (t.column? (supply.idFor form.id.join)).isSome = true := by
  refine Edit.FailsOnly.bind_known configured ?_
  cases found : s.table? table with
  | none =>
      refine Edit.FailsOnly.bind_lift (fun f h => ⟨State.requireTable_refuses _ _ _ f h, nofun⟩)
        fun t ht => ?_
      rw [State.requireTable_eq_ok_iff, found] at ht
      cases ht
  | some t =>
      refine Edit.FailsOnly.bind_known (State.requireTable_eq_ok_iff.mpr found) ?_
      refine Edit.FailsOnly.bind (Edit.failsOnly_givenId_ofText? _ _ _) fun id rest run => ?_
      obtain rfl := Edit.eq_idFor_of_givenId run
      refine Edit.FailsOnly.ite (fun taken => ?_) fun _ => ?_
      · refine Edit.FailsOnly.lift fun f h => ⟨refuse_refuses _ _ f h, ?_⟩
        rintro _ ⟨⟩
        exact taken
      · obtain ⟨base, named⟩ := baseName_ofText? form.name.join defaults.columnName
        refine Edit.FailsOnly.bind_known named ?_
        obtain ⟨c, read⟩ := NewColumn.exists_check form (supply.idFor form.id.join)
          (freeName base (t.columns.map (·.name))) defaults.columnType
        exact Edit.FailsOnly.bind_known (Checked.orFail_eq_ok_iff.mpr read) Edit.FailsOnly.pure

theorem addColumn_refuses (configured : settings.editing = .ok defaults) (table : String)
    (form : NewColumn) (s : State α) (supply : Supply) :
    (addColumn settings table form.draft s).FailsOnly supply Failure.IsRefusal :=
  (addColumn_failsOnly configured table form s supply).mono fun _ h => h.1

theorem relationshipOf_refuses (form : NewRelationship) (s : State α) (supply : Supply) :
    (relationshipOf form.draft s).FailsOnly supply Failure.IsRefusal := by
  refine Edit.FailsOnly.bind (Edit.failsOnly_givenId_ofText? _ _ _) fun id rest run => ?_
  obtain rfl := Edit.eq_idFor_of_givenId run
  refine Edit.FailsOnly.ite (fun _ => Edit.FailsOnly.lift (refuse_refuses _ _)) fun _ => ?_
  obtain ⟨r, read⟩ := NewRelationship.exists_check form (supply.idFor form.id.join)
  refine Edit.FailsOnly.bind_known (Checked.orFail_eq_ok_iff.mpr read) ?_
  exact Edit.FailsOnly.bind_lift (State.requireEnds_refuses _ _ _) fun _ _ => Edit.FailsOnly.pure

theorem addRelationship_refuses (form : NewRelationship) (s : State α) (supply : Supply) :
    (addRelationship form.draft s).FailsOnly supply Failure.IsRefusal :=
  Edit.FailsOnly.bind (relationshipOf_refuses form s supply) fun _ _ _ => Edit.FailsOnly.pure

theorem connectColumns_refuses (form : NewRelationship) (s : State α) (supply : Supply) :
    (connectColumns form.draft s).FailsOnly supply Failure.IsRefusal :=
  Edit.FailsOnly.bind (relationshipOf_refuses form s supply) fun _ _ _ => Edit.FailsOnly.pure

/-- Laying out fails only if a row is out of reach. -/
theorem autoLayout_fails [Scalar α] {layout : Layout.Settings α} {s : State α} {f : Failure}
    (h : autoLayout (.ok layout) s = .error f) :
    f = .crash .noKey ∧ ¬ Layout.RowsInReach s.tables := by
  unfold autoLayout at h
  split at h
  · cases h
  · rcases bind_error h with h | ⟨_, chosen, h⟩
    · cases h
    cases chosen
    split at h
    · cases h
    · rename_i stuck
      refine ⟨(Except.error.inj h).symm, fun reach => ?_⟩
      obtain ⟨moved, arranged⟩ := reach.exists_arrange? layout
      cases stuck.symm.trans arranged

end Editing

end SchemaGraph
