import SchemaGraph.Proofs.Editing.Independent

/-!
# Updates of different targets

An update has a target: a table, a column of a table, a relationship, or the dialect. A table and a
column of it are different targets. Updates of different targets are independent.
-/

namespace SchemaGraph

open Decode Editing

variable {α : Type}

/-- What an update is about. -/
inductive Target where
  | table (id : String)
  | column (table id : String)
  | relationship (id : String)
  | dialect
  deriving DecidableEq

/-- An update with a change that is valid. -/
inductive Update (α : Type) where
  | table (id : String) (change : TableChange α)
  | column (table id : String) (change : ColumnChange)
  | relationship (id : String) (change : RelationshipChange)
  | dialect (d : Dialect)

namespace State

variable {s s' : State α} {r : Relationship}

/-- Both ends of an edge are there. -/
def HasEnds (s : State α) (r : Relationship) : Prop :=
  s.HasColumn r.source r.sourceColumn ∧ s.HasColumn r.target r.targetColumn

theorem hasEnds_congr (h : s'.tables.map Table.outline = s.tables.map Table.outline) :
    s'.HasEnds r ↔ s.HasEnds r :=
  and_congr (hasColumn_congr h) (hasColumn_congr h)

theorem requireEnds_eq_ok_iff {operation : String} :
    s.requireEnds operation r = .ok () ↔ s.HasEnds r := by
  refine ⟨hasColumn_of_requireEnds, ?_⟩
  rintro ⟨⟨source, hs, hc⟩, ⟨target, ht, hd⟩⟩
  obtain ⟨c, hc⟩ := Option.isSome_iff_exists.mp hc
  obtain ⟨d, hd⟩ := Option.isSome_iff_exists.mp hd
  rw [requireEnds, requireTable_eq_ok_iff.mpr hs, requireTable_eq_ok_iff.mpr ht]
  simp only [bind, Except.bind, Table.requireColumn_eq_ok_iff.mpr hc,
    Table.requireColumn_eq_ok_iff.mpr hd]
  rfl

/-- Put an edge in the place of those with an id. -/
def putRelationship (s : State α) (id : String) (r : Relationship) : State α :=
  { s with relationships := s.relationships.map fun q => if q.id == id then r else q }

theorem replaceTable_putRelationship (s : State α) (id p : String) (r : Relationship)
    (t : Table α) :
    (s.putRelationship id r).replaceTable p t = (s.replaceTable p t).putRelationship id r := by
  have same : (s.putRelationship id r).tableIndex? p = s.tableIndex? p := rfl
  unfold replaceTable
  rw [same]
  cases s.tableIndex? p <;> rfl

end State

namespace Update

def target : Update α → Target
  | table id _ => .table id
  | column owner id _ => .column owner id
  | relationship id _ => .relationship id
  | dialect _ => .dialect

def apply (s : State α) : Update α → Except Failure (State α)
  | table id change => updateTable id (.valid change) s
  | column owner id change => updateColumn owner id (.valid change) s
  | relationship id change => updateRelationship id (.valid change) s
  | dialect d => .ok (setDialect d s)

/-- The schema after the update, if it is not refused. -/
def outcome? (u : Update α) (s : State α) : Option (State α) := (u.apply s).toOption

/-- A column is left in the form in which columns are stored. -/
def IsStored : Update α → Prop
  | column _ _ change => change.IsStored
  | _ => True

theorem outcome?_table (id : String) (change : TableChange α) :
    (table id change).outcome? = State.tryTable id fun t => some (change.apply t) := by
  funext s
  rw [outcome?, apply, updateTable, State.requireTable, State.tryTable]
  cases s.table? id <;> rfl

theorem outcome?_column (owner id : String) (change : ColumnChange) :
    (column owner id change : Update α).outcome? =
      State.tryTable owner (Table.tryColumn id change.apply) := by
  funext s
  rw [outcome?, apply, updateColumn, State.requireTable, State.tryTable]
  cases s.table? owner with
  | none => rfl
  | some t =>
      simp only [Option.bind_eq_bind, Option.bind_some, Table.tryColumn]
      change Except.toOption (Except.bind (t.requireColumn _ id) _) = _
      rw [Table.requireColumn]
      cases t.column? id <;> rfl

theorem keepsId_table (change : TableChange α) :
    Table.KeepsId fun t => some (change.apply t) := by
  rintro t _ ⟨⟩
  rfl

theorem tables_independent {p q : String} {change change' : TableChange α} (ne : p ≠ q) :
    Independent (table p change).outcome? (table q change').outcome? := by
  rw [outcome?_table, outcome?_table]
  exact State.tryTable_independent_of_ne ne (keepsId_table _) (keepsId_table _)

theorem table_column_independent {p owner id : String} {change : TableChange α}
    {change' : ColumnChange} (stored : change'.IsStored) :
    Independent (table p change).outcome? (column owner id change').outcome? := by
  rw [outcome?_table, outcome?_column]
  by_cases same : p = owner
  · -- The column is one of the table's own, and both updates put it into normal form.
    subst same
    refine State.tryTable_independent ?_ (keepsId_table _) Table.tryColumn_keepsId
    exact (Independent.of_total (Table.tryColumn_apply change change'.apply_normal
      stored.normal_apply)).symm
  · exact State.tryTable_independent_of_ne same (keepsId_table _) Table.tryColumn_keepsId

theorem columns_independent {p q id id' : String} {change change' : ColumnChange}
    (ne : p = q → id ≠ id') :
    Independent (column p id change : Update α).outcome? (column q id' change').outcome? := by
  rw [outcome?_column, outcome?_column]
  by_cases same : p = q
  · subst same
    exact State.tryTable_independent
      (Table.tryColumn_independent (ne rfl) change.apply_id change'.apply_id)
      Table.tryColumn_keepsId Table.tryColumn_keepsId
  · exact State.tryTable_independent_of_ne same Table.tryColumn_keepsId Table.tryColumn_keepsId

section Relationships

variable {s s' : State α} {id p q : String} {change change' : RelationshipChange}

theorem outcome?_relationship_eq_some_iff :
    (relationship id change).outcome? s = some s' ↔
      ∃ old, s.relationship? id = some old ∧ s.HasEnds (change.apply old) ∧
        s.putRelationship id (change.apply old) = s' := by
  unfold outcome?
  constructor
  · intro h
    cases success : apply s (relationship id change) with
    | error f =>
        rw [success] at h
        cases h
    | ok done =>
        rw [success] at h
        cases h
        obtain ⟨old, _, found, same, source, target, rfl⟩ := updateRelationship_ok success
        cases same
        exact ⟨old, found, ⟨source, target⟩, rfl⟩
  · rintro ⟨old, found, ends, rfl⟩
    rw [apply, updateRelationship, State.requireRelationship_eq_ok_iff.mpr found]
    simp only [bind, Except.bind, accept, State.requireEnds_eq_ok_iff.mpr ends]
    rfl

theorem outcome?_relationship_eq_none_iff :
    (relationship id change).outcome? s = none ↔
      ∀ old, s.relationship? id = some old → ¬ s.HasEnds (change.apply old) := by
  rw [Option.eq_none_iff_forall_ne_some]
  constructor
  · exact fun refused old found ends =>
      refused _ (outcome?_relationship_eq_some_iff.mpr ⟨old, found, ends, rfl⟩)
  · intro refused s' h
    obtain ⟨old, found, ends, -⟩ := outcome?_relationship_eq_some_iff.mp h
    exact refused old found ends

theorem id_apply {old : Relationship} (found : s.relationship? p = some old) :
    (change.apply old).id = p :=
  (change.apply_id old).trans (State.id_of_relationship? found)

theorem relationship?_putRelationship {old : Relationship} (found : s.relationship? p = some old)
    (ne : p ≠ q) : (s.putRelationship p (change.apply old)).relationship? q = s.relationship? q :=
  find?_replaced_of_ne (id_apply found) ne s.relationships

theorem relationships_independent (ne : p ≠ q) :
    Independent (relationship p change : Update α).outcome? (relationship q change').outcome? where
  both {s s₁ s₂} first second := by
    obtain ⟨old, foundP, ends, rfl⟩ := outcome?_relationship_eq_some_iff.mp first
    obtain ⟨old', foundQ, ends', rfl⟩ := outcome?_relationship_eq_some_iff.mp second
    refine ⟨_, outcome?_relationship_eq_some_iff.mpr ⟨old', ?_, ends', rfl⟩,
      outcome?_relationship_eq_some_iff.mpr ⟨old, ?_, ends, ?_⟩⟩
    · exact (relationship?_putRelationship foundP ne).trans foundQ
    · exact (relationship?_putRelationship foundQ ne.symm).trans foundP
    · exact congrArg (fun relationships => { s with relationships })
        (replaced_comm (id_apply foundQ) (id_apply foundP) ne.symm s.relationships)
  right {s s₁} first second := by
    obtain ⟨old, foundP, -, rfl⟩ := outcome?_relationship_eq_some_iff.mp first
    rw [outcome?_relationship_eq_none_iff] at second ⊢
    rw [relationship?_putRelationship foundP ne]
    exact second
  left {s s₂} first second := by
    obtain ⟨old', foundQ, -, rfl⟩ := outcome?_relationship_eq_some_iff.mp second
    rw [outcome?_relationship_eq_none_iff] at first ⊢
    rw [relationship?_putRelationship foundQ ne.symm]
    exact first

/-- A step that keeps the outline of a table is not noticed by updates of relationships, and they
are not noticed by it. -/
theorem tryTable_relationship_independent {step : Table α → Option (Table α)}
    (keeps : ∀ t t', step t = some t' → t'.outline = t.outline) :
    Independent (State.tryTable p step) (relationship q change).outcome? where
  both {s s₁ s₂} first second := by
    obtain ⟨t, t', found, ht, rfl⟩ := State.tryTable_eq_some_iff.mp first
    obtain ⟨old, listed, ends, rfl⟩ := outcome?_relationship_eq_some_iff.mp second
    have outline := State.outline_replaceTable found (keeps t t' ht)
    refine ⟨_, outcome?_relationship_eq_some_iff.mpr
        ⟨old, ?_, (State.hasEnds_congr outline).mpr ends, rfl⟩,
      State.tryTable_eq_some_iff.mpr
        ⟨t, t', found, ht, s.replaceTable_putRelationship q p _ t'⟩⟩
    rwa [State.relationship?, State.replaceTable_relationships]
  right {s s₁} first second := by
    obtain ⟨t, t', found, ht, rfl⟩ := State.tryTable_eq_some_iff.mp first
    have outline := State.outline_replaceTable found (keeps t t' ht)
    rw [outcome?_relationship_eq_none_iff] at second ⊢
    intro old listed ends
    rw [State.relationship?, State.replaceTable_relationships] at listed
    exact second old listed ((State.hasEnds_congr outline).mp ends)
  left {s s₂} first second := by
    obtain ⟨old, -, -, rfl⟩ := outcome?_relationship_eq_some_iff.mp second
    rw [State.tryTable_eq_none_iff] at first ⊢
    exact first

end Relationships

section Dialects

variable (d : Dialect)

theorem tryTable_setDialect (p : String) (step : Table α → Option (Table α)) (s : State α) :
    (setDialect d s).tryTable p step = (s.tryTable p step).map (setDialect d) := by
  have replaced (t : Table α) :
      (setDialect d s).replaceTable p t = setDialect d (s.replaceTable p t) := by
    have same : (setDialect d s).tableIndex? p = s.tableIndex? p := rfl
    unfold State.replaceTable
    rw [same]
    cases s.tableIndex? p <;> rfl
  unfold State.tryTable
  change (s.table? p).bind _ = _
  cases s.table? p with
  | none => rfl
  | some t => cases h : step t <;> simp [h, replaced]

/-- The dialect is an update that no other update notices. -/
theorem outcome?_setDialect (u : Update α) (s : State α) (ne : u.target ≠ .dialect) :
    u.outcome? (setDialect d s) = (u.outcome? s).map (setDialect d) := by
  cases u with
  | table id change => rw [outcome?_table, tryTable_setDialect]
  | column owner id change => rw [outcome?_column, tryTable_setDialect]
  | relationship id change =>
      cases h : (relationship id change).outcome? s with
      | none =>
          have refused := outcome?_relationship_eq_none_iff.mp h
          exact outcome?_relationship_eq_none_iff.mpr refused
      | some s' =>
          obtain ⟨old, found, ends, rfl⟩ := outcome?_relationship_eq_some_iff.mp h
          exact outcome?_relationship_eq_some_iff.mpr ⟨old, found, ends, rfl⟩
  | dialect d' => exact absurd rfl ne

theorem dialect_independent {u : Update α} (ne : u.target ≠ .dialect) :
    Independent u.outcome? (dialect d).outcome? :=
  Independent.of_total fun s => outcome?_setDialect d u s ne

end Dialects

theorem relationship_independent {u : Update α} {id : String} {change : RelationshipChange}
    (ne : u.target ≠ .relationship id) :
    Independent u.outcome? (relationship id change).outcome? := by
  cases u with
  | table p change' =>
      rw [outcome?_table]
      refine tryTable_relationship_independent ?_
      rintro t _ ⟨⟩
      exact change'.outline_apply t
  | column owner p change' =>
      rw [outcome?_column]
      refine tryTable_relationship_independent fun t t' h => ?_
      obtain ⟨c, found, rfl⟩ := Table.tryColumn_eq_some_iff.mp h
      exact Table.outline_replaced ((change'.apply_id c).trans (Table.id_of_column? found))
  | relationship p change' =>
      exact relationships_independent fun same => ne (congrArg Target.relationship same)
  | dialect d => exact (dialect_independent d (by simp [target])).symm

/-- Updates of different targets are independent, if those of columns leave them in the form in
which columns are stored. -/
theorem independent {u v : Update α} (hu : u.IsStored) (hv : v.IsStored)
    (ne : u.target ≠ v.target) : Independent u.outcome? v.outcome? := by
  cases v with
  | relationship id change => exact relationship_independent ne
  | dialect d => exact dialect_independent d ne
  | table q change =>
      cases u with
      | relationship id change' => exact (relationship_independent ne.symm).symm
      | dialect d => exact (dialect_independent d ne.symm).symm
      | table p change' => exact tables_independent fun same => ne (congrArg Target.table same)
      | column owner id change' => exact (table_column_independent hu).symm
  | column owner id change =>
      cases u with
      | relationship id change' => exact (relationship_independent ne.symm).symm
      | dialect d => exact (dialect_independent d ne.symm).symm
      | table p change' => exact table_column_independent hv
      | column owner' id' change' =>
          exact columns_independent fun owners same => ne (congrArg₂ Target.column owners same)

end Update
end SchemaGraph
