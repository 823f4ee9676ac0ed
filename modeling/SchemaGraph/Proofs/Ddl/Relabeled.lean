import Mathlib.Data.Set.Function
import SchemaGraph.Proofs.Ddl.ForeignKeys
import SchemaGraph.Proofs.Relationship.Selected

/-!
# Scripts and ids

Ids tie relationships and selections to tables and columns, and that is all they are for. Under new
ids that tell apart what the old ones tell apart, the same tables are selected and the same columns
are found. A script is made of names, types and flags of what is found, so it is the same text. It
also does not depend on where tables stand, on their colors and descriptions, or on the ids and
labels of relationships.
-/

namespace SchemaGraph

variable {α β : Type}

/-- New ids for tables, and for the columns of each table. -/
structure Relabeling where
  table : String → String
  column : String → String → String

namespace Relabeling

def place (ρ : Relabeling) (p : Place) : Place := ⟨ρ.table p.table, ρ.column p.table p.column⟩

def columnOf (ρ : Relabeling) (table : String) (c : Column) : Column :=
  { c with id := ρ.column table c.id }

/-- A table under its new ids. It may stand elsewhere, and be shown and described differently. -/
structure OfTable (ρ : Relabeling) (t : Table α) (t' : Table β) : Prop where
  id : t'.id = ρ.table t.id
  name : t'.name = t.name
  columns : t'.columns = t.columns.map (ρ.columnOf t.id)

/-- A relationship between the new ids. Its own id and its label may be any. -/
structure OfRelationship (ρ : Relabeling) (r r' : Relationship) : Prop where
  source : r'.sourcePlace = ρ.place r.sourcePlace
  target : r'.targetPlace = ρ.place r.targetPlace

structure OfState (ρ : Relabeling) (s : State α) (s' : State β) : Prop where
  tables : List.Forall₂ ρ.OfTable s.tables s'.tables
  relationships : List.Forall₂ ρ.OfRelationship s.relationships s'.relationships
  dialect : s'.dialect = s.dialect

end Relabeling

/-- An id by which a schema or a selection speaks of a table. -/
def State.MentionsTable (s : State α) (selection : Option (List String)) (id : String) : Prop :=
  id ∈ s.tables.map (·.id) ∨ (∃ r ∈ s.relationships, id = r.source ∨ id = r.target) ∨
    ∃ ids ∈ selection, id ∈ ids

/-- A place at which a schema has a column, or at which a relationship ends. -/
def State.MentionsColumn (s : State α) (p : Place) : Prop :=
  (∃ t ∈ s.tables, t.id = p.table ∧ p.column ∈ t.columns.map (·.id)) ∨
    ∃ r ∈ s.relationships, p = r.sourcePlace ∨ p = r.targetPlace

/-- Different ids in use stay different: those of tables, and those of columns of one table. -/
structure Relabeling.InjectiveOn (ρ : Relabeling) (s : State α)
    (selection : Option (List String)) : Prop where
  tables : Set.InjOn ρ.table {id | s.MentionsTable selection id}
  columns : ∀ table, Set.InjOn (ρ.column table) {id | s.MentionsColumn ⟨table, id⟩}

namespace Relabeling

variable {ρ : Relabeling} {s : State α} {s' : State β} {selection : Option (List String)}
  {t u : Table α} {t' u' : Table β} {r r' : Relationship} {c d : Column}

/-- New ids that are different for different ids can be given in any schema. -/
theorem injectiveOn (tables : Function.Injective ρ.table)
    (columns : ∀ table, Function.Injective (ρ.column table)) : ρ.InjectiveOn s selection :=
  ⟨tables.injOn, fun table => (columns table).injOn⟩

/-- A table is created by the same statement. -/
theorem OfTable.createTable_eq (h : ρ.OfTable t t') (style : Config.StatementStyle)
    (indent : String) : Ddl.createTable style indent t' = Ddl.createTable style indent t := by
  have definitions : t'.columns.map Ddl.columnDefinition = t.columns.map Ddl.columnDefinition := by
    rw [h.columns, List.map_map]
    rfl
  unfold Ddl.createTable
  rw [definitions, h.name]

theorem OfTable.names_eq (h : ρ.OfTable t t') : t'.names = t.names := by
  rw [Table.names, Table.names, h.name, h.columns, List.map_map]
  rfl

/-- Validation looks at names only. -/
theorem isBlocked_eq {tables : List (Table α)} {tables' : List (Table β)}
    (h : List.Forall₂ ρ.OfTable tables tables') :
    Validation.isBlocked (Validation.issues tables') =
      Validation.isBlocked (Validation.issues tables) := by
  have names := map_eq_map_iff.mpr (h.imp fun _ _ ht => ht.names_eq.symm)
  have named : Table.AllNamed tables' ↔ Table.AllNamed tables := by
    rw [Table.allNamed_iff, Table.allNamed_iff, names]
  rw [← Validation.isBlocked_issues_eq_false_iff, ← Validation.isBlocked_issues_eq_false_iff]
    at named
  rwa [Bool.eq_iff_iff, ← not_iff_not, Bool.not_eq_true, Bool.not_eq_true]

section Injective

variable (h : ρ.OfState s s') (injective : ρ.InjectiveOn s selection)

include h injective

/-- The tables that are selected by their new ids are those that were selected before. -/
theorem ofTable_select :
    List.Forall₂ (fun t t' => t ∈ s.tables ∧ ρ.OfTable t t') (Table.select selection s.tables)
      (Table.select (selection.map (·.map ρ.table)) s'.tables) := by
  rw [Table.select_eq_filter, Table.select_eq_filter]
  have members : List.Forall₂ (fun t t' => t ∈ s.tables ∧ ρ.OfTable t t') s.tables s'.tables :=
    (List.forall₂_and_left _ _).mpr ⟨fun _ ht => ht, h.tables⟩
  refine forall₂_filter (members.imp fun t t' ht => ⟨?_, ht⟩)
  obtain ⟨ht, same⟩ := ht
  cases selection with
  | none => rfl
  | some ids =>
      change ids.contains t.id = (ids.map ρ.table).contains t'.id
      rw [same.id, Bool.eq_iff_iff, List.contains_iff_mem, List.contains_iff_mem]
      refine ⟨fun chosen => List.mem_map_of_mem chosen, fun chosen => ?_⟩
      obtain ⟨id, hid, equal⟩ := List.mem_map.mp chosen
      have mentioned : s.MentionsTable (some ids) id := .inr (.inr ⟨ids, rfl, hid⟩)
      rwa [← injective.tables mentioned (.inl (List.mem_map_of_mem ht)) equal]

/-- A table is found under its new id if it was found under the old one. -/
theorem ofTable_ofId? {id : String} (mentioned : s.MentionsTable selection id) :
    Option.Rel (fun t t' => t ∈ s.tables ∧ ρ.OfTable t t')
      (Table.ofId? (Table.select selection s.tables) id)
      (Table.ofId? (Table.select (selection.map (·.map ρ.table)) s'.tables) (ρ.table id)) := by
  refine find?_rel ((List.forall₂_reverse_iff.mpr (ofTable_select h injective)).imp
    fun t t' ht => ⟨?_, ht⟩)
  rw [ht.2.id, Bool.eq_iff_iff, beq_iff_eq, beq_iff_eq]
  exact ⟨congrArg ρ.table, injective.tables (.inl (List.mem_map_of_mem ht.1)) mentioned⟩

omit h in
/-- In the table of a place, its column is found under the new id if it was found under the old
one. -/
theorem columnOf_column? {p : Place} (mentioned : s.MentionsColumn p) (ht : t ∈ s.tables)
    (same : ρ.OfTable t t') (here : t.id = p.table) :
    Option.Rel (fun c c' => ρ.columnOf t.id c = c') (t.column? p.column)
      (t'.column? (ρ.place p).column) := by
  obtain ⟨table, column⟩ := p
  subst here
  have columns : List.Forall₂ (fun c c' => c ∈ t.columns ∧ ρ.columnOf t.id c = c') t.columns
      t'.columns := by
    rw [same.columns, List.forall₂_map_right_iff]
    exact List.forall₂_same.mpr fun c hc => ⟨hc, rfl⟩
  refine find?_rel (columns.imp fun c c' hc => ⟨?_, hc.2⟩)
  obtain ⟨hc, rfl⟩ := hc
  have own : s.MentionsColumn ⟨t.id, c.id⟩ := .inl ⟨t, ht, rfl, List.mem_map_of_mem hc⟩
  rw [columnOf, place, Bool.eq_iff_iff, beq_iff_eq, beq_iff_eq]
  exact ⟨congrArg _, injective.columns t.id own mentioned⟩

end Injective

end Relabeling

/-- What a constraint is written with: the names of its child and of its parent. -/
def Resolved.names (d : Resolved) : String × String × String × String :=
  (d.childTable, d.childColumn, d.parentTable, d.parentColumn)

namespace Ddl

variable {ds ds' : List Resolved}

theorem firstOfEach_names (seen : List (String × String × String))
    (h : List.Forall₂ (fun d d' => Resolved.names d = Resolved.names d') ds ds') :
    List.Forall₂ (fun d d' => Resolved.names d = Resolved.names d') (firstOfEach seen ds)
      (firstOfEach seen ds') := by
  induction h generalizing seen with
  | nil => exact .nil
  | @cons d d' _ _ same _ ih =>
      have key : d.constraintKey = d'.constraintKey := by
        simp only [Resolved.names, Prod.mk.injEq] at same
        rw [Resolved.constraintKey, Resolved.constraintKey, same.1, same.2.1, same.2.2.1]
      rw [firstOfEach, firstOfEach, key]
      split
      · exact ih seen
      · exact .cons same (ih _)

theorem addConstraint_names (onDelete onUpdate : ReferentialAction) {d d' : Resolved}
    (same : Resolved.names d = Resolved.names d') :
    addConstraint onDelete onUpdate d = addConstraint onDelete onUpdate d' := by
  have childTable : d.childTable = d'.childTable := congrArg (·.1) same
  have childColumn : d.childColumn = d'.childColumn := congrArg (·.2.1) same
  have parentTable : d.parentTable = d'.parentTable := congrArg (·.2.2.1) same
  have parentColumn : d.parentColumn = d'.parentColumn := congrArg (·.2.2.2) same
  unfold addConstraint Resolved.constraintName
  rw [childTable, childColumn, parentTable, parentColumn]

end Ddl

namespace Relabeling

variable {ρ : Relabeling} {s : State α} {s' : State β} {selection : Option (List String)}
  {t u : Table α} {t' u' : Table β} {r r' : Relationship} {c d : Column}

/-- The direction of a foreign key does not depend on ids. -/
theorem names_resolveBetween (source : ρ.OfTable t t') (target : ρ.OfTable u u') :
    (r'.resolveBetween t' (ρ.columnOf t.id c) u' (ρ.columnOf u.id d)).names =
      (r.resolveBetween t c u d).names := by
  have direction : Column.orient (ρ.columnOf t.id c) (ρ.columnOf u.id d) (some t.name)
      (some u.name) = Column.orient c d (some t.name) (some u.name) := rfl
  dsimp only [Relationship.resolveBetween]
  rw [source.name, target.name, direction]
  split <;> rfl

section Injective

variable (h : ρ.OfState s s') (injective : ρ.InjectiveOn s selection)

include h injective

/-- A relationship resolves under its new ids as it did before, as far as names can tell. -/
theorem names_resolve? (hr : r ∈ s.relationships) (same : ρ.OfRelationship r r') :
    Option.Rel (fun d d' => Resolved.names d = Resolved.names d')
      (r.resolve? (Table.select selection s.tables))
      (r'.resolve? (Table.select (selection.map (·.map ρ.table)) s'.tables)) := by
  have source := ofTable_ofId? h injective (.inr (.inl ⟨r, hr, .inl rfl⟩))
  have target := ofTable_ofId? h injective (.inr (.inl ⟨r, hr, .inr rfl⟩))
  rw [← show r'.source = ρ.table r.source from congrArg Place.table same.source] at source
  rw [← show r'.target = ρ.table r.target from congrArg Place.table same.target] at target
  refine bind_rel source fun t t' foundSource ⟨ht, sameSource⟩ => ?_
  refine bind_rel target fun u u' foundTarget ⟨hu, sameTarget⟩ => ?_
  have sourceColumn := columnOf_column? injective (.inr ⟨r, hr, .inl rfl⟩) ht sameSource
    (Table.id_of_ofId? foundSource)
  have targetColumn := columnOf_column? injective (.inr ⟨r, hr, .inr rfl⟩) hu sameTarget
    (Table.id_of_ofId? foundTarget)
  rw [← same.source] at sourceColumn
  rw [← same.target] at targetColumn
  refine bind_rel sourceColumn fun c _ _ hc => ?_
  refine bind_rel targetColumn fun d _ _ hd => ?_
  subst hc hd
  exact .some (names_resolveBetween sameSource sameTarget).symm

theorem names_resolveAll :
    List.Forall₂ (fun d d' => Resolved.names d = Resolved.names d')
      (Relationship.resolveAll (Table.select selection s.tables) s.relationships)
      (Relationship.resolveAll (Table.select (selection.map (·.map ρ.table)) s'.tables)
        s'.relationships) := by
  have members : List.Forall₂ (fun r r' => r ∈ s.relationships ∧ ρ.OfRelationship r r')
      s.relationships s'.relationships :=
    (List.forall₂_and_left _ _).mpr ⟨fun _ hr => hr, h.relationships⟩
  exact List.rel_filterMap (fun _ _ hr => names_resolve? h injective hr.1 hr.2) members

/-- A script under new ids differs only in what it remembers of ids. -/
theorem text_compile (o : Ddl.Options) :
    (Ddl.compile o (Table.select (selection.map (·.map ρ.table)) s'.tables) s'.relationships).text =
      (Ddl.compile o (Table.select selection s.tables) s.relationships).text := by
  have creates := map_eq_map_iff.mpr ((ofTable_select h injective).imp fun _ _ ht =>
    (ht.2.createTable_eq o.style o.indent).symm)
  have kept := Ddl.firstOfEach_names [] (names_resolveAll h injective)
  have constraints := map_eq_map_iff.mpr (kept.imp fun _ _ same =>
    Ddl.addConstraint_names o.onDelete o.onUpdate same)
  simp only [Ddl.Script.text, Ddl.compile, Ddl.foreignKeys_eq, creates, constraints]

/-- An export under new ids gives the same text or, like before, none. It does not matter where
tables stand and how they are shown and described, and how relationships are called. -/
theorem exportSchema_sql (settings : Except Failure Config.Compilation) (o : Ddl.ExportOptions) :
    (Ddl.exportSchema settings o (selection.map (·.map ρ.table)) s').map (·.sql) =
      (Ddl.exportSchema settings o selection s).map (·.sql) := by
  have selected := (ofTable_select h injective).imp fun _ _ ht => ht.2
  have blocked := isBlocked_eq selected
  cases passes : Validation.isBlocked (Validation.issues (Table.select selection s.tables)) with
  | true =>
      rw [passes] at blocked
      simp only [Ddl.exportSchema, passes, blocked]
      rfl
  | false =>
      rw [passes] at blocked
      rw [Ddl.exportSchema_of_passes passes, Ddl.exportSchema_of_passes blocked, h.dialect]
      cases (o.request (o.dialect.getD s.dialect)).options settings with
      | error f => rfl
      | ok options =>
          exact congrArg (fun text => Except.ok (some text)) (text_compile h injective options)

end Injective

/-- The tables of orders are moved and painted, and all ids are new. -/
theorem exportSchema_sql_orders :
    let ρ : Relabeling := ⟨("table " ++ ·), fun table column => table ++ "." ++ column⟩
    let s := State.orders Position.origin
    let s' : State Float :=
      { s with
        tables := s.tables.map fun t =>
          { id := ρ.table t.id, name := t.name, columns := t.columns.map (ρ.columnOf t.id)
            position := ⟨40.0, 60.0⟩, color := some "#112233", description := some "moved" }
        relationships := s.relationships.map fun r =>
          { id := "edge " ++ r.id, source := ρ.table r.source, target := ρ.table r.target
            sourceColumn := ρ.column r.source r.sourceColumn
            targetColumn := ρ.column r.target r.targetColumn, label := some "is of" } }
    ρ.OfState s s' ∧ ρ.InjectiveOn s (some ["t2"]) ∧
      ∀ settings o, (Ddl.exportSchema settings o (some [ρ.table "t2"]) s').map (·.sql) =
        (Ddl.exportSchema settings o (some ["t2"]) s).map (·.sql) := by
  intro ρ s s'
  have state : ρ.OfState s s' :=
    { tables := List.forall₂_map_right_iff.mpr (List.forall₂_same.mpr fun _ _ => ⟨rfl, rfl, rfl⟩)
      relationships :=
        List.forall₂_map_right_iff.mpr (List.forall₂_same.mpr fun _ _ => ⟨rfl, rfl⟩)
      dialect := rfl }
  have injective : ρ.InjectiveOn s (some ["t2"]) :=
    injectiveOn (fun _ _ same => (String.append_right_inj _).mp same)
      fun _ _ _ same => (String.append_right_inj _).mp same
  have same := exportSchema_sql state injective
  exact ⟨state, injective, same⟩

end Relabeling

end SchemaGraph
