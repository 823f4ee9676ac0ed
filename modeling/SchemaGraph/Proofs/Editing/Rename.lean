import SchemaGraph.Proofs.Editing.Linked
import SchemaGraph.Proofs.Relationship.Between

/-!
# Renaming and the direction of foreign keys

References are by name, and renaming rewrites none that other columns hold. So a new name may leave
a reference behind that named a table or a column under the old one, and it may be what another
reference was waiting for. Ends of edges are by id: every edge stays between its two columns. Which
of them is the child is decided anew, first by who alone references whom, under the new names, and
then by the key flags and the drawn direction, which a new name does not touch.
-/

namespace SchemaGraph

variable {α : Type} {tables : List (Table α)}

/-- The reference of a column, if it has one, names a table. -/
def Column.NamesTable (c : Column) : Prop :=
  ∀ ref ∈ c.references, Text.allBlank ref.table = false

namespace Editing

/-- A new name for a table, or for a column and nothing else of it. -/
inductive Rename where
  | table (id name : String)
  | column (owner id name : String)

namespace Rename

def run (new : Rename) (s : State α) : Except Failure (State α) :=
  match new with
  | .table id name => renameTable id name s
  | .column owner id name => updateColumn owner id (.valid { name := some name }) s

/-- The name of a table afterwards. -/
def tableName (new : Rename) (t : Table α) : String :=
  match new with
  | .table id name => if t.id = id then name else t.name
  | .column .. => t.name

/-- The column at a place afterwards. Whatever is renamed is put into the form in which it is
stored, with all columns of a table. -/
def columnAt (new : Rename) (p : Place) (c : Column) : Column :=
  match new with
  | .table id _ => if p.table = id then c.normal else c
  | .column owner id name => if p = ⟨owner, id⟩ then { c.normal with name } else c

def tableOf (new : Rename) (t : Table α) : Table α :=
  { t.mapColumns new.columnAt with name := new.tableName t }

theorem columnAt_id (new : Rename) (p : Place) (c : Column) : (new.columnAt p c).id = c.id := by
  unfold columnAt
  cases new <;> dsimp only <;> split <;> rfl

variable {new : Rename} {s s' : State α}

/-- A new name is written in its place, and nothing else is changed. -/
theorem run_ok (h : new.run s = .ok s') (tableIds : (s.tables.map (·.id)).Nodup)
    (columnIds : ∀ t ∈ s.tables, (t.columns.map (·.id)).Nodup) :
    s' = { s with tables := s.tables.map new.tableOf } := by
  cases new with
  | table id name =>
      obtain ⟨t, c, ht, hc, rfl⟩ := updateTable_ok h
      cases hc
      have elsewhere (u : Table α) (other : u.id ≠ id) : (table id name).tableOf u = u := by
        simp [tableOf, tableName, columnAt, Table.mapColumns, other]
      have here : (table id name).tableOf t = TableChange.apply { name := some name } t := by
        simp [tableOf, tableName, columnAt, Table.mapColumns, TableChange.apply,
          State.id_of_table? ht]
      rw [← here, State.replaceTable_eq_map tableIds ht elsewhere]
  | column owner id name =>
      obtain ⟨t, old, c, ht, hold, hc, rfl⟩ := updateColumn_ok h
      cases hc
      have distinct := columnIds t (State.mem_of_table? ht)
      obtain ⟨isOld, oldId⟩ := (find?_eq_some_iff_of_nodup distinct).mp hold
      have elsewhere (u : Table α) (other : u.id ≠ owner) :
          (column owner id name).tableOf u = u := by
        simp [tableOf, tableName, columnAt, Table.mapColumns, other]
      have here : (column owner id name).tableOf t = { t with
          columns := t.columns.map fun d =>
            if d.id == id then ColumnChange.apply { name := some name } old else d } := by
        simp only [tableOf, tableName, Table.mapColumns, Table.mk.injEq, true_and, and_true]
        refine List.map_congr_left fun d hd => ?_
        rw [columnAt, State.id_of_table? ht]
        by_cases same : d.id = id
        · obtain rfl : d = old := List.inj_on_of_nodup_map distinct hd isOld (same.trans oldId.symm)
          simp [same, ColumnChange.apply]
        · simp [same]
      rw [← here, State.replaceTable_eq_map tableIds ht elsewhere]

variable {r : Relationship}

theorem holds_tableOf {p : Place} {t : Table α} {c : Column} (h : p.Holds tables t c) :
    p.Holds (tables.map new.tableOf) (new.tableOf t) (new.columnAt p c) := by
  have columns (t : Table α) : (new.tableOf t).columns = (t.mapColumns new.columnAt).columns := rfl
  have ids (t : Table α) : (new.tableOf t).id = t.id := rfl
  exact (Place.holds_map_iff ids columns new.columnAt_id).mpr ⟨t, c, h, rfl, rfl⟩

/-- The ends of an edge afterwards. -/
def ends (new : Rename) (e : r.Between tables) : r.Between (tables.map new.tableOf) where
  source := new.tableOf e.source
  sourceColumn := new.columnAt r.sourcePlace e.sourceColumn
  target := new.tableOf e.target
  targetColumn := new.columnAt r.targetPlace e.targetColumn
  atSource := holds_tableOf e.atSource
  atTarget := holds_tableOf e.atTarget

/-- A new name changes no flag, and it drops no reference that names a table. -/
theorem flags_columnAt (new : Rename) {c : Column} (p : Place) (named : c.NamesTable) :
    (new.columnAt p c).actsAsForeignKey = c.actsAsForeignKey ∧
      (new.columnAt p c).isPrimaryKey = c.isPrimaryKey := by
  have kept : c.references.bind Column.keptReference = c.references := by
    cases h : c.references with
    | none => rfl
    | some ref => simp [Column.keptReference, named ref h]
  unfold Column.actsAsForeignKey columnAt
  cases new <;> dsimp only <;> split <;> simp [Column.normal, kept]

theorem sourceByKeys_ends (e : r.Between tables) (source : e.sourceColumn.NamesTable)
    (target : e.targetColumn.NamesTable) : (new.ends e).sourceByKeys = e.sourceByKeys := by
  obtain ⟨sourceForeign, sourcePrimary⟩ := new.flags_columnAt r.sourcePlace source
  obtain ⟨targetForeign, targetPrimary⟩ := new.flags_columnAt r.targetPlace target
  simp only [Relationship.Between.sourceByKeys, Column.sourceByKeys, ends, sourceForeign,
    sourcePrimary, targetForeign, targetPrimary]

/-- A new name leaves every relationship between its two columns. The child stays the child exactly
if it is at the same end as before. The end that alone references the other one is the child, and if
there is none the key flags and the drawn direction say which it is. These say what they said
before, unless the new name drops a reference to a table without a name. -/
theorem keeps_child_iff (h : new.run s = .ok s') (tableIds : (s.tables.map (·.id)).Nodup)
    (columnIds : ∀ t ∈ s.tables, (t.columns.map (·.id)).Nodup) (closed : s.NoneDangles) :
    s'.relationships = s.relationships ∧ ∀ r ∈ s.relationships, ∃ e : r.Between s.tables,
      r.resolve? s.tables = some e.resolved ∧
      r.resolve? s'.tables = some (new.ends e).resolved ∧
      ((new.ends e).resolved.signature = e.resolved.signature ∨
        (new.ends e).resolved.signature = e.resolved.parent.place.pair e.resolved.child.place) ∧
      ((new.ends e).resolved.signature = e.resolved.signature ↔
        (new.ends e).pointing?.getD (new.ends e).sourceByKeys = e.pointing?.getD e.sourceByKeys) ∧
      (e.sourceColumn.NamesTable → e.targetColumn.NamesTable →
        (new.ends e).sourceByKeys = e.sourceByKeys) := by
  obtain rfl := run_ok h tableIds columnIds
  refine ⟨rfl, fun r hr => ?_⟩
  obtain ⟨e⟩ := Relationship.exists_between tableIds closed hr
  exact ⟨e, e.resolve?_eq, (new.ends e).resolve?_eq, e.signature_eq_or_swapped _,
    e.signature_eq_iff _, sourceByKeys_ends e⟩

theorem keeps_child_iff_orders :
    let s := State.orders Position.origin
    s.WellLinked ∧ (∀ t ∈ s.tables, (t.columns.map (·.id)).Nodup) ∧
      ∃ s', (table "t1" "clients").run s = .ok s' ∧ ∀ r ∈ s.relationships, ∃ k k',
        r.resolve? s.tables = some k ∧ r.resolve? s'.tables = some k' ∧
          (k'.signature = k.signature ∨ k'.signature = k.parent.place.pair k.child.place) := by
  intro s
  have linked : s.WellLinked := State.orders_wellLinked _
  have columnIds : ∀ t ∈ s.tables, (t.columns.map (·.id)).Nodup := by decide
  have success : (table "t1" "clients").run s = .ok _ := rfl
  obtain ⟨-, keeps⟩ := keeps_child_iff success linked.tableIds columnIds linked.ends
  refine ⟨linked, columnIds, _, success, fun r hr => ?_⟩
  obtain ⟨e, before, after, sameEnds, -⟩ := keeps r hr
  exact ⟨_, _, before, after, sameEnds⟩

/-- A chain of references, of which the last one lies on a key. -/
def audits (corner : Position α) : State α where
  tables := [
    { id := "c", name := "carts", position := corner
      columns := [{ id := "c1", name := "id", dataType := "INT", isPrimaryKey := true }] },
    { id := "b", name := "baskets", position := corner
      columns := [{ id := "b1", name := "cart_id", dataType := "INT"
                    references := some ⟨"carts", "id"⟩ }] },
    { id := "a", name := "audits", position := corner
      columns := [{ id := "a1", name := "cart_id", dataType := "INT", isPrimaryKey := true
                    references := some ⟨"baskets", "cart_id"⟩ }] }]
  relationships := [
    { id := "r1", source := "b", target := "c", sourceColumn := "b1", targetColumn := "c1" },
    { id := "r2", source := "a", target := "b", sourceColumn := "a1", targetColumn := "b1" }]

/-- The reference to the renamed table is left behind, and the key becomes the parent. -/
theorem reverses_audits :
    let s := audits Position.origin
    (s.tables.map (·.id)).Nodup ∧ (∀ t ∈ s.tables, (t.columns.map (·.id)).Nodup) ∧
      s.NoneDangles ∧ ∃ s', (table "b" "bags").run s = .ok s' ∧ ∃ r ∈ s.relationships,
        (r.resolve? s.tables).map Resolved.signature = some ["a", "a1", "b", "b1"] ∧
        (r.resolve? s'.tables).map Resolved.signature = some ["b", "b1", "a", "a1"] := by
  intro s
  have tableIds : (s.tables.map (·.id)).Nodup := by decide
  have closed : s.NoneDangles := by
    intro r hr
    rw [← Relationship.isAnchored_iff tableIds]
    revert r
    decide
  refine ⟨tableIds, by decide, closed, _, rfl, _, List.mem_cons_of_mem _ List.mem_cons_self, ?_⟩
  decide

end Rename

end Editing
end SchemaGraph
