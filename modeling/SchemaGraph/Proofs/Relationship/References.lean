import SchemaGraph.Proofs.Relationship.Ends

/-!
# Columns that reference one another

A reference names a table and a column, up to case. Where names tell tables and columns apart it
means one column at most. An edge between two columns is resolved by who references whom: if one of
them alone references the other, it is the child, and otherwise the key flags and at last the drawn
direction decide.

Columns are told apart by their place, which edits of names, flags and references leave as it is.
-/

namespace SchemaGraph

variable {α : Type} {tables : List (Table α)}

/-- The tables differ in their ids and, up to case, in their names, and so do the columns of each
table. -/
structure Table.Distinct (tables : List (Table α)) : Prop where
  tableIds : (tables.map (·.id)).Nodup
  tableNames : (tables.map fun t => Text.lower t.name).Nodup
  columnIds : ∀ t ∈ tables, (t.columns.map (·.id)).Nodup
  columnNames : ∀ t ∈ tables, (t.columns.map fun c => Text.lower c.name).Nodup

/-- Where a column is: the id of its table and its own id. -/
structure Place where
  table : String
  column : String
  deriving DecidableEq

namespace Place

variable {p : Place} {t u : Table α} {c d : Column}

/-- What is looked up at a place. -/
def Holds (p : Place) (tables : List (Table α)) (t : Table α) (c : Column) : Prop :=
  Table.ofId? tables p.table = some t ∧ t.column? p.column = some c

theorem Holds.unique (h : p.Holds tables t c) (h' : p.Holds tables u d) : t = u ∧ c = d := by
  obtain ⟨ht, hc⟩ := h
  obtain ⟨hu, hd⟩ := h'
  obtain rfl : t = u := Option.some.inj (ht.symm.trans hu)
  exact ⟨rfl, Option.some.inj (hc.symm.trans hd)⟩

theorem Holds.mem (h : p.Holds tables t c) : t ∈ tables ∧ c ∈ t.columns :=
  ⟨Table.mem_of_ofId? h.1, Table.mem_of_column? h.2⟩

theorem Holds.eq (h : p.Holds tables t c) : (⟨t.id, c.id⟩ : Place) = p := by
  rw [Table.id_of_ofId? h.1, Table.id_of_column? h.2]

/-- The ids of an edge's two ends or of a foreign key, in the order of its signature. -/
def pair (p q : Place) : List String := [p.table, p.column, q.table, q.column]

theorem pair_inj {p q p' q' : Place} : p.pair q = p'.pair q' ↔ p = p' ∧ q = q' := by
  cases p
  cases q
  cases p'
  cases q'
  simp [pair, and_assoc]

end Place

/-- Change the columns of a table, each in a way that depends on its place. -/
def Table.mapColumns (g : Place → Column → Column) (t : Table α) : Table α :=
  { t with columns := t.columns.map fun c => g ⟨t.id, c.id⟩ c }

@[simp] theorem Table.mapColumns_id (g : Place → Column → Column) (t : Table α) :
    (t.mapColumns g).id = t.id := rfl

@[simp] theorem Table.mapColumns_name (g : Place → Column → Column) (t : Table α) :
    (t.mapColumns g).name = t.name := rfl

section Changed

variable {f : Table α → Table α} {g : Place → Column → Column}

theorem Table.column?_mapColumns (ids : ∀ p c, (g p c).id = c.id) (t : Table α) (id : String) :
    (t.mapColumns g).column? id = (t.column? id).map (g ⟨t.id, id⟩) := by
  rw [column?, mapColumns, List.find?_map]
  simp only [Function.comp_def, ids]
  refine Option.map_congr fun c hc => ?_
  rw [id_of_column? hc]

/-- Where tables and columns are changed but keep their ids, places hold what they held before, as
it was changed. -/
theorem Place.holds_map_iff {p : Place} {t' : Table α} {c' : Column} (id : ∀ t, (f t).id = t.id)
    (columns : ∀ t, (f t).columns = (t.mapColumns g).columns) (ids : ∀ p c, (g p c).id = c.id) :
    p.Holds (tables.map f) t' c' ↔ ∃ t c, p.Holds tables t c ∧ f t = t' ∧ g p c = c' := by
  have found : Table.ofId? (tables.map f) p.table = (Table.ofId? tables p.table).map f := by
    rw [Table.ofId?, ← List.map_reverse, List.find?_map]
    simp only [Function.comp_def, id]
    rfl
  have column (t : Table α) (name : String) :
      (f t).column? name = (t.column? name).map (g ⟨t.id, name⟩) := by
    rw [← Table.column?_mapColumns ids, Table.column?, columns]
    rfl
  simp only [Place.Holds, found, Option.map_eq_some_iff]
  constructor
  · rintro ⟨⟨t, ht, rfl⟩, hc⟩
    rw [column, Option.map_eq_some_iff, Table.id_of_ofId? ht] at hc
    obtain ⟨c, hc, rfl⟩ := hc
    exact ⟨t, c, ⟨ht, hc⟩, rfl, rfl⟩
  · rintro ⟨t, c, ⟨ht, hc⟩, rfl, rfl⟩
    refine ⟨⟨t, ht, rfl⟩, ?_⟩
    rw [column, hc, Table.id_of_ofId? ht]
    rfl

end Changed

namespace Table.Distinct

variable {t u : Table α} {c d : Column}

theorem holds (distinct : Distinct tables) (ht : t ∈ tables) (hc : c ∈ t.columns) :
    Place.Holds ⟨t.id, c.id⟩ tables t c :=
  ⟨ofId?_eq_some_of_mem distinct.tableIds ht,
    (find?_eq_some_iff_of_nodup (distinct.columnIds t ht)).mpr ⟨hc, rfl⟩⟩

/-- A name means the one table that has it, however it is written. -/
theorem named?_eq_some_iff (distinct : Distinct tables) {name : String} :
    named? tables name = some t ↔ t ∈ tables ∧ Text.lower t.name = Text.lower name :=
  find?_eq_some_iff_of_nodup distinct.tableNames

theorem columnNamed?_eq_some_iff (distinct : Distinct tables) (ht : t ∈ tables) {name : String} :
    t.columnNamed? name = some c ↔ c ∈ t.columns ∧ Text.lower c.name = Text.lower name :=
  find?_eq_some_iff_of_nodup (distinct.columnNames t ht)

/-- Names tell tables, and the columns of a table, apart. -/
theorem eq_of_names (distinct : Distinct tables) (ht : t ∈ tables) (hc : c ∈ t.columns)
    (hu : u ∈ tables) (hd : d ∈ u.columns) (sameTable : Text.lower t.name = Text.lower u.name)
    (sameColumn : Text.lower c.name = Text.lower d.name) : t = u ∧ c = d := by
  obtain rfl : t = u := List.inj_on_of_nodup_map distinct.tableNames ht hu sameTable
  exact ⟨rfl, List.inj_on_of_nodup_map (distinct.columnNames t ht) hc hd sameColumn⟩

end Table.Distinct

namespace Column

variable {source target : Column} {sourceTable targetTable : String}

theorem pointsAt_iff {c d : Column} {table : String} :
    c.pointsAt (some table) d = true ↔
      ∃ r, c.references = some r ∧ Text.lower r.table = Text.lower table ∧
        Text.lower r.column = Text.lower d.name := by
  unfold pointsAt
  cases c.references <;> simp

theorem actsAsForeignKey_of_references {c : Column} {r : ColumnReference}
    (h : c.references = some r) : c.actsAsForeignKey = true := by
  simp [actsAsForeignKey, h]

/-- Whether the source is the one that alone references the other end, if one of the two does. -/
def pointing? (source target : Column) (sourceTable targetTable : String) : Option Bool :=
  match source.pointsAt (some targetTable) target, target.pointsAt (some sourceTable) source with
  | true, false => some true
  | false, true => some false
  | _, _ => none

/-- Whether the key flags, or else the drawn direction, make the source the child. -/
def sourceByKeys (source target : Column) : Bool :=
  match source.actsAsForeignKey, target.actsAsForeignKey with
  | true, false => true
  | false, true => false
  | _, _ => !source.isPrimaryKey || target.isPrimaryKey

theorem childIsSource_orient :
    (orient source target (some sourceTable) (some targetTable)).childIsSource =
      (pointing? source target sourceTable targetTable).getD (sourceByKeys source target) := by
  unfold orient pointing? sourceByKeys
  cases source.pointsAt (some targetTable) target <;>
    cases target.pointsAt (some sourceTable) source <;>
    cases source.actsAsForeignKey <;> cases target.actsAsForeignKey <;>
    cases source.isPrimaryKey <;> cases target.isPrimaryKey <;> rfl

theorem actsAsForeignKey_of_pointsAt {c d : Column} {table : String}
    (h : c.pointsAt (some table) d = true) : c.actsAsForeignKey = true := by
  obtain ⟨r, hr, -⟩ := pointsAt_iff.mp h
  exact actsAsForeignKey_of_references hr

/-- A column that references the other end is the child, unless it is referenced in turn and it
alone is a primary key. -/
theorem childIsSource_orient_iff (points : source.pointsAt (some targetTable) target = true) :
    (orient source target (some sourceTable) (some targetTable)).childIsSource = true ↔
      ¬ (target.pointsAt (some sourceTable) source = true ∧ source.isPrimaryKey = true ∧
        target.isPrimaryKey = false) := by
  rw [childIsSource_orient, pointing?, points]
  cases back : target.pointsAt (some sourceTable) source with
  | false => simp
  | true =>
      have foreign := actsAsForeignKey_of_pointsAt points
      have foreign' := actsAsForeignKey_of_pointsAt back
      simp [sourceByKeys, foreign, foreign', imp_iff_not_or]

end Column

namespace Resolved

/-- The end of an edge at a column of a table. -/
def End.of (t : Table α) (c : Column) : End := ⟨t.id, t.name, c.id, c.name⟩

/-- The end at a column is the end at no other one. -/
theorem End.of_inj {t u : Table α} {c d : Column} (distinct : Table.Distinct tables)
    (ht : t ∈ tables) (hc : c ∈ t.columns) (hu : u ∈ tables) (hd : d ∈ u.columns)
    (same : End.of t c = End.of u d) : t = u ∧ c = d := by
  have table : t.name = u.name := congrArg End.table same
  have column : c.name = d.name := congrArg End.column same
  exact distinct.eq_of_names ht hc hu hd (by rw [table]) (by rw [column])

def End.place (e : End) : Place := ⟨e.tableId, e.columnId⟩

theorem End.IsIn.holds {e : End} (h : e.IsIn tables) :
    ∃ t c, e.place.Holds tables t c ∧ t.name = e.table ∧ c.name = e.column := by
  obtain ⟨t, ht, table, c, hc, column⟩ := h
  exact ⟨t, c, ⟨ht, hc⟩, table, column⟩

/-- What is at a place is what its ids and names say. -/
theorem End.IsIn.eq_of_place {e e' : End} (h : e.IsIn tables) (h' : e'.IsIn tables)
    (same : e.place = e'.place) : e = e' := by
  have tableId : e.tableId = e'.tableId := congrArg Place.table same
  have columnId : e.columnId = e'.columnId := congrArg Place.column same
  have table := h.table_eq h' tableId
  have column := h.column_eq h' tableId columnId
  cases e
  cases e'
  simp_all

theorem signature_eq_pair (k : Resolved) : k.signature = k.child.place.pair k.parent.place := rfl

end Resolved

namespace Relationship

open Resolved

variable {r : Relationship} {t u : Table α} {c d : Column} {p q : Place} {k : Resolved}

def sourcePlace (r : Relationship) : Place := ⟨r.source, r.sourceColumn⟩

def targetPlace (r : Relationship) : Place := ⟨r.target, r.targetColumn⟩

/-- The edge runs between two places, in one direction or the other. -/
def Joins (r : Relationship) (p q : Place) : Prop :=
  (r.sourcePlace = p ∧ r.targetPlace = q) ∨ (r.sourcePlace = q ∧ r.targetPlace = p)

theorem Joins.eq_or_swapped {p' q' : Place} (h : r.Joins p q) (h' : r.Joins p' q') :
    (p' = p ∧ q' = q) ∨ (p' = q ∧ q' = p) := by
  rcases h with ⟨rfl, rfl⟩ | ⟨rfl, rfl⟩ <;> rcases h' with ⟨rfl, rfl⟩ | ⟨rfl, rfl⟩
  · exact .inl ⟨rfl, rfl⟩
  · exact .inr ⟨rfl, rfl⟩
  · exact .inr ⟨rfl, rfl⟩
  · exact .inl ⟨rfl, rfl⟩

theorem Joins.other_eq {q' : Place} (h : r.Joins p q) (h' : r.Joins p q') : q' = q := by
  rcases h.eq_or_swapped h' with ⟨-, same⟩ | ⟨loop, same⟩
  · exact same
  · exact same.trans loop

theorem resolve?_of_holds (source : r.sourcePlace.Holds tables t c)
    (target : r.targetPlace.Holds tables u d) :
    r.resolve? tables = some (r.resolveBetween t c u d) :=
  resolve?_eq_some_iff.mpr ⟨t, u, c, d, source.1, target.1, source.2, target.2, rfl⟩

theorem exists_holds_of_resolve? (h : r.resolve? tables = some k) :
    ∃ t c u d, r.sourcePlace.Holds tables t c ∧ r.targetPlace.Holds tables u d ∧
      k = r.resolveBetween t c u d := by
  obtain ⟨t, u, c, d, ht, hu, hc, hd, rfl⟩ := resolve?_eq_some_iff.mp h
  exact ⟨t, c, u, d, ⟨ht, hc⟩, ⟨hu, hd⟩, rfl⟩

theorem exists_resolve?_iff_holds : (∃ k, r.resolve? tables = some k) ↔
    (∃ t c, r.sourcePlace.Holds tables t c) ∧ ∃ u d, r.targetPlace.Holds tables u d := by
  constructor
  · rintro ⟨k, resolves⟩
    obtain ⟨t, c, u, d, source, target, -⟩ := exists_holds_of_resolve? resolves
    exact ⟨⟨t, c, source⟩, u, d, target⟩
  · rintro ⟨⟨t, c, source⟩, u, d, target⟩
    exact ⟨_, resolve?_of_holds source target⟩

theorem ends_of_childIsSource
    (h : (Column.orient c d (some t.name) (some u.name)).childIsSource = true) :
    (r.resolveBetween t c u d).child = .of t c ∧ (r.resolveBetween t c u d).parent = .of u d := by
  simp [resolveBetween, h, child, parent, End.of]

theorem ends_of_childIsTarget
    (h : (Column.orient c d (some t.name) (some u.name)).childIsSource = false) :
    (r.resolveBetween t c u d).child = .of u d ∧ (r.resolveBetween t c u d).parent = .of t c := by
  simp [resolveBetween, h, child, parent, End.of]

/-- A resolved edge has the ends of the edge. -/
theorem joins_of_resolve? (h : r.resolve? tables = some k) :
    r.Joins k.child.place k.parent.place := by
  obtain ⟨t, c, u, d, hp, hq, rfl⟩ := exists_holds_of_resolve? h
  cases direction : (Column.orient c d (some t.name) (some u.name)).childIsSource with
  | true =>
      obtain ⟨child, parent⟩ := ends_of_childIsSource (r := r) direction
      rw [child, parent]
      exact .inl ⟨hp.eq.symm, hq.eq.symm⟩
  | false =>
      obtain ⟨child, parent⟩ := ends_of_childIsTarget (r := r) direction
      rw [child, parent]
      exact .inr ⟨hp.eq.symm, hq.eq.symm⟩

/-- Wherever an edge is resolved, it is the same foreign key or has child and parent swapped. -/
theorem signature_eq_or_swapped {tables' : List (Table α)} {k' : Resolved}
    (before : r.resolve? tables = some k) (after : r.resolve? tables' = some k') :
    k'.signature = k.signature ∨ k'.signature = k.parent.place.pair k.child.place := by
  rw [signature_eq_pair, signature_eq_pair, Place.pair_inj, Place.pair_inj]
  exact (joins_of_resolve? before).eq_or_swapped (joins_of_resolve? after)

/-- It is the same one if it has the same child. -/
theorem signature_eq_iff_child_eq {tables' : List (Table α)} {k' : Resolved}
    (before : r.resolve? tables = some k) (after : r.resolve? tables' = some k') :
    k'.signature = k.signature ↔ k'.child.place = k.child.place := by
  rw [signature_eq_pair, signature_eq_pair, Place.pair_inj]
  refine ⟨And.left, fun same => ⟨same, ?_⟩⟩
  have joins := joins_of_resolve? after
  rw [same] at joins
  exact (joins_of_resolve? before).other_eq joins

theorem child_eq_of_loop (resolves : r.resolve? tables = some k) (loop : r.Joins p p) :
    k.child.place = p := by
  obtain ⟨source, target⟩ : r.sourcePlace = p ∧ r.targetPlace = p := or_self_iff.mp loop
  rcases joins_of_resolve? resolves with ⟨same, -⟩ | ⟨-, same⟩
  · exact same.symm.trans source
  · exact same.symm.trans target

end Relationship

/-- The column at one place references the one at the other by name. -/
def RefersTo (tables : List (Table α)) (p q : Place) : Prop :=
  ∃ t c u d, p.Holds tables t c ∧ q.Holds tables u d ∧ c.pointsAt (some u.name) d = true

theorem RefersTo.pointsAt_iff {p q : Place} {t u : Table α} {c d : Column}
    (hp : p.Holds tables t c) (hq : q.Holds tables u d) :
    RefersTo tables p q ↔ c.pointsAt (some u.name) d = true := by
  constructor
  · rintro ⟨t', c', u', d', hp', hq', points⟩
    obtain ⟨rfl, rfl⟩ := hp.unique hp'
    obtain ⟨rfl, rfl⟩ := hq.unique hq'
    exact points
  · exact fun points => ⟨t, c, u, d, hp, hq, points⟩

/-- An edge whose one end alone references the other, or which joins a column that references itself
to itself, is resolved along the reference. -/
theorem Relationship.resolve?_of_refersTo {r : Relationship} {p q : Place} (joins : r.Joins p q)
    (refers : RefersTo tables p q) (oneWay : RefersTo tables q p → p = q) :
    ∃ k, r.resolve? tables = some k ∧ k.child.place = p ∧ k.parent.place = q := by
  obtain ⟨t, c, u, d, hp, hq, points⟩ := refers
  by_cases back : RefersTo tables q p
  · -- Both directions of a loop on one column name the same two ends.
    obtain rfl := oneWay back
    obtain ⟨source, target⟩ : r.sourcePlace = p ∧ r.targetPlace = p := or_self_iff.mp joins
    have resolved :=
      resolve?_of_holds (r := r) (by rw [source]; exact hp) (by rw [target]; exact hp)
    have ends := joins_of_resolve? resolved
    refine ⟨_, resolved, ?_⟩
    rcases ends with ⟨hs, ht⟩ | ⟨hs, ht⟩
    · exact ⟨hs.symm.trans source, ht.symm.trans target⟩
    · exact ⟨ht.symm.trans target, hs.symm.trans source⟩
  · have alone : d.pointsAt (some t.name) c = false := by
      rwa [RefersTo.pointsAt_iff hq hp, Bool.not_eq_true] at back
    rcases joins with ⟨source, target⟩ | ⟨source, target⟩
    · have direction : (Column.orient c d (some t.name) (some u.name)).childIsSource = true := by
        rw [Column.childIsSource_orient, Column.pointing?, points, alone]
        rfl
      obtain ⟨child, parent⟩ := ends_of_childIsSource (r := r) direction
      refine ⟨_, resolve?_of_holds (by rw [source]; exact hp) (by rw [target]; exact hq), ?_⟩
      rw [child, parent]
      exact ⟨hp.eq, hq.eq⟩
    · have direction : (Column.orient d c (some u.name) (some t.name)).childIsSource = false := by
        rw [Column.childIsSource_orient, Column.pointing?, points, alone]
        rfl
      obtain ⟨child, parent⟩ := ends_of_childIsTarget (r := r) direction
      refine ⟨_, resolve?_of_holds (by rw [source]; exact hq) (by rw [target]; exact hp), ?_⟩
      rw [child, parent]
      exact ⟨hp.eq, hq.eq⟩

/-- An edge between two columns that reference each other, of which one alone is a primary key, has
the other one as its child, against the reference of the key. -/
theorem Relationship.resolve?_of_mutual {r : Relationship} {p q : Place} {t u : Table α}
    {c d : Column} (joins : r.Joins p q) (hp : p.Holds tables t c) (hq : q.Holds tables u d)
    (points : c.pointsAt (some u.name) d = true) (back : d.pointsAt (some t.name) c = true)
    (key : c.isPrimaryKey = true) (noKey : d.isPrimaryKey = false) :
    ∃ k, r.resolve? tables = some k ∧ k.child = .of u d ∧ k.parent = .of t c := by
  rcases joins with ⟨source, target⟩ | ⟨source, target⟩
  · have direction : (Column.orient c d (some t.name) (some u.name)).childIsSource = false := by
      rw [← Bool.not_eq_true, Column.childIsSource_orient_iff points, not_not]
      exact ⟨back, key, noKey⟩
    exact ⟨_, resolve?_of_holds (by rw [source]; exact hp) (by rw [target]; exact hq),
      ends_of_childIsTarget direction⟩
  · have direction : (Column.orient d c (some u.name) (some t.name)).childIsSource = true := by
      rw [Column.childIsSource_orient_iff back, noKey]
      simp
    exact ⟨_, resolve?_of_holds (by rw [source]; exact hq) (by rw [target]; exact hp),
      ends_of_childIsSource direction⟩

end SchemaGraph
