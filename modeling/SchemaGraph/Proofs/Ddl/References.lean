import SchemaGraph.Proofs.Ddl.ForeignKeys
import SchemaGraph.Proofs.Relationship.Derived

/-!
# From stored references to foreign keys

Tables are compiled with the edges that their references give. The foreign key of a reference lies
on the column that stores it, in whatever way references are chained or lead back to their own
table, with one exception. Of two columns that reference each other only one can be the child if
one of them alone is a primary key, and then it is the other one: the reference of the key is lost.
-/

namespace SchemaGraph.Ddl

open Relationship

variable {α : Type} {tables : List (Table α)} {t u : Table α} {c d : Column} {k : Resolved}

/-- The script adds a foreign key from one column to another. -/
def Script.Adds (script : Script) (o : Options) (child parent : Resolved.End) : Prop :=
  ∃ k ∈ script.resolved, k.child = child ∧ k.parent = parent ∧
    addConstraint o.onDelete o.onUpdate k ∈ script.constraints

theorem adds_compile_iff {o : Options} {rs : List Relationship} {child parent : Resolved.End} :
    (compile o tables rs).Adds o child parent ↔
      ∃ k ∈ foreignKeys tables rs, k.child = child ∧ k.parent = parent := by
  constructor
  · rintro ⟨k, hk, isChild, isParent, -⟩
    exact ⟨k, hk, isChild, isParent⟩
  · rintro ⟨k, hk, isChild, isParent⟩
    exact ⟨k, hk, isChild, isParent, List.mem_map_of_mem hk⟩

/-- What is dropped has the names of something that is kept. -/
theorem exists_firstOfEach {seen : List (String × String × String)} {ds : List Resolved}
    (unseen : k.constraintKey ∉ seen) (hk : k ∈ ds) :
    ∃ e ∈ firstOfEach seen ds, e.constraintKey = k.constraintKey := by
  induction ds generalizing seen with
  | nil => cases hk
  | cons d ds ih =>
      rw [firstOfEach]
      rcases List.mem_cons.mp hk with rfl | hk
      · rw [if_neg (by simpa using unseen)]
        exact ⟨k, List.mem_cons_self, rfl⟩
      · split
        · exact ih unseen hk
        · by_cases same : d.constraintKey = k.constraintKey
          · exact ⟨d, List.mem_cons_self, same⟩
          · have stillUnseen : k.constraintKey ∉ d.constraintKey :: seen := by
              simpa using ⟨Ne.symm same, unseen⟩
            obtain ⟨e, he, hkey⟩ := ih stillUnseen hk
            exact ⟨e, List.mem_cons_of_mem _ he, hkey⟩

/-- Foreign keys of one name lie on one column. -/
theorem eq_of_constraintKey {t' : Table α} {c' : Column} {e : Resolved}
    (distinct : Table.Distinct tables) (ht' : t' ∈ tables) (hc' : c' ∈ t'.columns) (ht : t ∈ tables)
    (hc : c ∈ t.columns) (isChild' : e.child = .of t' c') (isChild : k.child = .of t c)
    (same : e.constraintKey = k.constraintKey) : t' = t ∧ c' = c := by
  have sameTable : t'.name = t.name :=
    calc t'.name = e.childTable := (congrArg Resolved.End.table isChild').symm
      _ = k.childTable := congrArg Prod.fst same
      _ = t.name := congrArg Resolved.End.table isChild
  have sameColumn : c'.name = c.name :=
    calc c'.name = e.childColumn := (congrArg Resolved.End.column isChild').symm
      _ = k.childColumn := congrArg (fun key => key.2.2) same
      _ = c.name := congrArg Resolved.End.column isChild
  exact distinct.eq_of_names ht' hc' ht hc (by rw [sameTable]) (by rw [sameColumn])

section Derived

variable (distinct : Table.Distinct tables) (plain : Table.HavePlainIds tables)

include distinct plain

/-- A foreign key lies on a column whose reference means its parent. -/
theorem means_of_mem_foreignKeys (hk : k ∈ foreignKeys tables (derive tables)) :
    ∃ r ∈ derive tables, r.resolve? tables = some k ∧ ∃ t ∈ tables, ∃ c ∈ t.columns, ∃ u d,
      c.Means tables u d ∧ r.Joins ⟨t.id, c.id⟩ ⟨u.id, d.id⟩ ∧
        k.child = .of t c ∧ k.parent = .of u d := by
  obtain ⟨r, hr, resolves⟩ := List.mem_filterMap.mp (foreignKeys_sublist.subset hk)
  exact ⟨r, hr, resolves, means_of_resolve? plain distinct hr resolves⟩

variable (ht : t ∈ tables) (hc : c ∈ t.columns) (hu : u ∈ tables) (hd : d ∈ u.columns)
  (points : c.pointsAt (some u.name) d = true)

include ht hc hu hd points

/-- A key that is referenced by the column that it references is the parent of that column. -/
theorem not_child_of_mutual (back : d.pointsAt (some t.name) c = true)
    (key : c.isPrimaryKey = true) (noKey : d.isPrimaryKey = false)
    (hk : k ∈ foreignKeys tables (derive tables)) : k.child ≠ .of t c := by
  intro isChild
  obtain ⟨r, -, resolves, t', ht', c', hc', u', d', means', joins, isChild', -⟩ :=
    means_of_mem_foreignKeys distinct plain hk
  have same : Resolved.End.of t' c' = .of t c := isChild'.symm.trans isChild
  obtain ⟨rfl, rfl⟩ := Resolved.End.of_inj distinct ht' hc' ht hc same
  obtain ⟨rfl, rfl⟩ := means'.unique (Column.means_of_pointsAt distinct hu hd points)
  -- The edge between the two columns has the other one as its child.
  obtain ⟨e, resolves', other, -⟩ := resolve?_of_mutual joins (distinct.holds ht hc)
    (distinct.holds hu hd) points back key noKey
  obtain rfl : k = e := Option.some.inj (resolves.symm.trans resolves')
  have swapped : Resolved.End.of t' c' = .of u' d' := isChild.symm.trans other
  obtain ⟨-, rfl⟩ := Resolved.End.of_inj distinct ht hc hu hd swapped
  rw [key] at noKey
  cases noKey

/-- Otherwise the column that stores the reference is the child, and no foreign key of another
column takes the name. -/
theorem exists_mem_foreignKeys
    (direction : (Column.orient c d (some t.name) (some u.name)).childIsSource = true) :
    ∃ k ∈ foreignKeys tables (derive tables), k.child = .of t c ∧ k.parent = .of u d := by
  have means := Column.means_of_pointsAt distinct hu hd points
  have isThere : (along t c u d).resolveBetween t c u d ∈ resolveAll tables (derive tables) :=
    List.mem_filterMap.mpr ⟨_, (mem_derive_iff plain).mpr ⟨t, ht, c, hc, u, d, means, rfl⟩,
      resolve?_along distinct ht hc means⟩
  obtain ⟨isSource, -⟩ := ends_of_childIsSource (r := along t c u d) direction
  obtain ⟨e, he, sameNames⟩ := exists_firstOfEach List.not_mem_nil isThere
  rw [← foreignKeys_eq] at he
  obtain ⟨r, -, -, t', ht', c', hc', u', d', means', -, isChild, isParent⟩ :=
    means_of_mem_foreignKeys distinct plain he
  obtain ⟨rfl, rfl⟩ := eq_of_constraintKey distinct ht' hc' ht hc isChild isSource sameNames
  obtain ⟨rfl, rfl⟩ := means'.unique means
  exact ⟨e, he, isChild, isParent⟩

end Derived

/-- The reference of a column becomes a foreign key on that column, unless the column is a primary
key and is referenced in turn by the column that it references, which is none. -/
theorem adds_derived_iff (distinct : Table.Distinct tables) (plain : Table.HavePlainIds tables)
    (ht : t ∈ tables) (hc : c ∈ t.columns) (hu : u ∈ tables) (hd : d ∈ u.columns)
    (points : c.pointsAt (some u.name) d = true) (o : Options) :
    (compile o tables (derive tables)).Adds o (.of t c) (.of u d) ↔
      ¬ (d.pointsAt (some t.name) c = true ∧ c.isPrimaryKey = true ∧ d.isPrimaryKey = false) := by
  rw [adds_compile_iff]
  constructor
  · rintro ⟨k, hk, isChild, -⟩ ⟨back, key, noKey⟩
    exact not_child_of_mutual distinct plain ht hc hu hd points back key noKey hk isChild
  · intro apart
    have direction := (Column.childIsSource_orient_iff points).mpr apart
    exact exists_mem_foreignKeys distinct plain ht hc hu hd points direction

theorem adds_derived_orders :
    let tables := (State.orders Position.origin).tables
    ∃ t ∈ tables, ∃ c ∈ t.columns, ∃ u ∈ tables, ∃ d ∈ u.columns,
      c.pointsAt (some u.name) d = true ∧
        ∀ o, (compile o tables (derive tables)).Adds o (.of t c) (.of u d) := by
  intro tables
  have distinct : Table.Distinct tables := ⟨by decide, by decide, by decide, by decide⟩
  have plain : Table.HavePlainIds tables := by decide
  let customers := tables[0]
  let orders := tables[1]
  have ht : orders ∈ tables := List.getElem_mem _
  have hu : customers ∈ tables := List.getElem_mem _
  have hc : orders.columns[1] ∈ orders.columns := List.getElem_mem _
  have hd : customers.columns[0] ∈ customers.columns := List.getElem_mem _
  have points : orders.columns[1].pointsAt (some customers.name) customers.columns[0] = true := by
    decide
  refine ⟨orders, ht, _, hc, customers, hu, _, hd, points, fun o => ?_⟩
  exact (adds_derived_iff distinct plain ht hc hu hd points o).mpr (by decide)

/-- Users and their profiles, each of which names the other one. The key is on one side only. -/
def partners (corner : Position α) : List (Table α) :=
  [{ id := "u", name := "users", position := corner
     columns := [{ id := "u1", name := "profile_id", dataType := "INT", isPrimaryKey := true
                   references := some ⟨"profiles", "user_id"⟩ }] },
   { id := "p", name := "profiles", position := corner
     columns := [{ id := "p1", name := "user_id", dataType := "INT"
                   references := some ⟨"users", "profile_id"⟩ }] }]

/-- The reference of the key gives no foreign key. -/
theorem not_adds_derived_partners :
    let tables := partners Position.origin
    Table.Distinct tables ∧ Table.HavePlainIds tables ∧
      ∃ t ∈ tables, ∃ c ∈ t.columns, ∃ u ∈ tables, ∃ d ∈ u.columns,
        c.pointsAt (some u.name) d = true ∧
          ∀ o, ¬ (compile o tables (derive tables)).Adds o (.of t c) (.of u d) := by
  intro tables
  have distinct : Table.Distinct tables := ⟨by decide, by decide, by decide, by decide⟩
  have plain : Table.HavePlainIds tables := by decide
  let users := tables[0]
  let profiles := tables[1]
  refine ⟨distinct, plain, users, List.getElem_mem _, users.columns[0], List.getElem_mem _,
    profiles, List.getElem_mem _, profiles.columns[0], List.getElem_mem _, by decide, fun o => ?_⟩
  have others : ∀ k ∈ foreignKeys tables (derive tables), k.childTableId ≠ users.id := by decide
  rw [adds_compile_iff]
  rintro ⟨k, hk, isChild, -⟩
  exact others k hk (congrArg Resolved.End.tableId isChild)

end SchemaGraph.Ddl
