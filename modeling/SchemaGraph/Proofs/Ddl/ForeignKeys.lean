import SchemaGraph.Ddl.Export
import SchemaGraph.Proofs.Editing.Linked
import SchemaGraph.Proofs.Relationship.Ends

/-!
# The foreign keys of a script

A foreign key goes from a column of one table to another table. Two relationships that mean the same
one give a single constraint, that of the first. A script tells foreign keys apart by names, which
is as good as telling them apart by ids once the names have passed validation.
-/

namespace SchemaGraph

variable {α : Type} {tables : List (Table α)} {rs : List Relationship} {r : Relationship}
  {d e : Resolved}

/-- The foreign key that a resolved relationship means, by ids: its child column and its parent. -/
def Resolved.foreignKey (d : Resolved) : String × String × String :=
  (d.childTableId, d.childColumnId, d.parentTableId)

namespace Ddl

theorem firstOfEach_sublist (seen : List (String × String × String)) (ds : List Resolved) :
    (firstOfEach seen ds).Sublist ds := by
  induction ds generalizing seen with
  | nil => exact List.Sublist.refl _
  | cons d ds ih =>
      rw [firstOfEach]
      split
      · exact (ih seen).cons d
      · exact (ih _).cons_cons d

theorem fresh_firstOfEach (seen : List (String × String × String)) (ds : List Resolved) :
    Fresh seen ((firstOfEach seen ds).map Resolved.constraintKey) := by
  induction ds generalizing seen with
  | nil => exact fresh_nil
  | cons d ds ih =>
      rw [firstOfEach]
      split
      · exact ih seen
      · rename_i unseen
        rw [List.map_cons, fresh_cons]
        exact ⟨by simpa using unseen, ih _⟩

/-- What has the first occurrence of its key is kept. -/
theorem mem_firstOfEach {seen : List (String × String × String)} {before after : List Resolved}
    (unseen : d.constraintKey ∉ seen)
    (first : ∀ e ∈ before, e.constraintKey ≠ d.constraintKey) :
    d ∈ firstOfEach seen (before ++ d :: after) := by
  induction before generalizing seen with
  | nil =>
      rw [List.nil_append, firstOfEach, if_neg (by simpa using unseen)]
      exact List.mem_cons_self
  | cons e before ih =>
      obtain ⟨here, later⟩ := List.forall_mem_cons.mp first
      rw [List.cons_append, firstOfEach]
      split
      · exact ih unseen later
      · refine List.mem_cons_of_mem _ (ih ?_ later)
        intro seen
        rcases List.mem_cons.mp seen with same | seen
        · exact here same.symm
        · exact unseen seen

/-- What resolves lies between the tables anyway. -/
theorem resolveAll_within :
    Relationship.resolveAll tables (within tables rs) = Relationship.resolveAll tables rs := by
  rw [Relationship.resolveAll, within, List.filterMap_filter]
  refine List.filterMap_congr fun r _ => ?_
  split
  · rfl
  · rename_i outside
    symm
    by_contra resolves
    obtain ⟨d, h⟩ := Option.ne_none_iff_exists'.mp resolves
    obtain ⟨source, target, -, -, hs, ht, -⟩ := Relationship.resolve?_eq_some_iff.mp h
    have hasSource := Table.ofId?_isSome_iff.mp (Option.isSome_of_eq_some hs)
    have hasTarget := Table.ofId?_isSome_iff.mp (Option.isSome_of_eq_some ht)
    exact outside (by simp [hasSource, hasTarget])

theorem foreignKeys_eq :
    foreignKeys tables rs = firstOfEach [] (Relationship.resolveAll tables rs) := by
  rw [foreignKeys, resolveAll_within]

theorem foreignKeys_sublist :
    (foreignKeys tables rs).Sublist (Relationship.resolveAll tables rs) := by
  rw [foreignKeys_eq]
  exact firstOfEach_sublist _ _

/-- No two foreign keys of a script have the same child table, parent table and child column. -/
theorem nodup_constraintKeys (tables : List (Table α)) (rs : List Relationship) :
    ((foreignKeys tables rs).map Resolved.constraintKey).Nodup := by
  rw [foreignKeys_eq]
  exact fresh_of_nothing_seen.mp (fresh_firstOfEach [] (Relationship.resolveAll tables rs))

theorem ends_of_mem_foreignKeys (h : d ∈ foreignKeys tables rs) :
    d.child.IsIn tables ∧ d.parent.IsIn tables := by
  obtain ⟨r, -, hr⟩ := List.mem_filterMap.mp (foreignKeys_sublist.subset h)
  exact Relationship.ends_of_resolve? hr

/-- Among some foreign keys, there is the one that a resolved relationship means, and it comes from
the first relationship that means it. -/
def MeantFirst (tables : List (Table α)) (rs : List Relationship) (d : Resolved)
    (ds : List Resolved) : Prop :=
  ∃ before r after e, rs = before ++ r :: after ∧ r.resolve? tables = some e ∧
    e.relationshipId = r.id ∧ e.foreignKey = d.foreignKey ∧
    (∀ q ∈ before, ∀ e, q.resolve? tables = some e → e.foreignKey ≠ d.foreignKey) ∧ e ∈ ds

theorem meantFirst_resolveAll (hr : r ∈ rs) (h : r.resolve? tables = some d) :
    MeantFirst tables rs d (Relationship.resolveAll tables rs) := by
  let means (q : Relationship) : Bool :=
    (q.resolve? tables).any fun e => e.foreignKey == d.foreignKey
  have found : (rs.find? means).isSome := by
    rw [List.find?_isSome]
    exact ⟨r, hr, by simp [means, h]⟩
  obtain ⟨r', hr'⟩ := Option.isSome_iff_exists.mp found
  obtain ⟨means', before, after, split, none⟩ := List.find?_eq_some_iff_append.mp hr'
  obtain ⟨e, he, same⟩ := (Option.any_eq_true _ _).mp means'
  refine ⟨before, r', after, e, split, he, Relationship.relationshipId_of_resolve? he,
    by simpa using same, ?_, ?_⟩
  · intro q hq e he same
    have not := none q hq
    simp [means, he, same] at not
  · rw [split]
    exact List.mem_filterMap.mpr ⟨r', by simp, he⟩

section Named

variable (named : Table.AllNamed tables)

include named

/-- The names of a foreign key stand for its ids. -/
theorem constraintKey_eq_iff (hd : d.child.IsIn tables ∧ d.parent.IsIn tables)
    (he : e.child.IsIn tables ∧ e.parent.IsIn tables) :
    d.constraintKey = e.constraintKey ↔ d.foreignKey = e.foreignKey := by
  simp only [Resolved.constraintKey, Resolved.foreignKey, Prod.mk.injEq]
  constructor
  · rintro ⟨child, parent, column⟩
    exact ⟨hd.1.tableId_eq named he.1 child, hd.1.columnId_eq named he.1 child column,
      hd.2.tableId_eq named he.2 parent⟩
  · rintro ⟨child, column, parent⟩
    exact ⟨hd.1.table_eq he.1 child, hd.2.table_eq he.2 parent, hd.1.column_eq he.1 child column⟩

theorem nodup_foreignKeys (rs : List Relationship) :
    ((foreignKeys tables rs).map Resolved.foreignKey).Nodup := by
  have names := nodup_constraintKeys tables rs
  refine List.Nodup.map_on ?_ (List.Nodup.of_map _ names)
  intro d hd e he same
  have sameNames := (constraintKey_eq_iff named (ends_of_mem_foreignKeys hd)
    (ends_of_mem_foreignKeys he)).mpr same
  exact List.inj_on_of_nodup_map names hd he sameNames

theorem meantFirst_foreignKeys (hr : r ∈ rs) (h : r.resolve? tables = some d) :
    MeantFirst tables rs d (foreignKeys tables rs) := by
  obtain ⟨before, r', after, e, split, he, itsId, same, first, -⟩ := meantFirst_resolveAll hr h
  refine ⟨before, r', after, e, split, he, itsId, same, first, ?_⟩
  have here : Relationship.resolveAll tables (before ++ r' :: after) =
      Relationship.resolveAll tables before ++ e :: Relationship.resolveAll tables after := by
    rw [Relationship.resolveAll, List.filterMap_append, List.filterMap_cons_some he]
    rfl
  rw [foreignKeys_eq, split, here]
  refine mem_firstOfEach List.not_mem_nil ?_
  -- An earlier relationship with the same names would mean the same foreign key.
  intro f hf sameNames
  obtain ⟨q, hq, resolves⟩ := List.mem_filterMap.mp hf
  have sameKey := (constraintKey_eq_iff named (Relationship.ends_of_resolve? resolves)
    (Relationship.ends_of_resolve? he)).mp sameNames
  exact first q hq f resolves (sameKey.trans same)

end Named

/-- The script creates the table of an end, with its column. -/
def Script.Creates (script : Script) (o : Options) (tables : List (Table α)) (e : Resolved.End) :
    Prop :=
  ∃ t ∈ tables, createTable o.style o.indent t ∈ script.creates ∧
    t.id = e.tableId ∧ t.name = e.table ∧ ∃ c ∈ t.columns, c.id = e.columnId ∧ c.name = e.column

theorem creates_of_isIn {o : Options} {place : Resolved.End} (h : place.IsIn tables) :
    (compile o tables rs).Creates o tables place := by
  obtain ⟨t, ht, id, name, column⟩ := h.mem
  exact ⟨t, ht, List.mem_map_of_mem ht, id, name, column⟩

/-- The foreign keys that a script for some of the tables adds are those that the relationships
between them mean, each one once, taken from the first relationship that means it. -/
structure IsExact (s : State α) (selection : Option (List String)) (o : Options)
    (script : Script) : Prop where
  ends : ∀ d ∈ script.resolved,
    script.Creates o (Table.select selection s.tables) d.child ∧
      script.Creates o (Table.select selection s.tables) d.parent
  distinct : (script.resolved.map Resolved.foreignKey).Nodup
  ordered : script.resolved.Sublist
    (Relationship.resolveAll (Table.select selection s.tables) s.relationships)
  first : ∀ r ∈ s.relationships,
    r.source ∈ (Table.select selection s.tables).map (·.id) →
    r.target ∈ (Table.select selection s.tables).map (·.id) → r.isAnchored s.tables = true →
    ∃ d, r.resolve? (Table.select selection s.tables) = some d ∧
      MeantFirst (Table.select selection s.tables) s.relationships d script.resolved

/-- An export that passes validation compiles. -/
theorem exportSchema_of_passes {s : State α} {selection : Option (List String)}
    (passes : Validation.isBlocked
      (Validation.issues (Table.select selection s.tables)) = false)
    (settings : Except Failure Config.Compilation) (o : ExportOptions) :
    exportSchema settings o selection s =
      ((o.request (o.dialect.getD s.dialect)).options settings).map (fun options =>
        ⟨some (compile options (Table.select selection s.tables) s.relationships).text,
          Validation.issues (Table.select selection s.tables), o.dialect.getD s.dialect⟩) := by
  rw [exportSchema, if_neg (by simp [passes])]
  cases (o.request (o.dialect.getD s.dialect)).options settings <;> rfl

/-- An export that passes validation compiles, and its foreign keys are exact, whatever options it
is compiled with. -/
theorem exportSchema_isExact {s : State α} {selection : Option (List String)}
    (passes : Validation.isBlocked
      (Validation.issues (Table.select selection s.tables)) = false)
    (settings : Except Failure Config.Compilation) (o : ExportOptions) :
    let script (options : Options) :=
      compile options (Table.select selection s.tables) s.relationships
    let dialect := o.dialect.getD s.dialect
    exportSchema settings o selection s =
        ((o.request dialect).options settings).map (fun options =>
          ⟨some (script options).text, Validation.issues (Table.select selection s.tables),
            dialect⟩) ∧
      ∀ options, IsExact s selection options (script options) := by
  intro script dialect
  have named := Validation.isBlocked_issues_eq_false_iff.mp passes
  constructor
  · exact exportSchema_of_passes passes settings o
  · intro options
    refine ⟨?_, nodup_foreignKeys named _, foreignKeys_sublist, ?_⟩
    · intro d hd
      obtain ⟨child, parent⟩ := ends_of_mem_foreignKeys hd
      exact ⟨creates_of_isIn child, creates_of_isIn parent⟩
    · intro r hr source target anchored
      rw [← Relationship.isAnchored_select source target] at anchored
      obtain ⟨d, h⟩ := Relationship.exists_resolve?_iff.mpr anchored
      exact ⟨d, h, meantFirst_foreignKeys named hr h⟩

theorem exportSchema_isExact_orders :
    let s := State.orders Position.origin
    let tables := Table.select (some ["t1", "t2"]) s.tables
    Validation.isBlocked (Validation.issues tables) = false ∧
      ∀ options,
        IsExact s (some ["t1", "t2"]) options (compile options tables s.relationships) := by
  intro s tables
  have passes : Validation.isBlocked (Validation.issues tables) = false := by decide
  let settings := Config.Settings.ofFile ⟨"config.yaml", .document Config.shipped⟩
  exact ⟨passes, (exportSchema_isExact passes settings.compilation {}).2⟩

end Ddl
end SchemaGraph
