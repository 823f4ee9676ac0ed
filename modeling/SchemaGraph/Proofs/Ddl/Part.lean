import SchemaGraph.Proofs.Ddl.ForeignKeys
import SchemaGraph.Proofs.Relationship.Selected

/-!
# Scripts for some of the tables

If fewer tables are exported, the script is the part of the larger one that is about them. What has
to be seen for this is that a foreign key of the larger script never stands for one of the smaller
one: two foreign keys of which one is left out have the same tables, and so both are kept or both
are dropped by a selection.
-/

namespace SchemaGraph

variable {α : Type} {tables : List (Table α)} {rs : List Relationship}

namespace Ddl

/-- Keeping the first item for each key goes together with a filter that treats items with the same
key alike. What was seen may differ in keys that the filter drops anyway. -/
theorem firstOfEach_filter {p : Resolved → Bool} {seen seen' : List (String × String × String)}
    {ds : List Resolved}
    (alike : ∀ d ∈ ds, ∀ e ∈ ds, d.constraintKey = e.constraintKey → p d = p e)
    (same : ∀ d ∈ ds, p d = true → (d.constraintKey ∈ seen' ↔ d.constraintKey ∈ seen)) :
    firstOfEach seen' (ds.filter p) = (firstOfEach seen ds).filter p := by
  induction ds generalizing seen seen' with
  | nil => rfl
  | cons d ds ih =>
      obtain ⟨here, later⟩ := List.forall_mem_cons.mp same
      have alikeLater : ∀ e ∈ ds, ∀ f ∈ ds, e.constraintKey = f.constraintKey → p e = p f :=
        fun e he f hf => alike e (List.mem_cons_of_mem _ he) f (List.mem_cons_of_mem _ hf)
      cases kept : p d with
      | false =>
          rw [List.filter_cons_of_neg (by simp [kept]), firstOfEach]
          split
          · exact ih alikeLater later
          · rw [List.filter_cons_of_neg (by simp [kept])]
            refine ih alikeLater fun e he keptLater => ?_
            have other : e.constraintKey ≠ d.constraintKey := by
              intro sameKey
              have := alike e (List.mem_cons_of_mem _ he) d List.mem_cons_self sameKey
              rw [keptLater, kept] at this
              cases this
            rw [List.mem_cons, later e he keptLater]
            exact ⟨.inr, fun h => h.resolve_left other⟩
      | true =>
          rw [List.filter_cons_of_pos kept, firstOfEach, firstOfEach]
          have sameTest : seen'.contains d.constraintKey = seen.contains d.constraintKey := by
            rw [Bool.eq_iff_iff, List.contains_iff_mem, List.contains_iff_mem]
            exact here kept
          rw [sameTest]
          split
          · exact ih alikeLater later
          · rw [List.filter_cons_of_pos kept]
            refine congrArg (d :: ·) (ih alikeLater fun e he keptLater => ?_)
            rw [List.mem_cons, List.mem_cons, later e he keptLater]

/-- The foreign keys between selected tables are those of a script for more tables that have both
ends among the selected ones. -/
theorem foreignKeys_select {s : State α} {part whole : Option (List String)}
    (named : Table.AllNamed (Table.select whole s.tables))
    (fewer : Table.select part s.tables ⊆ Table.select whole s.tables) :
    foreignKeys (Table.select part s.tables) rs =
      (foreignKeys (Table.select whole s.tables) rs).filter
        (Resolved.isAmong ((Table.select part s.tables).map (·.id))) := by
  have restricted : Relationship.resolveAll (Table.select part s.tables) rs =
      (Relationship.resolveAll (Table.select whole s.tables) rs).filter
        (Resolved.isAmong ((Table.select part s.tables).map (·.id))) := by
    rw [Relationship.resolveAll_select, Relationship.resolveAll_select, List.filter_filter]
    refine List.filter_congr fun d _ => ?_
    have more : ∀ id, ((Table.select part s.tables).map (·.id)).contains id = true →
        ((Table.select whole s.tables).map (·.id)).contains id = true := by
      intro id h
      rw [List.contains_iff_mem] at h ⊢
      exact List.map_subset _ fewer h
    rw [Bool.eq_iff_iff, Bool.and_eq_true]
    refine ⟨fun h => ⟨h, ?_⟩, fun h => h.1⟩
    simp only [Resolved.isAmong, Bool.and_eq_true] at h ⊢
    exact ⟨more _ h.1, more _ h.2⟩
  rw [foreignKeys_eq, foreignKeys_eq, restricted]
  refine firstOfEach_filter ?_ fun _ _ _ => Iff.rfl
  -- The names of a constraint are those of its two tables, whose ids decide whether it is kept.
  intro d hd e he sameNames
  obtain ⟨q, -, hq⟩ := List.mem_filterMap.mp hd
  obtain ⟨r, -, hr⟩ := List.mem_filterMap.mp he
  have sameKey := (constraintKey_eq_iff named (Relationship.ends_of_resolve? hq)
    (Relationship.ends_of_resolve? hr)).mp sameNames
  have child : d.childTableId = e.childTableId := congrArg Prod.fst sameKey
  have parent : d.parentTableId = e.parentTableId := congrArg (·.2.2) sameKey
  rw [Resolved.isAmong, Resolved.isAmong, child, parent]

/-- One script consists of the statements of another one, which is for the given tables, that are
about the tables with the given ids: it creates these, and it adds the foreign keys between them. -/
structure Script.IsPart (part whole : Script) (o : Options) (tables : List (Table α))
    (ids : List String) : Prop where
  header : part.header = whole.header
  wholeCreates : whole.creates = tables.map (createTable o.style o.indent)
  creates : part.creates =
    (tables.filter fun t => ids.contains t.id).map (createTable o.style o.indent)
  wholeConstraints : whole.constraints =
    whole.resolved.map (addConstraint o.onDelete o.onUpdate)
  resolved : part.resolved = whole.resolved.filter (Resolved.isAmong ids)
  constraints : part.constraints =
    (whole.resolved.filter (Resolved.isAmong ids)).map (addConstraint o.onDelete o.onUpdate)

theorem compile_isPart {s : State α} {part whole : Option (List String)}
    (named : Table.AllNamed (Table.select whole s.tables))
    (fewer : Table.select part s.tables ⊆ Table.select whole s.tables) (o : Options) :
    (compile o (Table.select part s.tables) rs).IsPart
      (compile o (Table.select whole s.tables) rs) o (Table.select whole s.tables)
      ((Table.select part s.tables).map (·.id)) where
  header := rfl
  wholeCreates := rfl
  creates := congrArg (List.map _) (Table.select_eq_filter_of_subset fewer)
  wholeConstraints := rfl
  resolved := foreignKeys_select named fewer
  constraints := congrArg (List.map _) (foreignKeys_select named fewer)

/-- If an export passes validation, an export of some of its tables does so as well. Whatever the
options are, the smaller script then consists of those statements of the larger one that are about
the selected tables, in the same order. -/
theorem exportSchema_isPart {s : State α} {part whole : Option (List String)}
    (fewer : Table.select part s.tables ⊆ Table.select whole s.tables)
    (passes : Validation.isBlocked (Validation.issues (Table.select whole s.tables)) = false)
    (settings : Except Failure Config.Compilation) (o : ExportOptions) :
    let script (selection : Option (List String)) (options : Options) :=
      compile options (Table.select selection s.tables) s.relationships
    let dialect := o.dialect.getD s.dialect
    let answer (selection : Option (List String)) (options : Options) : Export :=
      ⟨some (script selection options).text,
        Validation.issues (Table.select selection s.tables), dialect⟩
    Validation.isBlocked (Validation.issues (Table.select part s.tables)) = false ∧
      exportSchema settings o whole s =
        ((o.request dialect).options settings).map (answer whole) ∧
      exportSchema settings o part s =
        ((o.request dialect).options settings).map (answer part) ∧
      ∀ options, (script part options).IsPart (script whole options) options
        (Table.select whole s.tables) ((Table.select part s.tables).map (·.id)) := by
  intro script dialect answer
  have named := Validation.isBlocked_issues_eq_false_iff.mp passes
  have sublist : (Table.select part s.tables).Sublist (Table.select whole s.tables) := by
    rw [Table.select_eq_filter_of_subset fewer]
    exact List.filter_sublist
  have partPasses := Validation.isBlocked_issues_eq_false_iff.mpr (named.sublist sublist)
  exact ⟨partPasses, exportSchema_of_passes passes settings o,
    exportSchema_of_passes partPasses settings o, compile_isPart named fewer⟩

/-- Of the two foreign keys of orders, the one to customers is left out with their table. -/
theorem exportSchema_isPart_orders :
    let s := State.orders Position.origin
    Table.select (some ["t2"]) s.tables ⊆ Table.select none s.tables ∧
      Validation.isBlocked (Validation.issues (Table.select none s.tables)) = false ∧
      ∀ options, (compile options (Table.select (some ["t2"]) s.tables) s.relationships).IsPart
        (compile options s.tables s.relationships) options s.tables ["t2"] := by
  intro s
  have fewer : Table.select (some ["t2"]) s.tables ⊆ Table.select none s.tables :=
    Table.select_sublist.subset
  have passes : Validation.isBlocked (Validation.issues (Table.select none s.tables)) = false := by
    decide
  let settings := Config.Settings.ofFile ⟨"config.yaml", .document Config.shipped⟩
  exact ⟨fewer, passes, (exportSchema_isPart fewer passes settings.compilation {}).2.2.2⟩

end Ddl
end SchemaGraph
