import SchemaGraph.Proofs.Ddl.Compilable
import SchemaGraph.Proofs.Text.Words

/-!
# Names of constraints

The name of a constraint joins the names of its child table, its parent table and its child column
with underscores, and a script has at most one constraint for each three of them. Names may contain
underscores themselves, so that a joined name can be read in two ways. The two ways part where one
of them takes an underscore for the end of a table's name and the other one goes on with that name.
-/

namespace SchemaGraph

variable {α : Type}

/-- Whether a longer name goes on after a name with an underscore. -/
def Continues (name longer : String) : Prop := name.toList ++ ['_'] <+: longer.toList

instance (name longer : String) : Decidable (Continues name longer) :=
  inferInstanceAs (Decidable (_ <+: _))

namespace Resolved

variable {d e : Resolved}

theorem toList_constraintName (d : Resolved) :
    d.constraintName.toList = ['f', 'k', '_'] ++
      (d.childTable.toList ++ '_' :: (d.parentTable.toList ++ '_' :: d.childColumn.toList)) := by
  change ("fk_" ++ d.childTable ++ "_" ++ d.parentTable ++ "_" ++ d.childColumn).toList = _
  simp

/-- Whether the names of two constraints may be one that is read in two ways: the name of one child
table continues that of the other, or else the parent tables are so related. -/
def MayClash (d e : Resolved) : Prop :=
  Continues d.childTable e.childTable ∨ Continues e.childTable d.childTable ∨
    d.childTable = e.childTable ∧
      (Continues d.parentTable e.parentTable ∨ Continues e.parentTable d.parentTable)

/-- Constraints with one name are the same one, or their name is read in two ways. -/
theorem constraintKey_eq_or_mayClash (same : d.constraintName = e.constraintName) :
    d.constraintKey = e.constraintKey ∨ d.MayClash e := by
  have lists := congrArg String.toList same
  rw [toList_constraintName, toList_constraintName, List.append_right_inj] at lists
  rcases Text.joined_eq_cases lists with ⟨child, parent, column⟩ | twoWays
  · exact .inl (by rw [constraintKey, constraintKey, child, parent, column])
  · exact .inr twoWays

end Resolved

namespace Ddl

variable {settings : Except Failure Config.Compilation} {o : ExportOptions}
  {selection : Option (List String)} {s : State α} {e : Export} {sql : String}

/-- Whether a statement adds a constraint with a name. -/
def AddsNamed (statement name : String) : Prop :=
  ∃ table rest : String,
    statement = "ALTER TABLE " ++ table ++ " ADD CONSTRAINT " ++ name ++ " " ++ rest

theorem addConstraint_addsNamed (onDelete onUpdate : ReferentialAction) (d : Resolved) :
    AddsNamed (addConstraint onDelete onUpdate d) d.constraintName := by
  unfold AddsNamed addConstraint
  refine ⟨d.childTable, "FOREIGN KEY (" ++ d.childColumn ++ ") REFERENCES " ++ d.parentTable ++
    "(" ++ d.parentColumn ++ ")" ++ actionClause "DELETE" onDelete ++
      actionClause "UPDATE" onUpdate ++ ";", ?_⟩
  simp only [toString, String.append_assoc]

/-- An export that has a script compiled it. -/
theorem exists_options_of_sql (exported : exportSchema settings o selection s = .ok e)
    (compiled : e.sql = some sql) :
    ∃ options, (o.request (o.dialect.getD s.dialect)).options settings = .ok options ∧
      sql = (compile options (Table.select selection s.tables) s.relationships).text := by
  cases passes : Validation.isBlocked (Validation.issues (Table.select selection s.tables)) with
  | true =>
      rw [exportSchema, if_pos passes] at exported
      cases exported
      cases compiled
  | false =>
      rw [exportSchema_of_passes passes] at exported
      cases read : (o.request (o.dialect.getD s.dialect)).options settings with
      | error f =>
          rw [read] at exported
          cases exported
      | ok options =>
          rw [read] at exported
          cases exported
          exact ⟨options, rfl, (Option.some.inj compiled).symm⟩

theorem constraintNames_pairwise (tables : List (Table α)) (rs : List Relationship) :
    (foreignKeys tables rs).Pairwise fun d e => d.constraintKey ≠ e.constraintKey ∧
      (d.constraintName = e.constraintName → d.MayClash e) := by
  refine (List.pairwise_map.mp (nodup_constraintKeys tables rs)).imp fun different => ?_
  exact ⟨different, fun same => (Resolved.constraintKey_eq_or_mayClash same).resolve_left different⟩

theorem nodup_constraintNames {tables : List (Table α)} (rs : List Relationship)
    (apart : ∀ t ∈ tables, ∀ u ∈ tables, ¬ Continues t.name u.name) :
    ((foreignKeys tables rs).map Resolved.constraintName).Nodup := by
  have ends {a b : Resolved.End} (ha : a.IsIn tables) (hb : b.IsIn tables) :
      ¬ Continues a.table b.table := by
    obtain ⟨t, ht, -, name, -⟩ := ha.mem
    obtain ⟨u, hu, -, name', -⟩ := hb.mem
    rw [← name, ← name']
    exact apart t ht u hu
  refine List.Nodup.map_on ?_ (List.Nodup.of_map _ (nodup_constraintKeys tables rs))
  intro d hd e he same
  obtain ⟨child, parent⟩ := ends_of_mem_foreignKeys hd
  obtain ⟨child', parent'⟩ := ends_of_mem_foreignKeys he
  rcases Resolved.constraintKey_eq_or_mayClash same with
    sameKey | clash | clash | ⟨-, clash | clash⟩
  · exact List.inj_on_of_nodup_map (nodup_constraintKeys tables rs) hd he sameKey
  · exact (ends child child' clash).elim
  · exact (ends child' child clash).elim
  · exact (ends parent parent' clash).elim
  · exact (ends parent' parent clash).elim

/-- In an exported script no two constraints have the same child table, parent table and child
column. Two of them have the same name only if the name of one child table continues that of the
other one, or if they have one child table and the name of one parent table continues that of the
other one. So all names are different if no name of a table continues that of another. -/
theorem exportSchema_constraintNames (exported : exportSchema settings o selection s = .ok e)
    (compiled : e.sql = some sql) :
    let tables := Table.select selection s.tables
    ∃ options, (o.request (o.dialect.getD s.dialect)).options settings = .ok options ∧
      let script := compile options tables s.relationships
      sql = script.text ∧
        List.Forall₂ AddsNamed script.constraints
          (script.resolved.map Resolved.constraintName) ∧
        (script.resolved.Pairwise fun d e => d.constraintKey ≠ e.constraintKey ∧
          (d.constraintName = e.constraintName → d.MayClash e)) ∧
        ((∀ t ∈ tables, ∀ u ∈ tables, ¬ Continues t.name u.name) →
          (script.resolved.map Resolved.constraintName).Nodup) := by
  intro tables
  obtain ⟨options, read, text⟩ := exists_options_of_sql exported compiled
  refine ⟨options, read, text, ?_, constraintNames_pairwise tables s.relationships,
    nodup_constraintNames s.relationships⟩
  change List.Forall₂ AddsNamed ((foreignKeys tables s.relationships).map _)
    ((foreignKeys tables s.relationships).map _)
  rw [List.forall₂_map_left_iff, List.forall₂_map_right_iff]
  exact List.forall₂_same.mpr fun d _ => addConstraint_addsNamed _ _ d

theorem exportSchema_constraintNames_orders :
    let settings := Config.Settings.ofFile ⟨"config.yaml", .document Config.shipped⟩
    let s := State.orders Position.origin
    ∃ e sql, exportSchema settings.compilation {} none s = .ok e ∧ e.sql = some sql ∧
      ∃ options, sql = (compile options s.tables s.relationships).text ∧
        ((compile options s.tables s.relationships).resolved.map
          Resolved.constraintName).Nodup := by
  intro settings s
  have passes : Validation.isBlocked (Validation.issues s.tables) = false := by decide
  obtain ⟨options, exported⟩ := exists_exportSchema_of_passes
    Config.Compilation.usable_shipped {} none passes
  obtain ⟨options', -, text, -, -, distinct⟩ := exportSchema_constraintNames exported rfl
  exact ⟨_, _, exported, rfl, options', text, distinct (by decide)⟩

/-- Reviews that reference a book by the id of its author, and the authors of books by their id. -/
def reviews (corner : Position α) : State α :=
  let key : Column := { id := "k", name := "id", dataType := "INT", isPrimaryKey := true }
  { tables := [
      { id := "b", name := "book", columns := [key], position := corner },
      { id := "a", name := "book_author", columns := [key], position := corner },
      { id := "r", name := "reviews", position := corner
        columns := [
          { id := "r1", name := "id", dataType := "INT", isPrimaryKey := true,
            isForeignKey := true },
          { id := "r2", name := "author_id", dataType := "INT", isForeignKey := true }] }]
    relationships := [
      { id := "e1", source := "r", target := "a", sourceColumn := "r1", targetColumn := "k" },
      { id := "e2", source := "r", target := "b", sourceColumn := "r2", targetColumn := "k" }] }

/-- The two constraints of reviews have one name, which is read in two ways. -/
theorem exportSchema_constraintNames_reviews :
    let settings := Config.Settings.ofFile ⟨"config.yaml", .document Config.shipped⟩
    let s := reviews Position.origin
    ∃ options, exportSchema settings.compilation {} none s =
        .ok ⟨some (compile options s.tables s.relationships).text, [], .postgresql⟩ ∧
      (compile options s.tables s.relationships).resolved.map Resolved.constraintName =
        ["fk_reviews_book_author_id", "fk_reviews_book_author_id"] := by
  intro settings s
  have passes : Validation.isBlocked (Validation.issues s.tables) = false := by decide
  have noIssues : Validation.issues s.tables = [] := by decide
  have names : (foreignKeys s.tables s.relationships).map Resolved.constraintName =
      ["fk_reviews_book_author_id", "fk_reviews_book_author_id"] := by decide
  obtain ⟨options, exported⟩ := exists_exportSchema_of_passes
    Config.Compilation.usable_shipped {} none passes
  refine ⟨options, ?_, names⟩
  rw [← noIssues]
  exact exported

end Ddl
end SchemaGraph
