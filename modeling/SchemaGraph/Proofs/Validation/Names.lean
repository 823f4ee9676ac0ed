import Mathlib.Data.List.Nodup
import SchemaGraph.Validation

/-!
# Names in a schema that passes validation

Validation goes through the tables and through the columns of each one, and remembers the names it
has seen. No error is found exactly when every table and every column has a name and no two tables,
and no two columns of one table, have the same. Warnings do not count.
-/

namespace SchemaGraph

/-- The items are distinct, and none of them was seen before. -/
def Fresh {α : Type} (seen items : List α) : Prop := items.Nodup ∧ ∀ a ∈ items, a ∉ seen

section Fresh

variable {α : Type} {a : α} {seen items : List α}

theorem fresh_nil : Fresh seen ([] : List α) := ⟨List.nodup_nil, fun _ h => by cases h⟩

theorem fresh_of_nothing_seen : Fresh [] items ↔ items.Nodup :=
  ⟨fun h => h.1, fun h => ⟨h, fun _ _ => List.not_mem_nil⟩⟩

/-- An item is seen before the ones that come after it. -/
theorem fresh_cons : Fresh seen (a :: items) ↔ a ∉ seen ∧ Fresh (a :: seen) items := by
  constructor
  · rintro ⟨distinct, unseen⟩
    obtain ⟨first, rest⟩ := List.nodup_cons.mp distinct
    refine ⟨unseen a List.mem_cons_self, rest, ?_⟩
    intro b hb hseen
    rcases List.mem_cons.mp hseen with rfl | hseen
    · exact first hb
    · exact unseen b (List.mem_cons_of_mem _ hb) hseen
  · rintro ⟨first, distinct, unseen⟩
    refine ⟨List.nodup_cons.mpr ⟨fun h => unseen a h List.mem_cons_self, distinct⟩, ?_⟩
    intro b hb
    rcases List.mem_cons.mp hb with rfl | hb
    · exact first
    · exact fun hseen => unseen b hb (List.mem_cons_of_mem _ hseen)

end Fresh

/-- Every column has a name, and no two have the same. -/
structure Table.ColumnsNamed {α : Type} (t : Table α) : Prop where
  named : ∀ c ∈ t.columns, comparedName c.name ≠ ""
  distinct : (t.columns.map fun c => comparedName c.name).Nodup

/-- Every table has a name of its own, and so has every column within its table. -/
structure Table.AllNamed {α : Type} (tables : List (Table α)) : Prop where
  named : ∀ t ∈ tables, Text.allBlank t.name = false
  distinct : (tables.map fun t => comparedName t.name).Nodup
  columns : ∀ t ∈ tables, t.ColumnsNamed

/-- Names that are distinct are distinct among fewer tables as well. -/
theorem Table.AllNamed.sublist {α : Type} {part tables : List (Table α)}
    (named : AllNamed tables) (fewer : part.Sublist tables) : AllNamed part :=
  ⟨fun t ht => named.named t (fewer.subset ht), named.distinct.sublist (fewer.map _),
    fun t ht => named.columns t (fewer.subset ht)⟩

/-- The name of a table with those of its columns. -/
def Table.names {α : Type} (t : Table α) : String × List String := (t.name, t.columns.map (·.name))

theorem Table.allNamed_iff {α : Type} {tables : List (Table α)} : AllNamed tables ↔
    (∀ n ∈ tables.map names, Text.allBlank n.1 = false ∧ (∀ c ∈ n.2, comparedName c ≠ "") ∧
      (n.2.map comparedName).Nodup) ∧ ((tables.map names).map (comparedName ·.1)).Nodup := by
  simp only [List.forall_mem_map, List.map_map, Function.comp_def, names]
  constructor
  · intro h
    exact ⟨fun t ht => ⟨h.named t ht, (h.columns t ht).named, (h.columns t ht).distinct⟩,
      h.distinct⟩
  · rintro ⟨each, distinct⟩
    exact ⟨fun t ht => (each t ht).1, distinct,
      fun t ht => ⟨(each t ht).2.1, (each t ht).2.2⟩⟩

namespace Validation

variable {α : Type}

theorem columnFlaws_passes_iff (table : String) {seen : List String} {cs : List Column} :
    (∀ f ∈ columnFlaws table seen cs, f.severity ≠ .error) ↔
      (∀ c ∈ cs, comparedName c.name ≠ "") ∧ Fresh seen (cs.map fun c => comparedName c.name) := by
  induction cs generalizing seen with
  | nil => simp [columnFlaws, fresh_nil]
  | cons c cs ih =>
      rw [List.map_cons, fresh_cons, List.forall_mem_cons, columnFlaws]
      by_cases unnamed : comparedName c.name = ""
      · simp [unnamed, Flaw.severity]
      · by_cases repeated : comparedName c.name ∈ seen
        · simp [unnamed, repeated, Flaw.severity]
        · simp only [unnamed, repeated, beq_iff_eq, List.contains_eq_mem, decide_false, if_false,
            Bool.false_eq_true, ih, ne_eq, not_false_eq_true, true_and]

theorem bodyFlaws_passes_iff {t : Table α} :
    (∀ f ∈ bodyFlaws t, f.severity ≠ .error) ↔ t.ColumnsNamed := by
  have named : t.ColumnsNamed ↔ (∀ c ∈ t.columns, comparedName c.name ≠ "") ∧
      Fresh [] (t.columns.map fun c => comparedName c.name) := by
    rw [fresh_of_nothing_seen]
    exact ⟨fun h => ⟨h.named, h.distinct⟩, fun h => ⟨h.1, h.2⟩⟩
  rw [named, ← columnFlaws_passes_iff t.displayName, bodyFlaws]
  by_cases empty : t.columns = []
  · simp [empty, columnFlaws, Flaw.severity]
  · split
    · simp_all
    · split <;> simp [Flaw.severity]

theorem tableFlaws_passes_iff {seen : List String} {tables : List (Table α)} :
    (∀ f ∈ tableFlaws seen tables, f.2.severity ≠ .error) ↔
      (∀ t ∈ tables, Text.allBlank t.name = false ∧ t.ColumnsNamed) ∧
        Fresh seen (tables.map fun t => comparedName t.name) := by
  induction tables generalizing seen with
  | nil => simp [tableFlaws, fresh_nil]
  | cons t tables ih =>
      have body : (∀ f ∈ (bodyFlaws t).map (t.id, ·), f.2.severity ≠ .error) ↔ t.ColumnsNamed := by
        rw [List.forall_mem_map, bodyFlaws_passes_iff]
      rw [List.map_cons, fresh_cons, List.forall_mem_cons, tableFlaws]
      by_cases unnamed : Text.allBlank t.name = true
      · simp [unnamed, Flaw.severity]
      · by_cases repeated : comparedName t.name ∈ seen
        · simp [unnamed, repeated, Flaw.severity]
        · simp only [unnamed, repeated, List.contains_eq_mem, decide_false, if_false,
            Bool.false_eq_true, List.forall_mem_append, body, ih]
          simp only [not_false_eq_true, true_and, and_assoc]

/-- The number of an issue does not matter to whether it is an error. -/
theorem isBlocked_issues (tables : List (Table α)) :
    isBlocked (issues tables) = (tableFlaws [] tables).any fun f => f.2.severity == .error := by
  conv_rhs => rw [← List.zipIdx_map_fst 0 (tableFlaws [] tables)]
  rw [isBlocked, issues, List.any_map, List.any_map]
  rfl

/-- Nothing stands in the way of compilation exactly when all names are there and distinct. -/
theorem isBlocked_issues_eq_false_iff {tables : List (Table α)} :
    isBlocked (issues tables) = false ↔ Table.AllNamed tables := by
  have passes : isBlocked (issues tables) = false ↔
      ∀ f ∈ tableFlaws [] tables, f.2.severity ≠ .error := by
    simp only [isBlocked_issues, List.any_eq_false, beq_iff_eq, ne_eq]
  rw [passes, tableFlaws_passes_iff, fresh_of_nothing_seen]
  constructor
  · rintro ⟨each, distinct⟩
    exact ⟨fun t ht => (each t ht).1, distinct, fun t ht => (each t ht).2⟩
  · intro h
    exact ⟨fun t ht => ⟨h.named t ht, h.columns t ht⟩, h.distinct⟩

end Validation
end SchemaGraph
