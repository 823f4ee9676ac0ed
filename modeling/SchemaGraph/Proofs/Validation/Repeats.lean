import Mathlib.Algebra.GroupWithZero.Nat
import Mathlib.Data.Finset.Card
import SchemaGraph.Proofs.Text.Forms
import SchemaGraph.Proofs.Validation.Names

/-!
# Counting repeated names

Validation finds one error for each name that repeats an earlier one. It goes through the names in
order and remembers what it has seen, but how many errors it finds does not depend on the order:
there are as many as there are names, less the number of different ones. Names that are missing are
passed over, and neither a table without columns nor any other error cuts the search short.
-/

namespace SchemaGraph

/-- The names that are not missing, in the form in which they are compared. -/
def comparedNames (names : List String) : List String :=
  (names.filter (!Text.allBlank ·)).map comparedName

/-- How many of some names repeat another one. -/
def repeats (names : List String) : Nat :=
  (comparedNames names).length - (comparedNames names).toFinset.card

section Names

variable {name : String} {names : List String}

theorem comparedName_eq_empty_iff : comparedName name = "" ↔ Text.allBlank name = true := by
  rw [comparedName, Text.lower_eq_empty_iff, Text.allBlank_iff]

theorem comparedNames_cons_missing (missing : Text.allBlank name = true) :
    comparedNames (name :: names) = comparedNames names := by
  simp [comparedNames, missing]

theorem comparedNames_cons (present : Text.allBlank name = false) :
    comparedNames (name :: names) = comparedName name :: comparedNames names := by
  simp [comparedNames, present]

/-- How many names repeat one before them, or one that was seen already. -/
def repeatsAfter : List String → List String → Nat
  | _, [] => 0
  | seen, name :: rest =>
    if Text.allBlank name then repeatsAfter seen rest
    else if comparedName name ∈ seen then repeatsAfter seen rest + 1
    else repeatsAfter (comparedName name :: seen) rest

/-- Each name is one more repetition or one more of the different names. -/
theorem repeatsAfter_add_card (seen names : List String) :
    repeatsAfter seen names + ((comparedNames names).toFinset ∪ seen.toFinset).card =
      (comparedNames names).length + seen.toFinset.card := by
  induction names generalizing seen with
  | nil => simp [repeatsAfter, comparedNames]
  | cons name names ih =>
      cases present : Text.allBlank name with
      | true =>
          rw [repeatsAfter, if_pos present, comparedNames_cons_missing present]
          exact ih seen
      | false =>
          rw [repeatsAfter, if_neg (by simp [present]), comparedNames_cons present,
            List.toFinset_cons, List.length_cons, Finset.insert_union]
          split
          · rename_i repeated
            have known : comparedName name ∈ (comparedNames names).toFinset ∪ seen.toFinset :=
              Finset.mem_union_right _ (List.mem_toFinset.mpr repeated)
            have later := ih seen
            rw [Finset.insert_eq_of_mem known]
            omega
          · rename_i unseen
            have new : comparedName name ∉ seen.toFinset := by rwa [List.mem_toFinset]
            have later := ih (comparedName name :: seen)
            rw [List.toFinset_cons, Finset.union_insert, Finset.card_insert_of_notMem new] at later
            omega

theorem repeatsAfter_nil (names : List String) : repeatsAfter [] names = repeats names := by
  have all := repeatsAfter_add_card [] names
  rw [List.toFinset_nil, Finset.union_empty, Finset.card_empty] at all
  rw [repeats]
  omega

end Names

namespace Validation

variable {α : Type}

/-- The number of errors with a title. -/
def errorsTitled (title : String) (issues : List Issue) : Nat :=
  issues.countP fun i => i.severity == .error && i.title == title

/-- Whether a flaw is an error with a title. -/
def isTitled (title : String) (f : Flaw) : Bool := f.severity == .error && f.title == title

/-- The number of an issue does not matter to what it says. -/
theorem errorsTitled_issues (title : String) (tables : List (Table α)) :
    errorsTitled title (issues tables) = (tableFlaws [] tables).countP (isTitled title ·.2) := by
  conv_rhs => rw [← List.zipIdx_map_fst 0 (tableFlaws [] tables)]
  rw [errorsTitled, issues, List.countP_map, List.countP_map]
  rfl

theorem map_id_issues (tables : List (Table α)) :
    (issues tables).map (·.id) =
      (List.range (issues tables).length).map fun i => s!"issue-{i + 1}" := by
  refine List.ext_getElem (by simp) fun i _ _ => ?_
  simp [issues, issueOf]

theorem countP_columnFlaws (table : String) (seen : List String) (cs : List Column) :
    (columnFlaws table seen cs).countP (isTitled "Duplicate column") =
      repeatsAfter seen (cs.map (·.name)) := by
  induction cs generalizing seen with
  | nil => rfl
  | cons c cs ih =>
      rw [columnFlaws, List.map_cons, repeatsAfter]
      by_cases missing : comparedName c.name = ""
      · have blank := comparedName_eq_empty_iff.mp missing
        simp [missing, blank, isTitled, Flaw.severity, Flaw.title, ih]
      · have present : Text.allBlank c.name = false := by
          simpa [comparedName_eq_empty_iff] using missing
        by_cases repeated : comparedName c.name ∈ seen
        · simp [missing, present, repeated, isTitled, Flaw.severity, Flaw.title, ih]
        · simp [missing, present, repeated, ih]

theorem countP_bodyFlaws (t : Table α) :
    (bodyFlaws t).countP (isTitled "Duplicate column") = repeats (t.columns.map (·.name)) := by
  have named := countP_columnFlaws t.displayName [] t.columns
  rw [repeatsAfter_nil] at named
  rw [bodyFlaws, ← named]
  split
  · rename_i empty
    rw [List.isEmpty_iff.mp empty]
    rfl
  · rw [List.countP_append]
    split
    · rw [show [Flaw.missingKey t.displayName].countP (isTitled "Duplicate column") = 0 from rfl,
        Nat.zero_add]
    · exact Nat.zero_add _

/-- No flaw of the columns is that of a table with the name of another. -/
theorem countP_bodyFlaws_duplicateTable (t : Table α) :
    (bodyFlaws t).countP (isTitled "Duplicate table name") = 0 := by
  have columns (seen : List String) (cs : List Column) :
      (columnFlaws t.displayName seen cs).countP (isTitled "Duplicate table name") = 0 := by
    induction cs generalizing seen with
    | nil => rfl
    | cons c cs ih =>
        rw [columnFlaws]
        split
        · exact ih seen
        · split <;> exact ih _
  rw [bodyFlaws]
  split
  · rfl
  · rw [List.countP_append, columns]
    split <;> rfl

theorem countP_tableFlaws_duplicateTable (seen : List String) (tables : List (Table α)) :
    (tableFlaws seen tables).countP (isTitled "Duplicate table name" ·.2) =
      repeatsAfter seen (tables.map (·.name)) := by
  induction tables generalizing seen with
  | nil => rfl
  | cons t tables ih =>
      have body : ((bodyFlaws t).map (t.id, ·)).countP (isTitled "Duplicate table name" ·.2) = 0 :=
        List.countP_map.trans (countP_bodyFlaws_duplicateTable t)
      rw [tableFlaws, List.map_cons, repeatsAfter]
      dsimp only
      split
      · rw [List.cons_append, List.countP_cons, List.countP_append, body, ih]
        simp [isTitled, Flaw.title]
      · by_cases repeated : comparedName t.name ∈ seen
        · rw [if_pos (by simpa using repeated), if_pos repeated, List.cons_append,
            List.countP_cons, List.countP_append, body, ih]
          simp [isTitled, Flaw.severity, Flaw.title]
        · rw [if_neg (by simpa using repeated), if_neg repeated, List.countP_append, body, ih,
            Nat.zero_add]

theorem countP_tableFlaws_duplicateColumn (seen : List String) (tables : List (Table α)) :
    (tableFlaws seen tables).countP (isTitled "Duplicate column" ·.2) =
      (tables.map fun t => repeats (t.columns.map (·.name))).sum := by
  induction tables generalizing seen with
  | nil => rfl
  | cons t tables ih =>
      have body : ((bodyFlaws t).map (t.id, ·)).countP (isTitled "Duplicate column" ·.2) =
          repeats (t.columns.map (·.name)) :=
        List.countP_map.trans (countP_bodyFlaws t)
      rw [tableFlaws, List.map_cons, List.sum_cons, ← body]
      dsimp only
      split
      · rw [List.cons_append, List.countP_cons, List.countP_append, ih]
        rfl
      · split
        · rw [List.cons_append, List.countP_cons, List.countP_append, ih]
          rfl
        · rw [List.countP_append, ih]

/-- There is one error for each table with the name of another. -/
theorem duplicateTables_issues (tables : List (Table α)) :
    errorsTitled "Duplicate table name" (issues tables) = repeats (tables.map (·.name)) := by
  rw [errorsTitled_issues, countP_tableFlaws_duplicateTable, repeatsAfter_nil]

/-- There is one error for each column with the name of another of its table. -/
theorem duplicateColumns_issues (tables : List (Table α)) :
    errorsTitled "Duplicate column" (issues tables) =
      (tables.map fun t => repeats (t.columns.map (·.name))).sum := by
  rw [errorsTitled_issues, countP_tableFlaws_duplicateColumn]

end Validation
end SchemaGraph
