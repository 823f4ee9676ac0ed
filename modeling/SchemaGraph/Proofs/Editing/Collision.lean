import SchemaGraph.Proofs.Editing.Free
import SchemaGraph.Proofs.Editing.Linked
import SchemaGraph.Proofs.Editing.Refused
import SchemaGraph.Proofs.Validation.Repeats

/-!
# Names of new tables and columns

A new table or column is given a name that none of the others has, up to case. The names of the
others are taken as they are stored for this, while validation cuts off their blank ends before it
compares them. So a new name can still be a repetition, and there is one way only: a stored name
that is equal to it but for blank ends. Names are stored with blank ends by renaming and loading.
-/

namespace SchemaGraph

variable {α : Type} {names : List String} {name base : String}

/-- Whether one of some names has blank ends and is equal to a name but for these. -/
def hasPadded (names : List String) (name : String) : Bool :=
  names.any fun n => Text.trim n != n && comparedName n == comparedName name

theorem hasPadded_iff :
    hasPadded names name = true ↔
      ∃ n ∈ names, Text.trim n ≠ n ∧ comparedName n = comparedName name := by
  simp [hasPadded]

/-- A name that is not missing is not equal to one that is. -/
theorem mem_comparedNames_iff (present : Text.allBlank name = false) :
    comparedName name ∈ comparedNames names ↔ comparedName name ∈ names.map comparedName := by
  simp only [comparedNames, List.mem_map, List.mem_filter]
  constructor
  · rintro ⟨n, ⟨hn, -⟩, same⟩
    exact ⟨n, hn, same⟩
  · rintro ⟨n, hn, same⟩
    refine ⟨n, ⟨hn, ?_⟩, same⟩
    have empty : comparedName n = "" ↔ comparedName name = "" := by rw [same]
    rw [comparedName_eq_empty_iff, comparedName_eq_empty_iff, present] at empty
    simpa using empty

/-- A name at the end is one more repetition exactly if it is among the names before it. -/
theorem repeats_concat (present : Text.allBlank name = false) :
    repeats (names ++ [name]) =
      repeats names + if comparedName name ∈ comparedNames names then 1 else 0 := by
  have more : comparedNames (names ++ [name]) = comparedNames names ++ [comparedName name] := by
    simp [comparedNames, present]
  have different : (comparedNames names ++ [comparedName name]).toFinset =
      insert (comparedName name) (comparedNames names).toFinset := by
    rw [List.toFinset_append, List.toFinset_cons, List.toFinset_nil, insert_empty_eq,
      Finset.union_comm, Finset.singleton_union]
  have fewer : (comparedNames names).toFinset.card ≤ (comparedNames names).length :=
    List.toFinset_card_le _
  rw [repeats, more, List.length_append, List.length_singleton, different, repeats]
  split
  · rename_i repeated
    rw [Finset.insert_eq_of_mem (List.mem_toFinset.mpr repeated)]
    omega
  · rename_i new
    rw [Finset.card_insert_of_notMem (by rwa [List.mem_toFinset])]
    omega

/-- A free name repeats a stored one only through the blank ends of that one. -/
theorem repeats_concat_of_free (trimmed : Text.trim name = name) (present : name ≠ "")
    (free : isTaken names name = false) :
    repeats (names ++ [name]) = repeats names + if hasPadded names name then 1 else 0 := by
  have named : Text.allBlank name = false := by
    rw [← Bool.not_eq_true, Text.allBlank_iff, trimmed]
    exact present
  have among : comparedName name ∈ comparedNames names ↔ hasPadded names name = true := by
    rw [mem_comparedNames_iff named, hasPadded_iff, List.mem_map]
    constructor
    · rintro ⟨n, hn, same⟩
      refine ⟨n, hn, fun plain => ?_, same⟩
      rw [comparedName, comparedName, trimmed, plain] at same
      have taken : isTaken names name = true :=
        isTaken_iff.mpr (List.mem_map.mpr ⟨n, hn, same⟩)
      rw [free] at taken
      cases taken
    · rintro ⟨n, hn, -, same⟩
      exact ⟨n, hn, same⟩
  simp only [repeats_concat named, among]

/-- The names for what is asked for without one are names, and have no blank ends. -/
structure Config.Editing.NamesPlain (e : Config.Editing) : Prop where
  table : Text.trim e.tableName = e.tableName ∧ e.tableName ≠ ""
  column : Text.trim e.columnName = e.columnName ∧ e.columnName ≠ ""

/-- The name to start from is never blank and never has blank ends. -/
theorem trimmed_of_baseName {v : Json} {default : String}
    (plain : Text.trim default = default ∧ default ≠ "") (h : baseName v default = .ok base) :
    Text.trim base = base ∧ base ≠ "" := by
  unfold baseName at h
  split at h
  · cases h
    exact plain
  · split at h
    · rename_i s
      cases h
      split
      · exact plain
      · rename_i present
        exact ⟨Text.trim_trim, fun empty => present (Text.allBlank_iff.mpr empty)⟩
    · cases h

theorem trimmed_freeName (plain : Text.trim base = base ∧ base ≠ "") (names : List String) :
    Text.trim (freeName base names) = freeName base names ∧ freeName base names ≠ "" := by
  obtain ⟨k, found, -⟩ := freeName_eq_candidateName base names
  rw [found]
  refine ⟨trim_candidateName plain.1 plain.2 k, ?_⟩
  rw [candidateName_eq_append, ne_eq, String.append_eq_empty_iff, not_and]
  exact fun empty => absurd empty plain.2

theorem repeats_concat_freeName (plain : Text.trim base = base ∧ base ≠ "") :
    repeats (names ++ [freeName base names]) =
      repeats names + if hasPadded names (freeName base names) then 1 else 0 :=
  repeats_concat_of_free (trimmed_freeName plain names).1 (trimmed_freeName plain names).2
    (freeName_isFree base names)

namespace Editing

open Validation

variable {settings : Config.Settings} {defaults : Config.Editing}

theorem exists_addTable (configured : settings.editing = .ok defaults) {form : NewTable}
    {s : State Float} {supply : Supply} (free : s.table? (supply.idFor form.id.join) = none)
    (drafts : ∀ ms ∈ form.drafts, Column.IsDraft ms) :
    ∃ s', ((addTable settings form.draft s).runOn supply).1 = .ok s' := by
  refine (addTable_failsOnly configured form s supply).exists_ok fun f failed => ?_
  rcases failed with ⟨taken, -⟩ | ⟨-, fails⟩
  · rw [free] at taken
    cases taken
  · obtain ⟨ms, hms, bad⟩ := fails.exists_not_isDraft
    exact bad (drafts ms hms)

theorem exists_addColumn (configured : settings.editing = .ok defaults) {table : String}
    {form : NewColumn} {s : State α} {supply : Supply} {t : Table α}
    (found : s.table? table = some t) (free : t.column? (supply.idFor form.id.join) = none) :
    ∃ s', ((addColumn settings table form.draft s).runOn supply).1 = .ok s' := by
  refine (addColumn_failsOnly configured table form s supply).exists_ok fun f failed => ?_
  have taken := failed.2 t found
  rw [free] at taken
  cases taken

/-- Adding a table or a column makes for one more repeated name exactly if one of the names in use
has blank ends and is equal to the new name but for these. The names of the others are as they were,
and nothing but an id that is taken and, for a table, a document that is no column stands in the way
of an addition. -/
theorem additions_repeat_iff (configured : settings.editing = .ok defaults)
    (plain : defaults.NamesPlain) :
    (∀ (d : TableDraft) (s : State Float), (addTable settings d s).Ensures fun s' =>
      ∃ t, d.MakesTable settings s t ∧ s' = { s with tables := s.tables ++ [t] } ∧
        errorsTitled "Duplicate table name" (issues s'.tables) =
          errorsTitled "Duplicate table name" (issues s.tables) +
            if hasPadded (s.tables.map (·.name)) t.name then 1 else 0) ∧
      (∀ (table : String) (d : ColumnDraft) (s : State α),
        (addColumn settings table d s).Ensures fun s' =>
          ∃ t c, s.table? table = some t ∧ d.MakesColumn settings t c ∧
            s' = s.replaceTable table { t with columns := t.columns ++ [c] } ∧
            errorsTitled "Duplicate column" (issues [{ t with columns := t.columns ++ [c] }]) =
              errorsTitled "Duplicate column" (issues [t]) +
                if hasPadded (t.columns.map (·.name)) c.name then 1 else 0) ∧
      (∀ (form : NewTable) (s : State Float) (supply : Supply),
        s.table? (supply.idFor form.id.join) = none → (∀ ms ∈ form.drafts, Column.IsDraft ms) →
          ∃ s', ((addTable settings form.draft s).runOn supply).1 = .ok s') ∧
      ∀ (table : String) (form : NewColumn) (s : State α) (supply : Supply) (t : Table α),
        s.table? table = some t → t.column? (supply.idFor form.id.join) = none →
          ∃ s', ((addColumn settings table form.draft s).runOn supply).1 = .ok s' := by
  refine ⟨fun d s => ?_, fun table d s => ?_, fun form s supply => exists_addTable configured,
    fun table form s supply t => exists_addColumn configured⟩
  · refine (addTable_ensures settings d s).mono ?_
    rintro s' ⟨t, new, rfl⟩
    obtain ⟨read, base, same, asked, named⟩ := new.named
    obtain rfl := Except.ok.inj (configured.symm.trans same)
    refine ⟨t, new, rfl, ?_⟩
    rw [duplicateTables_issues, duplicateTables_issues, List.map_append, List.map_singleton, named]
    exact repeats_concat_freeName (trimmed_of_baseName plain.table asked)
  · refine (addColumn_ensures settings table d s).mono ?_
    rintro s' ⟨t, c, found, new, rfl⟩
    obtain ⟨read, base, same, asked, named⟩ := new.named
    obtain rfl := Except.ok.inj (configured.symm.trans same)
    refine ⟨t, c, found, new, rfl, ?_⟩
    rw [duplicateColumns_issues, duplicateColumns_issues, List.map_singleton, List.map_singleton,
      List.sum_singleton, List.sum_singleton, List.map_append, List.map_singleton, named]
    exact repeats_concat_freeName (trimmed_of_baseName plain.column asked)

/-- Under the settings that are shipped, a second table of orders gets a name of its own. -/
theorem additions_repeat_iff_orders :
    let settings := Config.Settings.ofFile ⟨"config.yaml", .document Config.shipped⟩
    let s := State.orders Position.origin
    let form : NewTable := { name := some (some " Orders ") }
    ∃ defaults, settings.editing = .ok defaults ∧ defaults.NamesPlain ∧
      ∃ s', ((addTable settings form.draft s).runOn ⟨Nat.repr, 0⟩).1 = .ok s' ∧
        errorsTitled "Duplicate table name" (issues s'.tables) = 0 := by
  intro settings s form
  let defaults : Config.Editing :=
    ⟨"new_table", "new_column", "VARCHAR", [("x", Float.ofInt 100), ("y", Float.ofInt 100)]⟩
  have configured : settings.editing = .ok defaults := rfl
  have plain : defaults.NamesPlain := ⟨by decide, by decide⟩
  obtain ⟨tables, -, added, -⟩ := additions_repeat_iff (α := Float) configured plain
  obtain ⟨s', success⟩ := added form s ⟨Nat.repr, 0⟩ rfl nofun
  obtain ⟨t, -, -, errors⟩ := tables form.draft s _ s' success
  refine ⟨defaults, configured, plain, s', success, ?_⟩
  have none : errorsTitled "Duplicate table name" (issues s.tables) = 0 := by decide
  rw [errors, none]
  rfl

/-- Users that were renamed with a blank at either end, and so was their id. -/
def paddedUsers : State Float where
  tables := [{
    id := "t1"
    name := " users "
    columns := [{ id := "c1", name := " id ", dataType := "INT", isPrimaryKey := true }]
    position := Position.origin }]

/-- Another table of users and another id are given the names of those that are there. -/
theorem additions_repeat_paddedUsers :
    let settings := Config.Settings.ofFile ⟨"config.yaml", .document Config.shipped⟩
    errorsTitled "Duplicate table name" (issues paddedUsers.tables) = 0 ∧
      errorsTitled "Duplicate column" (issues paddedUsers.tables) = 0 ∧
      (∃ s', ((addTable settings { name := .str "users" } paddedUsers).runOn ⟨Nat.repr, 0⟩).1 =
          .ok s' ∧ errorsTitled "Duplicate table name" (issues s'.tables) = 1) ∧
      ∃ s', ((addColumn settings "t1" { name := .str "id" } paddedUsers).runOn ⟨Nat.repr, 0⟩).1 =
          .ok s' ∧ errorsTitled "Duplicate column" (issues s'.tables) = 1 :=
  ⟨by decide, by decide, ⟨_, rfl, by decide⟩, ⟨_, rfl, by decide⟩⟩

end Editing
end SchemaGraph
