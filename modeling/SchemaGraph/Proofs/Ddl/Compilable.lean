import SchemaGraph.Proofs.Ddl.ForeignKeys
import SchemaGraph.Proofs.Validation.Repeats

/-!
# What compiles

An export gives a script exactly when the names in the selected tables are sound, which can be said
without going through the tables in any order: names are there, and those of the tables, and those
of the columns of each table, are distinct. The issues tell the same story, an error for each name
too many, and they are numbered from one.
-/

namespace SchemaGraph

variable {α : Type}

/-- Every table and every column has a name, and up to blank ends and case no two tables have the
same, nor have two columns of one table. -/
structure Table.NamesSound (tables : List (Table α)) : Prop where
  named : ∀ t ∈ tables, Text.trim t.name ≠ ""
  distinct : (tables.map fun t => Text.lower (Text.trim t.name)).Nodup
  columnsNamed : ∀ t ∈ tables, ∀ c ∈ t.columns, Text.trim c.name ≠ ""
  columnsDistinct : ∀ t ∈ tables, (t.columns.map fun c => Text.lower (Text.trim c.name)).Nodup

theorem Table.allNamed_iff_namesSound {tables : List (Table α)} :
    AllNamed tables ↔ NamesSound tables := by
  have blank (n : String) : Text.allBlank n = false ↔ Text.trim n ≠ "" := by
    rw [ne_eq, ← Text.allBlank_iff, Bool.not_eq_true]
  have empty (n : String) : comparedName n ≠ "" ↔ Text.trim n ≠ "" := by
    rw [ne_eq, comparedName_eq_empty_iff, Bool.not_eq_true, blank]
  constructor
  · intro h
    exact ⟨fun t ht => (blank _).mp (h.named t ht), h.distinct,
      fun t ht c hc => (empty _).mp ((h.columns t ht).named c hc),
      fun t ht => (h.columns t ht).distinct⟩
  · intro h
    exact ⟨fun t ht => (blank _).mpr (h.named t ht), h.distinct,
      fun t ht => ⟨fun c hc => (empty _).mpr (h.columnsNamed t ht c hc), h.columnsDistinct t ht⟩⟩

/-- The actions in the settings are known. An export asks for a dialect itself, so that of the
settings does not matter to it. -/
structure Config.Compilation.Usable (c : Config.Compilation) : Prop where
  onDelete : ∃ a : ReferentialAction, a.name = c.onDelete
  onUpdate : ∃ a : ReferentialAction, a.name = c.onUpdate

/-- What the settings that are shipped say about compilation. -/
def Config.Compilation.shipped : Config.Compilation :=
  ⟨"PostgreSQL", "NO ACTION", "NO ACTION", .pretty, true, "  "⟩

theorem Config.Compilation.usable_shipped : shipped.Usable := ⟨⟨.noAction, rfl⟩, ⟨.noAction, rfl⟩⟩

theorem Config.Settings.compilation_shipped :
    (ofFile ⟨"config.yaml", .document Config.shipped⟩).compilation = .ok .shipped := rfl

namespace Ddl

/-- A name that is known is found, whether it was asked for or is that of the settings. -/
theorem exists_choose {β : Type} {all : List β} {nameOf : β → String}
    (known : ∀ b, b ∈ all ∧ nameOf b ≠ "") (family : String) (asked : Option β) (default : String)
    (hasDefault : asked = none → ∃ b, nameOf b = default) :
    ∃ b, choose family all nameOf (.ofOption (.str <| nameOf ·) asked) default = .ok b := by
  have found (b : β) : ∃ b', all.find? (fun x => nameOf x == nameOf b) = some b' :=
    Option.isSome_iff_exists.mp (List.find?_isSome.mpr ⟨b, (known b).1, by simp⟩)
  cases asked with
  | none =>
      obtain ⟨b, rfl⟩ := hasDefault rfl
      obtain ⟨b', hb'⟩ := found b
      exact ⟨b', by simp [choose, Json.ofOption, hb']⟩
  | some b =>
      obtain ⟨b', hb'⟩ := found b
      exact ⟨b', by simp [choose, Json.ofOption, (known b).2, hb']⟩

theorem exists_options {c : Config.Compilation} (usable : c.Usable) (dialect : Dialect)
    (o : ExportOptions) : ∃ options, (o.request dialect).options (.ok c) = .ok options := by
  have dialects (d : Dialect) : d ∈ Dialect.all ∧ d.name ≠ "" := by cases d <;> decide
  have actions (a : ReferentialAction) : a ∈ ReferentialAction.all ∧ a.name ≠ "" := by
    cases a <;> decide
  obtain ⟨d, hd⟩ := exists_choose dialects "Dialect" (some dialect) c.dialect nofun
  obtain ⟨a, ha⟩ := exists_choose actions "ReferentialAction" o.onDelete c.onDelete
    fun _ => usable.onDelete
  obtain ⟨b, hb⟩ := exists_choose actions "ReferentialAction" o.onUpdate c.onUpdate
    fun _ => usable.onUpdate
  rw [Json.ofOption] at hd
  simp only [Request.options, ExportOptions.request, bind, Except.bind, hd, ha, hb]
  exact ⟨_, rfl⟩

/-- Under usable settings, an export that passes validation gives a script. -/
theorem exists_exportSchema_of_passes {c : Config.Compilation} (usable : c.Usable)
    (o : ExportOptions) (selection : Option (List String)) {s : State α}
    (passes : Validation.isBlocked
      (Validation.issues (Table.select selection s.tables)) = false) :
    ∃ options, exportSchema (.ok c) o selection s =
      .ok ⟨some (compile options (Table.select selection s.tables) s.relationships).text,
        Validation.issues (Table.select selection s.tables), o.dialect.getD s.dialect⟩ := by
  obtain ⟨options, read⟩ := exists_options usable (o.dialect.getD s.dialect) o
  exact ⟨options, by rw [exportSchema_of_passes passes, read]; rfl⟩

/-- Whether an export gives a script is decided by the names in the selected tables alone, and there
is an error for each table, and for each column within its table, that repeats a name. -/
theorem exportSchema_isDecided {c : Config.Compilation} (usable : c.Usable) (o : ExportOptions)
    (selection : Option (List String)) (s : State α) :
    let tables := Table.select selection s.tables
    let issues := Validation.issues tables
    (∃ e, exportSchema (.ok c) o selection s = .ok e ∧ e.issues = issues ∧
        (e.sql.isSome = true ↔ Table.NamesSound tables)) ∧
      Validation.errorsTitled "Duplicate table name" issues = repeats (tables.map (·.name)) ∧
      Validation.errorsTitled "Duplicate column" issues =
        (tables.map fun t => repeats (t.columns.map (·.name))).sum ∧
      issues.map (·.id) = (List.range issues.length).map fun i => s!"issue-{i + 1}" := by
  intro tables issues
  refine ⟨?_, Validation.duplicateTables_issues tables, Validation.duplicateColumns_issues tables,
    Validation.map_id_issues tables⟩
  rw [← Table.allNamed_iff_namesSound, ← Validation.isBlocked_issues_eq_false_iff]
  cases passes : Validation.isBlocked issues with
  | true => exact ⟨⟨none, issues, o.dialect.getD s.dialect⟩, if_pos passes, rfl, by simp⟩
  | false =>
      obtain ⟨options, exported⟩ := exists_exportSchema_of_passes usable o selection passes
      exact ⟨_, exported, rfl, by simp⟩

/-- Under the settings that are shipped, orders compile. -/
theorem exportSchema_isDecided_orders :
    let settings := Config.Settings.ofFile ⟨"config.yaml", .document Config.shipped⟩
    let s := State.orders Position.origin
    settings.compilation = .ok .shipped ∧ Config.Compilation.shipped.Usable ∧
      ∃ e, exportSchema settings.compilation {} none s = .ok e ∧ e.sql.isSome = true := by
  intro settings s
  have read : settings.compilation = .ok .shipped := Config.Settings.compilation_shipped
  have usable := Config.Compilation.usable_shipped
  have sound : Table.NamesSound (Table.select none s.tables) :=
    ⟨by decide, by decide, by decide, by decide⟩
  obtain ⟨⟨e, exported, -, decided⟩, -⟩ := exportSchema_isDecided usable {} none s
  exact ⟨read, usable, e, by rw [read, exported], decided.mpr sound⟩

end Ddl
end SchemaGraph
