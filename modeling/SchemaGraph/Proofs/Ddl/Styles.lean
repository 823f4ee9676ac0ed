import SchemaGraph.Proofs.Ddl.Compilable
import SchemaGraph.Proofs.Text.Words

/-!
# The two styles of a script

A statement that creates a table is written on one line or with a line for each column. The two are
put together from different pieces, but both are the same text with gaps in it: one before each
column and one before the closing bracket. So a pretty script and a compact one have the same words,
whatever names and types have in them.
-/

namespace SchemaGraph.Ddl

open Config Text

variable {α : Type}

/-- A gap that follows each separator may as well stand before each item. -/
theorem append_intercalate {items : List String} (nonempty : items ≠ []) (sep gap : String) :
    gap ++ (sep ++ gap).intercalate items = sep.intercalate (items.map (gap ++ ·)) := by
  induction items with
  | nil => contradiction
  | cons item rest ih =>
      cases rest with
      | nil => simp
      | cons next rest =>
          calc gap ++ (sep ++ gap).intercalate (item :: next :: rest)
              = gap ++ item ++ sep ++ (gap ++ (sep ++ gap).intercalate (next :: rest)) := by
                rw [String.intercalate_cons_cons]
                simp only [String.append_assoc]
            _ = gap ++ item ++ sep ++ sep.intercalate ((next :: rest).map (gap ++ ·)) := by
                rw [ih (List.cons_ne_nil _ _)]
            _ = sep.intercalate ((item :: next :: rest).map (gap ++ ·)) := by
                simp only [List.map_cons, String.intercalate_cons_cons]

/-- What stands before a column. -/
def columnGap (indent : String) : StatementStyle → String
  | .pretty => "\n" ++ indent
  | .compact => " "

/-- What stands before the closing bracket. -/
def closingGap : StatementStyle → String
  | .pretty => "\n"
  | .compact => " "

theorem isGap_columnGap {indent : String} (blank : allBlank indent = true)
    (style : StatementStyle) : IsGap (columnGap indent style) := by
  cases style with
  | pretty => exact IsGap.append (by decide) blank
  | compact => exact (by decide : IsGap " ")

theorem isGap_closingGap (style : StatementStyle) : IsGap (closingGap style) := by
  cases style <;> decide

/-- The two styles of a statement differ in its gaps. -/
theorem createTable_eq (style : StatementStyle) (indent : String) (t : Table α) :
    createTable style indent t = "CREATE TABLE " ++ t.name ++ " (" ++
      ",".intercalate (t.columns.map fun c => columnGap indent style ++ columnDefinition c) ++
      closingGap style ++ ");" := by
  -- the fixed texts, cut where the gaps are
  have openingLine : " (\n" = " (" ++ "\n" := by decide
  have opening : " ( " = " (" ++ " " := by decide
  have closing : " );" = " " ++ ");" := by decide
  have empty : " ( );" = " (" ++ (" " ++ ");") := by decide
  have separatorLine : ",\n" = "," ++ "\n" := by decide
  have separator : ", " = "," ++ " " := by decide
  unfold createTable
  cases columns : t.columns with
  | nil =>
      rw [List.map_nil, List.map_nil, String.intercalate_nil, String.append_empty]
      cases style with
      | pretty =>
          change "CREATE TABLE " ++ t.name ++ " (\n" ++ "" ++ ");" =
            "CREATE TABLE " ++ t.name ++ " (" ++ "\n" ++ ");"
          rw [openingLine, String.append_empty]
          simp only [String.append_assoc, -String.reduceAppend]
      | compact =>
          change "CREATE TABLE " ++ t.name ++ " ( );" =
            "CREATE TABLE " ++ t.name ++ " (" ++ " " ++ ");"
          rw [empty]
          simp only [String.append_assoc, -String.reduceAppend]
  | cons c rest =>
      have nonempty : (c :: rest).map columnDefinition ≠ [] := List.cons_ne_nil _ _
      cases style with
      | pretty =>
          calc "CREATE TABLE " ++ t.name ++ " (\n" ++ (",\n".intercalate
                  (((c :: rest).map columnDefinition).map (indent ++ ·)) ++ "\n") ++ ");"
              = "CREATE TABLE " ++ t.name ++ " (" ++ ("\n" ++ ("," ++ "\n").intercalate
                  (((c :: rest).map columnDefinition).map (indent ++ ·))) ++ "\n" ++ ");" := by
                rw [openingLine, separatorLine]
                simp only [String.append_assoc, -String.reduceAppend]
            _ = _ := by
                rw [append_intercalate (mt List.map_eq_nil_iff.mp nonempty), List.map_map,
                  List.map_map]
                simp only [columnGap, closingGap, Function.comp_def, String.append_assoc,
                  -String.reduceAppend]
      | compact =>
          calc "CREATE TABLE " ++ t.name ++ " ( " ++
                  ", ".intercalate ((c :: rest).map columnDefinition) ++ " );"
              = "CREATE TABLE " ++ t.name ++ " (" ++ (" " ++ ("," ++ " ").intercalate
                  ((c :: rest).map columnDefinition)) ++ " " ++ ");" := by
                rw [opening, separator, closing]
                simp only [String.append_assoc, -String.reduceAppend]
            _ = _ := by
                rw [append_intercalate nonempty, List.map_map]
                rfl

theorem readAlike_createTable {indent : String} (blank : allBlank indent = true) (t : Table α) :
    ReadAlike (createTable .pretty indent t) (createTable .compact indent t) := by
  have gap (style style' : StatementStyle) :
      ReadAlike (columnGap indent style) (columnGap indent style') :=
    .of_gaps (isGap_columnGap blank style) (isGap_columnGap blank style')
  have columns := ReadAlike.intercalate
    (fun c => (gap .pretty .compact).append (.refl (columnDefinition c))) "," t.columns
  have closing : ReadAlike (closingGap .pretty) (closingGap .compact) :=
    .of_gaps (isGap_closingGap _) (isGap_closingGap _)
  rw [createTable_eq, createTable_eq]
  exact (((ReadAlike.refl _).append columns).append closing).append (.refl _)

/-- Nothing but the statements that create tables depends on the style. -/
theorem readAlike_compile {o : Options} (blank : allBlank o.indent = true)
    (tables : List (Table α)) (rs : List Relationship) :
    ReadAlike (compile { o with style := .pretty } tables rs).text
      (compile { o with style := .compact } tables rs).text := by
  have creates := ReadAlike.join
    (fun t : Table α => (readAlike_createTable blank t).append (.refl "\n\n")) tables
  simp only [Script.text, compile, List.map_append, String.join_append, List.map_map]
  exact ((ReadAlike.refl _).append creates).append (.refl _)

/-- Ask for a style, and for all else as before. -/
def Request.inStyle (request : Request) (style : StatementStyle) : Request :=
  { request with style := .str style.name }

theorem Request.options_inStyle (settings : Except Failure Config.Compilation) (request : Request)
    (style : StatementStyle) : (request.inStyle style).options settings =
      (fun o => { o with style }) <$> request.options settings := by
  cases settings with
  | error f => rfl
  | ok c =>
      simp only [Request.options, inStyle, bind, Except.bind, pure, Except.pure]
      rcases choose "Dialect" Dialect.all Dialect.name request.dialect c.dialect with f | dialect
      · rfl
      rcases choose "ReferentialAction" ReferentialAction.all ReferentialAction.name
        request.onDelete c.onDelete with f | onDelete
      · rfl
      rcases choose "ReferentialAction" ReferentialAction.all ReferentialAction.name
        request.onUpdate c.onUpdate with f | onUpdate
      · rfl
      cases style <;> rfl

theorem Request.indent_of_options {settings : Except Failure Config.Compilation}
    {request : Request} {o : Options} (h : request.options settings = .ok o) :
    ∃ c, settings = .ok c ∧ o.indent = c.indent := by
  obtain ⟨c, given, h⟩ := bind_ok h
  obtain ⟨dialect, -, h⟩ := bind_ok h
  obtain ⟨onDelete, -, h⟩ := bind_ok h
  obtain ⟨onUpdate, -, h⟩ := bind_ok h
  cases h
  exact ⟨c, given, rfl⟩

/-- Whatever else is asked for, a request for a pretty script and one for a compact script are
answered with the same words, or are refused for the same reason. -/
theorem words_inStyle {settings : Except Failure Config.Compilation}
    (blank : ∀ c, settings = .ok c → allBlank c.indent = true) (request : Request)
    (tables : List (Table α)) (rs : List Relationship) :
    let answer (style : StatementStyle) : Except Failure (List String) := do
      let o ← (request.inStyle style).options settings
      return words (compile o tables rs).text
    answer .pretty = answer .compact := by
  intro answer
  have answer_eq (style : StatementStyle) : answer style =
      (fun o => words (compile { o with style } tables rs).text) <$> request.options settings := by
    simp only [answer, Request.options_inStyle]
    cases request.options settings <;> rfl
  rw [answer_eq, answer_eq]
  cases read : request.options settings with
  | error f => rfl
  | ok o =>
      obtain ⟨c, given, indent⟩ := Request.indent_of_options read
      have blank : allBlank o.indent = true := by rw [indent]; exact blank c given
      exact congrArg Except.ok (readAlike_compile blank tables rs).words_eq

/-- An order script with tabs, on lines of its own or not. -/
theorem words_inStyle_orders :
    let tabbed : Compilation := { Compilation.shipped with indent := "\t\t" }
    let s := State.orders Position.origin
    let script (style : StatementStyle) := do
      let o ← (Request.inStyle {} style).options (.ok tabbed)
      return words (compile o s.tables s.relationships).text
    (∀ c, .ok tabbed = (.ok c : Except Failure Compilation) → allBlank c.indent = true) ∧
      ∃ ws, script .pretty = .ok ws ∧ script .compact = .ok ws := by
  intro tabbed s script
  have blank : ∀ c, .ok tabbed = (.ok c : Except Failure Compilation) →
      allBlank c.indent = true := by
    intro c given
    obtain rfl : tabbed = c := Except.ok.inj given
    decide
  exact ⟨blank, _, rfl, (words_inStyle blank {} s.tables s.relationships).symm⟩

end SchemaGraph.Ddl
