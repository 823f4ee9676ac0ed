import SchemaGraph.Proofs.Decode.Valid
import SchemaGraph.Schema.Check
import SchemaGraph.Snapshot.Writer

/-!
# Reading back what was written

A column, a table or a relationship that was written as a document is read back from it. Reading
puts what it reads into normal form, so this holds of columns in normal form, and of relationships
it gives the normal form.
-/

namespace SchemaGraph

open Decode

/-- A column in the form in which columns are stored: it has a type, and its reference, if it has
one, names a table. -/
structure Column.IsStored (c : Column) : Prop where
  typed : Text.allBlank c.dataType = false
  named : ∀ r, c.references = some r → Text.allBlank r.table = false

instance (c : Column) : Decidable c.IsStored :=
  decidable_of_iff
    (Text.allBlank c.dataType = false ∧ ∀ r ∈ c.references, Text.allBlank r.table = false)
    ⟨fun h => ⟨h.1, h.2⟩, fun h => ⟨h.typed, h.named⟩⟩

/-- A reference to a table that is given as text names none exactly if the text is blank. -/
theorem ColumnReference.namesNoTable_of_table {ms : Members} {table : String}
    (found : ms.get? "table" = some (.str table)) :
    namesNoTable ms = .valid (Text.allBlank table) := by
  rw [namesNoTable, found]
  by_cases empty : table = ""
  · subst empty
    rfl
  · have given : (Json.str table).isGiven = true := bne_iff_ne.mpr empty
    simp only [given, if_true]
    rfl

theorem ColumnReference.checkKept_toJson (r : ColumnReference)
    (named : Text.allBlank r.table = false) :
    checkKept r.toJson = .valid (some r) := by
  have kept : namesNoTable [("table", .str r.table), ("column", .str r.column)] = .valid false := by
    rw [namesNoTable_of_table rfl, named]
  simp only [toJson, checkKept, kept]
  rfl

/-- Reading depends on the members that are looked up, wherever they stand in the object. -/
theorem Column.ofMembers_of_get? {ms : Members} {c : Column} (stored : c.IsStored)
    (id : ms.get? "id" = some (.str c.id)) (name : ms.get? "name" = some (.str c.name))
    (dataType : ms.get? "type" = some (.str c.dataType))
    (primary : ms.get? "isPrimaryKey" = some (.bool c.isPrimaryKey))
    (foreign : ms.get? "isForeignKey" = some (.bool c.isForeignKey))
    (nullable : ms.get? "isNullable" = some (.bool c.isNullable))
    (references : ms.get? "references" =
      some (.ofOption ColumnReference.toJson c.references)) : ofMembers ms = .valid c := by
  have kept : ColumnReference.checkKept (.ofOption ColumnReference.toJson c.references) =
      .valid c.references := by
    cases h : c.references with
    | none => rfl
    | some r => exact r.checkKept_toJson (stored.named r h)
  have typed : DataType.check (.str c.dataType) = .valid c.dataType :=
    congrArg Checked.valid (DataType.store_str stored.typed DataType.fallback)
  unfold ofMembers typeNames
  rw [required_of_find? (find?_of_get? id _),
    optional_of_find? (find?_of_get? name _) (rfl : checkName _ = .valid c.name),
    optional_of_find? (find?_of_get? dataType _) typed,
    optional_of_find? (find?_of_get? primary _) (rfl : flag _ = .valid c.isPrimaryKey),
    optional_of_find? (find?_of_get? foreign _) (rfl : flag _ = .valid c.isForeignKey),
    optional_of_find? (find?_of_get? nullable _) (rfl : flag _ = .valid c.isNullable),
    optional_of_find? (find?_of_get? references _) kept]
  rfl

theorem Column.check_toJson {c : Column} (stored : c.IsStored) : check c.toJson = .valid c :=
  ofMembers_of_get? stored rfl rfl rfl rfl rfl rfl rfl

namespace Table

theorem ofMembers_of_get? {ms : Members} {t : Table Float} (stored : ∀ c ∈ t.columns, c.IsStored)
    (id : ms.get? "id" = some (.str t.id)) (name : ms.get? "name" = some (.str t.name))
    (columns : ms.get? "columns" = some (.arr (t.columns.map Column.toJson)))
    (position : ms.get? "position" = some t.position.toJson)
    (color : ms.get? "color" = some (.ofText? t.color))
    (description : ms.get? "description" = some (.ofText? t.description)) :
    ofMembers ms = .valid t := by
  have read : list Column.check (.arr (t.columns.map Column.toJson)) = .valid t.columns :=
    checkFrom_map t.columns (fun c hc => Column.check_toJson (stored c hc)) 0
  unfold ofMembers ofMembersWith
  rw [required_of_find? (find?_of_get? id _),
    optional_of_find? (find?_of_get? name _) (rfl : checkName _ = .valid t.name),
    optional_of_find? (find?_of_get? columns _) read,
    optional_of_find? (find?_of_get? position _) (rfl : Position.check _ = .valid t.position),
    optional_of_find? (find?_of_get? color _) (nullable_text_ofText? t.color),
    optional_of_find? (find?_of_get? description _) (nullable_text_ofText? t.description)]
  rfl

theorem check_toJson {t : Table Float} (stored : ∀ c ∈ t.columns, c.IsStored) :
    check t.toJson = .valid t :=
  ofMembers_of_get? stored rfl rfl rfl rfl rfl rfl

end Table

namespace Relationship

private def isHandleWordOf (ref word : String) : Bool := word.toList.isPrefixOf ref.toList

private theorem withoutHandle_eq (ref : String) :
    withoutHandle ref =
      match ["source-", "target-"].find? (isHandleWordOf ref) with
      | some word => String.ofList (ref.toList.drop word.toList.length)
      | none => ref := rfl

private theorem isHandleWordOf_iff {ref word : String} :
    isHandleWordOf ref word = true ↔ word.toList <+: ref.toList :=
  List.isPrefixOf_iff_prefix

private theorem drop_word (word ref : String) :
    String.ofList ((word ++ ref).toList.drop word.toList.length) = ref := by
  rw [String.toList_append, List.drop_left, String.ofList_toList]

/-- A text is kept exactly if it has no handle word in front. -/
theorem withoutHandle_eq_self_iff {ref : String} :
    withoutHandle ref = ref ↔
      ¬ "source-".toList <+: ref.toList ∧ ¬ "target-".toList <+: ref.toList := by
  rw [withoutHandle_eq]
  cases found : ["source-", "target-"].find? (isHandleWordOf ref) with
  | some word =>
      have first : word.toList <+: ref.toList := isHandleWordOf_iff.mp (List.find?_some found)
      have known := List.mem_of_find?_eq_some found
      simp only [List.mem_cons, List.not_mem_nil, or_false] at known
      have isWord : word.toList ≠ [] := by
        rcases known with rfl | rfl <;> decide
      -- What is left behind a word is shorter than the text.
      have shorter : String.ofList (ref.toList.drop word.toList.length) ≠ ref := by
        intro he
        have lengths := congrArg (fun s : String => s.toList.length) he
        have positive := List.length_pos_iff.mpr isWord
        have fits := first.length_le
        simp only [String.toList_ofList, List.length_drop] at lengths
        omega
      refine ⟨fun he => absurd he shorter, fun apart => ?_⟩
      rcases known with rfl | rfl
      · exact absurd first apart.1
      · exact absurd first apart.2
  | none =>
      rw [List.find?_eq_none] at found
      refine ⟨fun _ => ⟨?_, ?_⟩, fun _ => rfl⟩
      · exact fun first => found "source-" (by simp) (isHandleWordOf_iff.mpr first)
      · exact fun first => found "target-" (by simp) (isHandleWordOf_iff.mpr first)

theorem withoutHandle_source (ref : String) : withoutHandle ("source-" ++ ref) = ref := by
  have first : isHandleWordOf ("source-" ++ ref) "source-" = true := by
    rw [isHandleWordOf_iff, String.toList_append]
    exact List.prefix_append _ _
  rw [withoutHandle_eq, List.find?_cons_of_pos first]
  exact drop_word "source-" ref

theorem withoutHandle_target (ref : String) : withoutHandle ("target-" ++ ref) = ref := by
  have first : isHandleWordOf ("target-" ++ ref) "target-" = true := by
    rw [isHandleWordOf_iff, String.toList_append]
    exact List.prefix_append _ _
  -- The two words differ in their first letter.
  have other : ¬ isHandleWordOf ("target-" ++ ref) "source-" = true := by
    unfold isHandleWordOf
    rw [String.toList_append]
    exact Bool.false_ne_true
  rw [withoutHandle_eq, List.find?_cons_of_neg other, List.find?_cons_of_pos first]
  exact drop_word "target-" ref

theorem normal_eq_self_iff {r : Relationship} :
    r.normal = r ↔ withoutHandle r.sourceColumn = r.sourceColumn ∧
      withoutHandle r.targetColumn = r.targetColumn := by
  cases r
  simp [normal]

/-- Reading an edge takes the handle words off its ends, under whichever names these stand. -/
theorem ofMembers_of_get? {ms : Members} {r : Relationship} {source target sourceName targetName :
      String}
    (id : ms.get? "id" = some (.str r.id))
    (sourceTable : ms.get? "source" = some (.str r.source))
    (targetTable : ms.get? "target" = some (.str r.target))
    (sourceFound : ms.find? sourceNames = some (sourceName, .str source))
    (sourceColumn : withoutHandle source = r.sourceColumn)
    (targetFound : ms.find? targetNames = some (targetName, .str target))
    (targetColumn : withoutHandle target = r.targetColumn)
    (label : optional ["label"] none (nullable text) ms = .valid r.label) :
    ofMembers ms = .valid r := by
  have source_ : checkEnd (.str source) = .valid r.sourceColumn := by
    rw [← sourceColumn]
    rfl
  have target_ : checkEnd (.str target) = .valid r.targetColumn := by
    rw [← targetColumn]
    rfl
  unfold ofMembers
  rw [required_of_find? (find?_of_get? id _), required_of_find? (find?_of_get? sourceTable _),
    required_of_find? (find?_of_get? targetTable _), required_of_find? sourceFound,
    required_of_find? targetFound, source_, target_, label]
  rfl

theorem check_toJson (r : Relationship) : check r.toJson = .valid r.normal :=
  ofMembers_of_get? rfl rfl rfl rfl rfl rfl rfl
    (optional_of_find? rfl (nullable_text_ofText? r.label))

end Relationship
end SchemaGraph
