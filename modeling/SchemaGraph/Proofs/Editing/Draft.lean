import SchemaGraph.Proofs.Editing.Failing
import SchemaGraph.Proofs.Schema.Deep
import SchemaGraph.Proofs.Schema.Written
import SchemaGraph.Session

/-!
# Drafts of new records

The fields of a command have been checked, so the drafts that are made of them turn into records
whatever ids are drawn for them. Only the columns of a new table are objects that nothing has
checked. Whether one of them is a column once it has an id does not depend on the id, nor does
whether the check of it is cut short.
-/

namespace SchemaGraph

open Decode

/-- The id asked for, unless it is empty, and otherwise the next one. -/
def Supply.idFor (supply : Supply) (asked : Option String) : String :=
  (asked.filter (· != "")).getD supply.draw.1

theorem Supply.idFor_of_ne (supply : Supply) {id : String} (h : id ≠ "") :
    supply.idFor (some id) = id := by
  rw [idFor, Option.filter_some, if_pos (bne_iff_ne.mpr h), Option.getD_some]

theorem Edit.runOn_givenId_ofText? (asked : Option String) (supply : Supply) :
    ∃ rest, (givenId (.ofText? asked)).runOn supply = (.ok (.str (supply.idFor asked)), rest) := by
  cases asked with
  | none => exact ⟨supply.draw.2, rfl⟩
  | some id =>
      by_cases empty : id = ""
      · subst empty
        exact ⟨supply.draw.2, rfl⟩
      · have given : (id != "") = true := bne_iff_ne.mpr empty
        refine ⟨supply, ?_⟩
        rw [supply.idFor_of_ne empty, givenId, Json.ofText?, Json.ofOption, Json.isGiven_str,
          if_pos given, runOn_pure]

/-- Asking for an id never fails. -/
theorem Edit.failsOnly_givenId_ofText? (asked : Option String) (supply : Supply)
    (F : Failure → Prop) : (givenId (.ofText? asked)).FailsOnly supply F := by
  obtain ⟨rest, run⟩ := runOn_givenId_ofText? asked supply
  intro f h
  rw [run] at h
  cases h

theorem Edit.eq_idFor_of_givenId {asked : Option String} {supply rest : Supply} {id : Json}
    (h : (givenId (.ofText? asked)).runOn supply = (.ok id, rest)) :
    id = .str (supply.idFor asked) := by
  obtain ⟨rest', run⟩ := runOn_givenId_ofText? asked supply
  rw [run] at h
  exact (Except.ok.inj (congrArg Prod.fst h)).symm

theorem baseName_ofText? (asked : Option String) (default : String) :
    ∃ name, baseName (.ofText? asked) default = .ok name := by
  cases asked with
  | none => exact ⟨default, rfl⟩
  | some name =>
      unfold baseName
      split
      · exact ⟨_, rfl⟩
      · exact ⟨_, rfl⟩

namespace Members

theorem get?_append (ms ms' : Members) (name : String) :
    Members.get? (ms ++ ms') name = (ms.get? name).or (ms'.get? name) := by
  induction ms with
  | nil => rfl
  | cons m ms ih =>
      obtain ⟨n, v⟩ := m
      rw [List.cons_append, get?_cons, get?_cons, ih]
      split <;> rfl

/-- A member that is added changes no other. -/
theorem get?_putNew_of_ne (ms : Members) {name other : String} (v : Json) (h : other ≠ name) :
    (ms.putNew name v).get? other = ms.get? other := by
  unfold putNew
  split
  · rfl
  · rw [get?_append, get?_cons, if_neg h, get?_nil, Option.or_none]

theorem get?_putNew_self (ms : Members) (name : String) (v : Json) :
    (ms.putNew name v).get? name = some ((ms.get? name).getD v) := by
  unfold putNew
  split
  · rename_i isThere
    obtain ⟨w, hw⟩ := Option.isSome_iff_exists.mp isThere
    rw [hw, Option.getD_some]
  · rename_i absent
    have none : ms.get? name = none := Option.not_isSome_iff_eq_none.mp absent
    rw [get?_append, none, Option.none_or, get?_cons, if_pos rfl, Option.getD_none]

theorem find?_putNew_of_notMem (ms : Members) {name : String} (v : Json) {names : List String}
    (h : name ∉ names) : (ms.putNew name v).find? names = ms.find? names := by
  induction names with
  | nil => rfl
  | cons n names ih =>
      obtain ⟨first, rest⟩ := List.ne_and_not_mem_of_not_mem_cons h
      unfold find? at ih ⊢
      rw [List.findSome?_cons, List.findSome?_cons, get?_putNew_of_ne ms v first.symm, ih rest]

end Members

namespace Decode

variable {β : Type} {ms : Members} {name : String}

/-- A field that does not read a member is read as before after that one is put. -/
theorem optional_putNew {names : List String} (default : β) (check : Json → Checked β)
    (ms : Members) (v : Json) (absent : name ∉ names) :
    Decode.optional names default check (ms.putNew name v) =
      Decode.optional names default check ms := by
  simp only [Decode.optional, sent, Members.find?_putNew_of_notMem ms v absent]

/-- Every text will do where a text is put. -/
theorem exists_required_putNew {s : String}
    (h : ∃ read, required [name] text (ms.putNew name (.str s)) = .valid read) (other : String) :
    ∃ read, required [name] text (ms.putNew name (.str other)) = .valid read := by
  rw [required_of_find? (find?_of_get? (Members.get?_putNew_self ms name _) [])] at h ⊢
  cases given : ms.get? name with
  | none => exact ⟨other, rfl⟩
  | some v => rwa [given] at h

end Decode

/-- Whether an object makes a column once it has an id. -/
def Column.IsDraft (ms : Members) : Prop :=
  ∃ c, check (.obj (ms.putNew "id" (.str ""))) = .valid c

/-- Which id a column gets makes no difference to whether it can be read. -/
theorem Column.exists_check_putNew {ms : Members} {id : String}
    (h : ∃ c, check (.obj (ms.putNew "id" (.str id))) = .valid c) (other : String) :
    ∃ c, check (.obj (ms.putNew "id" (.str other))) = .valid c := by
  simp only [check, record, ofMembers, typeNames, Checked.exists_seq_eq_valid_iff,
    Checked.exists_fmap_eq_valid_iff, optional_putNew, List.mem_cons, List.not_mem_nil,
    String.reduceEq, or_self, not_false_eq_true] at h ⊢
  obtain ⟨⟨⟨⟨⟨⟨readId, name⟩, dataType⟩, primary⟩, foreign⟩, nullable⟩, references⟩ := h
  exact ⟨⟨⟨⟨⟨⟨exists_required_putNew readId other, name⟩, dataType⟩, primary⟩, foreign⟩,
    nullable⟩, references⟩

theorem Column.isTooDeep_putNew_iff {ms : Members} {id : Json} :
    IsTooDeep (ms.putNew "id" id) ↔ IsTooDeep ms := by
  have types : (ms.putNew "id" id).find? typeNames = ms.find? typeNames :=
    Members.find?_putNew_of_notMem ms id (by decide)
  have references : (ms.putNew "id" id).get? "references" = ms.get? "references" :=
    Members.get?_putNew_of_ne ms id (by decide)
  constructor
  · rintro (⟨found, deep⟩ | ⟨found, named, deep⟩)
    · exact .type (types ▸ found) deep
    · exact .reference (references ▸ found) named deep
  · rintro (⟨found, deep⟩ | ⟨found, named, deep⟩)
    · exact .type (types ▸ found) deep
    · exact .reference (references ▸ found) named deep

theorem Column.IsTooDeep.not_isDraft {ms : Members} (deep : IsTooDeep ms) : ¬ IsDraft ms := by
  rintro ⟨c, read⟩
  have cut : check (.obj (ms.putNew "id" (.str ""))) = .tooDeep :=
    check_eq_tooDeep_iff.mpr ⟨_, rfl, isTooDeep_putNew_iff.mpr deep⟩
  cases cut.symm.trans read

/-- Whether something is found in an object when it is read as a column. -/
def Column.IsFaulty (ms : Members) : Prop := ¬ IsDraft ms ∧ ¬ IsTooDeep ms

/-- Which id a table gets, and which columns, makes no difference to whether the rest of it can be
read. -/
theorem Table.exists_ofMembersWith_putNew {ms : Members} {id : String} {columns : List Column}
    (h : ∃ t, ofMembersWith (fun _ => .valid columns) (ms.putNew "id" (.str id)) = .valid t)
    (other : String) (others : List Column) :
    ∃ t, ofMembersWith (fun _ => .valid others) (ms.putNew "id" (.str other)) = .valid t := by
  simp only [ofMembersWith, Checked.exists_seq_eq_valid_iff, Checked.exists_fmap_eq_valid_iff,
    optional_putNew, List.mem_cons, List.not_mem_nil, String.reduceEq, or_self,
    not_false_eq_true] at h ⊢
  obtain ⟨⟨⟨⟨⟨readId, name⟩, -⟩, position⟩, color⟩, description⟩ := h
  exact ⟨⟨⟨⟨⟨exists_required_putNew readId other, name⟩, others, rfl⟩, position⟩, color⟩,
    description⟩

theorem ifSent_ne_tooDeep {α β : Type} {check : α → Checked β} (h : ∀ a, check a ≠ .tooDeep)
    (v : Option α) : ifSent check v ≠ .tooDeep := by
  cases v <;> simp [ifSent, h]

theorem TableForm.change_ne_tooDeep (form : TableForm) : form.change ≠ .tooDeep := by
  have position (p : Option PositionForm) : PositionForm.checked p ≠ .tooDeep := by
    cases p <;> simp [PositionForm.checked]
  simpa [change] using ifSent_ne_tooDeep position form.position

theorem ColumnForm.change_ne_tooDeep (form : ColumnForm) : form.change ≠ .tooDeep := by
  have flag (b : Option Bool) : flagSent b ≠ .tooDeep := by
    cases b <;> simp [flagSent]
  simp [change, ifSent_ne_tooDeep flag]

theorem RelationshipForm.change_ne_tooDeep (form : RelationshipForm) :
    form.change ≠ .tooDeep := by
  have text (s : Option String) : textSent s ≠ .tooDeep := by
    cases s <;> simp [textSent]
  simp [change, ifSent_ne_tooDeep text]

/-- The columns that a new table is asked for. -/
def NewTable.drafts (form : NewTable) : List Members := form.columns.join.getD []

theorem NewTable.exists_place (form : NewTable) (spawn : Position Float) :
    ∃ position, form.draft.place spawn = .ok position := by
  unfold Editing.TableDraft.place NewTable.draft
  cases form.position.join with
  | none => exact ⟨spawn, rfl⟩
  | some p => exact ⟨_, rfl⟩

theorem NewTable.exists_build (form : NewTable) (id name : String) (columns : List Column)
    (position : Position Float) :
    ∃ t, form.draft.build (.str id) name columns position = .valid t := by
  unfold Editing.TableDraft.build NewTable.draft
  rw [nullable_text_ofText?, nullable_text_ofText?]
  exact ⟨_, rfl⟩

theorem ColumnReference.exists_checkKept (r : Option ColumnReference) :
    ∃ kept, checkKept (.ofOption toJson r) = .valid kept := by
  cases r with
  | none => exact ⟨none, rfl⟩
  | some r =>
      rw [Json.ofOption, toJson, checkKept, namesNoTable_of_table rfl]
      cases Text.allBlank r.table
      · exact ⟨some r, rfl⟩
      · exact ⟨none, rfl⟩

theorem NewColumn.exists_check (form : NewColumn) (id name defaultType : String) :
    ∃ c, Column.check (form.draft.document (.str id) name defaultType) = .valid c := by
  obtain ⟨kept, hkept⟩ := ColumnReference.exists_checkKept form.references.join
  obtain ⟨type, typed⟩ : ∃ s : String, (if (Json.ofText? form.dataType.join).isGiven then
      Json.ofText? form.dataType.join else .str defaultType) = .str s := by
    cases form.dataType.join with
    | none => exact ⟨defaultType, rfl⟩
    | some s => split <;> exact ⟨_, rfl⟩
  simp only [Editing.ColumnDraft.document, Column.check, record, Column.ofMembers,
    Checked.exists_seq_eq_valid_iff, Checked.exists_fmap_eq_valid_iff]
  exact ⟨⟨⟨⟨⟨⟨⟨id, rfl⟩, name, rfl⟩, _, optional_of_find? rfl (congrArg DataType.check typed)⟩,
    _, rfl⟩, _, rfl⟩, _, rfl⟩, kept, optional_of_find? rfl hkept⟩

theorem NewRelationship.exists_check (form : NewRelationship) (id : String) :
    ∃ r, Relationship.check (form.draft.document (.str id)) = .valid r := by
  simp only [Editing.RelationshipDraft.document, Relationship.check, record,
    Relationship.ofMembers, Checked.exists_seq_eq_valid_iff, Checked.exists_fmap_eq_valid_iff]
  refine ⟨⟨⟨⟨⟨⟨id, rfl⟩, _, rfl⟩, _, rfl⟩, _, rfl⟩, _, rfl⟩, form.label.join, ?_⟩
  exact optional_of_find? rfl (nullable_text_ofText? form.label.join)

end SchemaGraph
