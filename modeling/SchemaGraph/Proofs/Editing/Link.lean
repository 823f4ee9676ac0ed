import SchemaGraph.Proofs.Editing.Commute
import SchemaGraph.Proofs.Editing.Draft
import SchemaGraph.Proofs.Schema.Written

/-!
# Linking two columns

A relationship is asked for by the ids of two tables and two columns. The ids of the columns are
read as handles are, so one that begins with a handle word is taken for what follows the word. The
relationship that was asked for is added exactly if neither id begins so. Otherwise it is refused,
or another one is added, depending on which columns there are.
-/

namespace SchemaGraph

open Decode Editing

variable {α : Type}

namespace Relationship

/-- A relationship as it is asked for, with all that it has. -/
def draft (r : Relationship) : RelationshipDraft where
  id := .str r.id
  source := .str r.source
  target := .str r.target
  sourceColumn := .str r.sourceColumn
  targetColumn := .str r.targetColumn
  label := .ofText? r.label

theorem check_document_draft (r : Relationship) :
    check (r.draft.document (.str r.id)) = .valid r.normal :=
  ofMembers_of_get? rfl rfl rfl rfl rfl rfl rfl
    (optional_of_find? rfl (nullable_text_ofText? r.label))

/-- The column ids of a relationship begin with no handle word. -/
def IsPlain (r : Relationship) : Prop :=
  (¬ "source-".toList <+: r.sourceColumn.toList ∧ ¬ "target-".toList <+: r.sourceColumn.toList) ∧
    ¬ "source-".toList <+: r.targetColumn.toList ∧ ¬ "target-".toList <+: r.targetColumn.toList

instance (r : Relationship) : Decidable r.IsPlain := inferInstanceAs (Decidable (_ ∧ _))

theorem normal_eq_self_iff_isPlain {r : Relationship} : r.normal = r ↔ r.IsPlain := by
  rw [normal_eq_self_iff, withoutHandle_eq_self_iff, withoutHandle_eq_self_iff]
  rfl

end Relationship

theorem State.hasColumn_of_mem (s : State α) (tableIds : (s.tables.map (·.id)).Nodup)
    {t : Table α} {c : Column} (ht : t ∈ s.tables) (hc : c ∈ t.columns) : s.HasColumn t.id c.id :=
  (hasColumn_iff_of_table? ((find?_eq_some_iff_of_nodup tableIds).mpr ⟨ht, rfl⟩)).mpr
    (List.mem_map_of_mem hc)

namespace Editing

variable {s s' : State α} {r : Relationship}

/-- A draft with an id that is free stands for the relationship with its column ids as they are
read, if both columns are there then. No id is drawn for it. -/
theorem relationshipOf_draft (named : r.id ≠ "") (free : r.id ∉ s.relationships.map (·.id))
    (supply : Supply) : (relationshipOf r.draft s).runOn supply =
      ((s.requireEnds "add_relationship" r.normal).map fun _ => r.normal, supply) := by
  have given : (Edit.givenId r.draft.id).runOn supply = (.ok (.str r.id), supply) := by
    have asked : r.draft.id.isGiven = true := bne_iff_ne.mpr named
    rw [Edit.givenId, if_pos asked, Edit.runOn_pure]
    rfl
  have unused : ¬ isRelationshipId s (.str r.id) = true := fun taken =>
    free (State.relationship?_isSome_iff.mp taken)
  simp only [relationshipOf, Edit.runOn_bind, given, if_neg unused, Edit.runOn_lift,
    Checked.orFail_eq_ok_iff.mpr r.check_document_draft]
  cases s.requireEnds "add_relationship" r.normal <;> rfl

/-- A relationship with an id that is free is added with its column ids as they are read, if both
columns are there then. -/
theorem addRelationship_draft (named : r.id ≠ "") (free : r.id ∉ s.relationships.map (·.id))
    (supply : Supply) :
    ((addRelationship r.draft s).runOn supply).1 = .ok s' ↔
      s.HasEnds r.normal ∧ s' = { s with relationships := s.relationships ++ [r.normal] } := by
  have ends : s.requireEnds "add_relationship" r.normal = .ok () ↔ s.HasEnds r.normal :=
    State.requireEnds_eq_ok_iff
  rw [← ends, addRelationship, Edit.runOn_bind, relationshipOf_draft named free]
  cases s.requireEnds "add_relationship" r.normal with
  | error f => simp [Except.map]
  | ok u => simp [Except.map, eq_comm]

/-- Two columns that are there are linked by the relationship that was asked for exactly if neither
id begins with a handle word. In any case the ids without the word decide: the call succeeds exactly
if there are columns with these, and links them. -/
theorem addRelationship_asked_iff (tableIds : (s.tables.map (·.id)).Nodup) {t u : Table α}
    {c d : Column} (ht : t ∈ s.tables) (hc : c ∈ t.columns) (hu : u ∈ s.tables)
    (hd : d ∈ u.columns) {id : String} (named : id ≠ "")
    (free : id ∉ s.relationships.map (·.id)) (label : Option String) (supply : Supply) :
    let r : Relationship :=
      { id, source := t.id, target := u.id, sourceColumn := c.id, targetColumn := d.id, label }
    (((addRelationship r.draft s).runOn supply).1 =
        .ok { s with relationships := s.relationships ++ [r] } ↔ r.IsPlain) ∧
      ∀ s', ((addRelationship r.draft s).runOn supply).1 = .ok s' ↔
        s.HasEnds r.normal ∧ s' = { s with relationships := s.relationships ++ [r.normal] } := by
  intro r
  have there : s.HasEnds r := ⟨s.hasColumn_of_mem tableIds ht hc, s.hasColumn_of_mem tableIds hu hd⟩
  refine ⟨?_, fun s' => addRelationship_draft named free supply⟩
  rw [addRelationship_draft named free, ← Relationship.normal_eq_self_iff_isPlain]
  constructor
  · rintro ⟨-, same⟩
    have edges := List.append_cancel_left (congrArg State.relationships same)
    exact (List.singleton_injective edges).symm
  · intro plain
    rw [plain]
    exact ⟨there, rfl⟩

/-- Nodes, and a column of theirs for the parent. -/
def nodes (pointer : String) : State Float where
  tables := [
    { id := "t", name := "nodes", position := Position.origin
      columns := [{ id := "id", name := "id", isPrimaryKey := true },
        { id := pointer, name := "parent" }] }]

def parentOf (pointer : String) : Relationship :=
  { id := "r", source := "t", target := "t", sourceColumn := pointer, targetColumn := "id" }

theorem addRelationship_asked_iff_nodes :
    ((addRelationship (parentOf "up").draft (nodes "up")).runOn ⟨toString, 0⟩).1 =
      .ok { nodes "up" with relationships := [parentOf "up"] } := by
  have distinct : ((nodes "up").tables.map (·.id)).Nodup := by decide
  exact (addRelationship_asked_iff distinct List.mem_cons_self
    (List.mem_cons_of_mem _ List.mem_cons_self) List.mem_cons_self List.mem_cons_self
    (by decide) (by decide) none ⟨toString, 0⟩).1.mpr (by decide)

theorem not_addRelationship_asked_nodes :
    let s := nodes "source-1"
    (s.tables.map (·.id)).Nodup ∧ (∀ t ∈ s.tables, (t.columns.map (·.id)).Nodup) ∧
      s.HasEnds (parentOf "source-1") ∧
      ∀ s', ((addRelationship (parentOf "source-1").draft s).runOn ⟨toString, 0⟩).1 ≠ .ok s' := by
  intro s
  refine ⟨by decide, by decide, ⟨⟨_, rfl, rfl⟩, ⟨_, rfl, rfl⟩⟩, fun s' success => ?_⟩
  cases success

end Editing

end SchemaGraph
