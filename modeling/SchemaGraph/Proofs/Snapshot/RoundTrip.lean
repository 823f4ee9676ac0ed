import SchemaGraph.Proofs.Editing.Linked
import SchemaGraph.Proofs.Schema.Written
import SchemaGraph.Snapshot.Reader
import SchemaGraph.Snapshot.Writer

/-!
# Saving a schema and loading it again

Both shapes keep the tables and the dialect. They differ in what becomes of the relationships. On
the canvas an end is written behind a handle word, which is what reading takes off again, so every
relationship comes back. As it is, an end is written bare: an empty one makes its edge one that
names no column, and one that begins with a handle word loses it.

The columns have to be in the form in which columns are stored, and no relationship may dangle. The
coordinates may be any numbers, as nothing is computed from them.
-/

namespace SchemaGraph

open Decode

/-- A list is what is left of it exactly when every item is kept as it is. -/
theorem filterMap_eq_self_iff {α : Type} {f : α → Option α} {as : List α} :
    as.filterMap f = as ↔ ∀ a ∈ as, f a = some a := by
  induction as with
  | nil => simp
  | cons a as ih =>
      cases hf : f a with
      | none =>
          rw [List.filterMap_cons_none hf]
          constructor
          · intro h
            have shorter := List.length_filterMap_le f as
            rw [h, List.length_cons] at shorter
            omega
          · intro h
            rw [h a List.mem_cons_self] at hf
            cases hf
      | some b =>
          rw [List.filterMap_cons_some hf, List.cons_eq_cons, ih, List.forall_mem_cons, hf,
            Option.some_inj]

namespace Snapshot

variable {t : Table Float} {s : State Float}

/-- What reading makes of the document of a relationship: nothing if an end is empty. -/
def reread (r : Relationship) : Option Relationship :=
  if r.sourceColumn = "" ∨ r.targetColumn = "" then none else some r.normal

theorem edgeRelationship?_of_named {ms : Members} {r : Relationship}
    (source : namesColumn Relationship.sourceNames ms = true)
    (target : namesColumn Relationship.targetNames ms = true)
    (checked : Relationship.check (.obj ms) = .valid r) :
    edgeRelationship? (.obj ms) = .ok (some r) := by
  simp only [edgeRelationship?, source, target, checked, Bool.and_self, if_true]
  rfl

theorem edgeRelationship?_of_unnamed {ms : Members} {id : String}
    (found : ms.get? "id" = some (.str id))
    (h : namesColumn Relationship.sourceNames ms = false ∨
      namesColumn Relationship.targetNames ms = false) :
    edgeRelationship? (.obj ms) = .ok none := by
  rcases h with h | h <;> simp [edgeRelationship?, h, found] <;> rfl

theorem edgeRelationship?_toJson (r : Relationship) :
    edgeRelationship? r.toJson = .ok (reread r) := by
  obtain ⟨ms, written, id, source, target⟩ : ∃ ms : Members, r.toJson = .obj ms ∧
      ms.get? "id" = some (.str r.id) ∧
      namesColumn Relationship.sourceNames ms = (r.sourceColumn != "") ∧
      namesColumn Relationship.targetNames ms = (r.targetColumn != "") := by
    refine ⟨_, rfl, rfl, ?_, ?_⟩
    · simp [namesColumn, Relationship.sourceNames, Members.get?_cons]
    · simp [namesColumn, Relationship.targetNames, Members.get?_cons]
  have checked := r.check_toJson
  rw [written] at checked ⊢
  unfold reread
  split
  · rename_i missing
    refine edgeRelationship?_of_unnamed id (missing.imp ?_ ?_) <;> intro h
    · simp [source, h]
    · simp [target, h]
  · rename_i named
    obtain ⟨hs, ht⟩ := not_or.mp named
    exact edgeRelationship?_of_named (by simp [source, hs]) (by simp [target, ht]) checked

theorem namesColumn_of_find? {names : List String} {ms : Members} {name : String} {v : Json}
    (found : ms.find? names = some (name, v)) (given : v.isGiven = true) :
    namesColumn names ms = true := by
  obtain ⟨n, hn, found⟩ := List.exists_of_findSome?_eq_some found
  obtain ⟨w, hw, pair⟩ := Option.map_eq_some_iff.mp found
  cases pair
  exact List.any_eq_true.mpr ⟨name, hn, by rw [hw]; exact given⟩

theorem edgeRelationship?_edge (r : Relationship) :
    edgeRelationship? (edge r) = .ok (some r) := by
  -- The label comes last and stands under a name of its own, so it hides no other member.
  obtain ⟨ms, written, id, source, target, sourceFound, targetFound, label⟩ : ∃ ms : Members,
      edge r = .obj ms ∧ ms.get? "id" = some (.str r.id) ∧
      ms.get? "source" = some (.str r.source) ∧ ms.get? "target" = some (.str r.target) ∧
      ms.find? Relationship.sourceNames =
        some ("sourceHandle", .str ("source-" ++ r.sourceColumn)) ∧
      ms.find? Relationship.targetNames =
        some ("targetHandle", .str ("target-" ++ r.targetColumn)) ∧
      Decode.optional ["label"] none (nullable text) ms = .valid r.label := by
    unfold edge
    cases r.label with
    | none => exact ⟨_, rfl, rfl, rfl, rfl, rfl, rfl, rfl⟩
    | some label => exact ⟨_, rfl, rfl, rfl, rfl, rfl, rfl, rfl⟩
  rw [written]
  refine edgeRelationship?_of_named (namesColumn_of_find? sourceFound ?_)
    (namesColumn_of_find? targetFound ?_) ?_
  · simp [String.append_eq_empty_iff]
  · simp [String.append_eq_empty_iff]
  · exact Relationship.ofMembers_of_get? id source target sourceFound
      (Relationship.withoutHandle_source r.sourceColumn) targetFound
      (Relationship.withoutHandle_target r.targetColumn) label

/-- The members of the table that a node stands for. -/
def nodeMembers (t : Table Float) : Members :=
  ((t.membersWith []).put "id" (.str t.id)).put "position" t.position.toJson

theorem nodeTable_node (t : Table Float) : nodeTable (node t) = .ok (.obj (nodeMembers t)) := rfl

theorem check_nodeMembers (stored : ∀ c ∈ t.columns, c.IsStored) :
    Table.check (.obj (nodeMembers t)) = .valid t := by
  refine Table.ofMembers_of_get? stored ?_ ?_ ?_ ?_ ?_ ?_ <;>
    simp [nodeMembers, Members.get?_put, Table.membersWith, Members.get?_cons]

theorem dialectOf_name (d : Dialect) : dialectOf (.str d.name) = .ok d := by
  cases d <;> rfl

theorem stateOfMembers_of_parts {ms : Members} {drafts edges : List Json}
    {tables : List (Table Float)} {given : List (Option Relationship)} {d : Dialect}
    (parted : parts ms = .ok (drafts, .arr edges))
    (readTables : drafts.mapM (fun v => (Table.check v).orFail) = .ok tables)
    (readEdges : edges.mapM edgeRelationship? = .ok given)
    (dialect : ms.get? "dialect" = some (.str d.name)) :
    stateOfMembers ms = .ok {
      tables
      relationships := Relationship.prune tables (given.filterMap id)
      dialect := d } := by
  have readDialect : dialectOf ((ms.get? "dialect").getD .null) = .ok d := by
    rw [dialect]
    exact dialectOf_name d
  unfold stateOfMembers
  rw [parted, readDialect]
  simp only [bind, Except.bind, readTables, Json.elements, readEdges]
  rfl

theorem itemsOf_arr (items : List Json) : itemsOf (.arr items) = .ok items := by
  cases items <;> rfl

/-- On the canvas no relationship is lost or changed. -/
theorem ofJson_canvas (distinct : (s.tables.map (·.id)).Nodup)
    (ends : ∀ r ∈ s.relationships,
      s.HasColumn r.source r.sourceColumn ∧ s.HasColumn r.target r.targetColumn)
    (stored : ∀ t ∈ s.tables, ∀ c ∈ t.columns, c.IsStored) :
    ofJson (canvas s) = .ok s := by
  have nodes : (s.tables.map node).mapM nodeTable =
      .ok (s.tables.map fun t => .obj (nodeMembers t)) := by
    rw [List.mapM_map]
    exact mapM_eq_ok_map fun t _ => nodeTable_node t
  have parted : parts [("nodes", .arr (s.tables.map node)),
      ("edges", .arr (s.relationships.map edge)), ("dialect", .str s.dialect.name)] =
        .ok (s.tables.map fun t => .obj (nodeMembers t), .arr (s.relationships.map edge)) := by
    change (itemsOf (.arr (s.tables.map node)) >>= fun items => items.mapM nodeTable >>=
      fun tables => .ok (tables, Json.arr (s.relationships.map edge))) = _
    rw [itemsOf_arr]
    change ((s.tables.map node).mapM nodeTable >>= _) = _
    rw [nodes]
    rfl
  have readTables : (s.tables.map fun t => Json.obj (nodeMembers t)).mapM
      (fun v => (Table.check v).orFail) = .ok s.tables := by
    conv_rhs => rw [← List.map_id s.tables]
    rw [List.mapM_map]
    refine mapM_eq_ok_map fun t ht => ?_
    rw [Function.comp_apply, check_nodeMembers (stored t ht)]
    rfl
  have readEdges : (s.relationships.map edge).mapM edgeRelationship? =
      .ok (s.relationships.map some) := by
    rw [List.mapM_map]
    exact mapM_eq_ok_map fun r _ => edgeRelationship?_edge r
  have kept : Relationship.prune s.tables s.relationships = s.relationships :=
    List.filter_eq_self.mpr fun r hr => (Relationship.isAnchored_iff distinct).mpr (ends r hr)
  have state := stateOfMembers_of_parts (d := s.dialect) parted readTables readEdges rfl
  rw [List.filterMap_map, Function.id_comp, List.filterMap_some, kept] at state
  change (stateOfMembers _).mapError failureOf = _
  rw [state]
  rfl

/-- Saved as it is, a schema comes back with what reading and pruning make of its relationships. -/
theorem ofJson_toJson (stored : ∀ t ∈ s.tables, ∀ c ∈ t.columns, c.IsStored) :
    ofJson s.toJson = .ok { s with
      relationships := Relationship.prune s.tables (s.relationships.filterMap reread) } := by
  have parted : parts [("tables", .arr (s.tables.map Table.toJson)),
      ("relationships", .arr (s.relationships.map Relationship.toJson)),
      ("dialect", .str s.dialect.name)] =
        .ok (s.tables.map Table.toJson, .arr (s.relationships.map Relationship.toJson)) := by
    change (itemsOf (.arr (s.tables.map Table.toJson)) >>= fun items =>
      .ok (items, Json.arr (s.relationships.map Relationship.toJson))) = _
    rw [itemsOf_arr]
    rfl
  have readTables : (s.tables.map Table.toJson).mapM (fun v => (Table.check v).orFail) =
      .ok s.tables := by
    conv_rhs => rw [← List.map_id s.tables]
    rw [List.mapM_map]
    refine mapM_eq_ok_map fun t ht => ?_
    rw [Function.comp_apply, Table.check_toJson (stored t ht)]
    rfl
  have readEdges : (s.relationships.map Relationship.toJson).mapM edgeRelationship? =
      .ok (s.relationships.map reread) := by
    rw [List.mapM_map]
    exact mapM_eq_ok_map fun r _ => edgeRelationship?_toJson r
  have state := stateOfMembers_of_parts (d := s.dialect) parted readTables readEdges rfl
  rw [List.filterMap_map, Function.id_comp] at state
  change (stateOfMembers _).mapError failureOf = _
  rw [state]
  rfl

/-- An end that is written bare comes back if it is not empty and begins with no handle word. -/
def IsBareEnd (ref : String) : Prop :=
  ref ≠ "" ∧ ¬ "source-".toList <+: ref.toList ∧ ¬ "target-".toList <+: ref.toList

instance (ref : String) : Decidable (IsBareEnd ref) := inferInstanceAs (Decidable (_ ∧ _ ∧ _))

theorem reread_eq_some_iff {r : Relationship} :
    reread r = some r ↔ IsBareEnd r.sourceColumn ∧ IsBareEnd r.targetColumn := by
  unfold reread IsBareEnd
  split
  · rename_i missing
    refine ⟨fun h => (by cases h), fun h => ?_⟩
    rcases missing with empty | empty
    · exact absurd empty h.1.1
    · exact absurd empty h.2.1
  · rename_i named
    obtain ⟨source, target⟩ := not_or.mp named
    rw [Option.some_inj, Relationship.normal_eq_self_iff,
      Relationship.withoutHandle_eq_self_iff, Relationship.withoutHandle_eq_self_iff]
    exact ⟨fun h => ⟨⟨source, h.1⟩, ⟨target, h.2⟩⟩, fun h => ⟨h.1.2, h.2.2⟩⟩

theorem prune_reread_eq_self_iff (distinct : (s.tables.map (·.id)).Nodup)
    (ends : ∀ r ∈ s.relationships,
      s.HasColumn r.source r.sourceColumn ∧ s.HasColumn r.target r.targetColumn) :
    Relationship.prune s.tables (s.relationships.filterMap reread) = s.relationships ↔
      ∀ r ∈ s.relationships, IsBareEnd r.sourceColumn ∧ IsBareEnd r.targetColumn := by
  unfold Relationship.prune
  rw [List.filter_filterMap, filterMap_eq_self_iff]
  refine forall₂_congr fun r hr => ?_
  rw [← reread_eq_some_iff, Option.filter_eq_some_iff]
  have anchored := (Relationship.isAnchored_iff distinct).mpr (ends r hr)
  exact ⟨fun h => h.1, fun h => ⟨h, anchored⟩⟩

/-- Saved as it is, a schema comes back as it was exactly if all ends are bare. -/
theorem ofJson_toJson_eq_self_iff (distinct : (s.tables.map (·.id)).Nodup)
    (ends : ∀ r ∈ s.relationships,
      s.HasColumn r.source r.sourceColumn ∧ s.HasColumn r.target r.targetColumn)
    (stored : ∀ t ∈ s.tables, ∀ c ∈ t.columns, c.IsStored) :
    ofJson s.toJson = .ok s ↔
      ∀ r ∈ s.relationships, IsBareEnd r.sourceColumn ∧ IsBareEnd r.targetColumn := by
  rw [ofJson_toJson stored, ← prune_reread_eq_self_iff distinct ends, Except.ok.injEq]
  constructor
  · intro same
    exact congrArg State.relationships same
  · intro same
    rw [same]

/-- A schema without dangling relationships is always loaded again. From the canvas it comes back as
it was. From the other shape it comes back with its tables and its dialect, and as it was exactly if
all ends of its relationships are bare. -/
theorem load_saved (distinct : (s.tables.map (·.id)).Nodup)
    (ends : ∀ r ∈ s.relationships,
      s.HasColumn r.source r.sourceColumn ∧ s.HasColumn r.target r.targetColumn)
    (stored : ∀ t ∈ s.tables, ∀ c ∈ t.columns, c.IsStored) :
    ofJson (shape true s) = .ok s ∧
      (∃ relationships, ofJson (shape false s) = .ok { s with relationships }) ∧
      (ofJson (shape false s) = .ok s ↔
        ∀ r ∈ s.relationships, IsBareEnd r.sourceColumn ∧ IsBareEnd r.targetColumn) := by
  refine ⟨ofJson_canvas distinct ends stored, ⟨_, ofJson_toJson stored⟩, ?_⟩
  exact ofJson_toJson_eq_self_iff distinct ends stored

theorem load_saved_orders :
    let s := State.orders Position.origin
    s.WellLinked ∧ (∀ t ∈ s.tables, ∀ c ∈ t.columns, c.IsStored) ∧
      ofJson (shape true s) = .ok s ∧ ofJson (shape false s) = .ok s := by
  intro s
  have linked : s.WellLinked := State.orders_wellLinked _
  have stored : ∀ t ∈ s.tables, ∀ c ∈ t.columns, c.IsStored := by decide
  have bare : ∀ r ∈ s.relationships, IsBareEnd r.sourceColumn ∧ IsBareEnd r.targetColumn := by
    decide
  obtain ⟨canvas, -, plain⟩ := load_saved linked.tableIds linked.ends stored
  exact ⟨linked, stored, canvas, plain.mpr bare⟩

end Snapshot
end SchemaGraph
