import SchemaGraph.Editing.Call
import SchemaGraph.Proofs.Editing.Effect
import SchemaGraph.Proofs.Relationship.Derived
import SchemaGraph.Snapshot.Reader

/-!
# The edges of a schema that was loaded

A schema is put together from drafts, from tables that were checked beforehand, or from a snapshot
in either shape. Edges that are given lose those that dangle, so none is left that does. Edges that
are derived are not looked at again. They end where references were found, but their ends lose a
handle word, so one dangles if the id of its column begins with such a word.
-/

namespace SchemaGraph

open Editing Relationship

/-- A schema was loaded with the edges of a document, which is null if it says nothing of edges. -/
inductive Loaded (edges : Json) (s : State Float) : Prop
  | drafts (layout : Except Failure (Layout.Settings Float)) (source : Source) (supply : Supply)
      (given : source.relationships = edges)
      (success : ((loadSchema layout source).runOn supply).1 = .ok s)
  | checked (layout : Except Failure (Layout.Settings Float)) (source : Source)
      (given : source.relationships = edges) (success : loadChecked layout source = .ok s)
  | snapshot (ms : Members) (tables : List Json) (given : Snapshot.parts ms = .ok (tables, edges))
      (success : Snapshot.ofJson (.obj ms) = .ok s)

/-- The edges that belong to tables: those given that are anchored, or else the derived ones. -/
def Relationship.settle {α : Type} (tables : List (Table α)) :
    Option (List Relationship) → List Relationship
  | none => derive tables
  | some given => prune tables given

namespace Editing

variable {layout : Except Failure (Layout.Settings Float)} {source : Source} {s : State Float}
  {tables : List (Table Float)} {given : Option (List Relationship)}

/-- Parts are put together with the edges that belong to the tables, and at most moved. -/
theorem assemble_ok (h : assemble layout tables given source = .ok s) :
    List.Forall₂ Table.IsMoved tables s.tables ∧ s.relationships = settle tables given := by
  obtain ⟨dialect, -, h⟩ := bind_ok h
  have placed (before : State Float) (wanted : Bool)
      (h : (if wanted then autoLayout layout before else pure before) = .ok s) :
      List.Forall₂ Table.IsMoved before.tables s.tables ∧
        s.relationships = before.relationships := by
    split at h
    · obtain ⟨moved, rfl, areMoved⟩ := autoLayout_ok h
      exact ⟨areMoved, rfl⟩
    · cases h
      exact ⟨List.forall₂_same.mpr fun t _ => ⟨t.position, rfl⟩, rfl⟩
  cases given <;> exact placed _ _ h

theorem eq_null_of_relationshipsOf {v : Json} (h : relationshipsOf v = .ok none) : v = .null := by
  cases v with
  | null => rfl
  | _ =>
    obtain ⟨items, -, h⟩ := bind_ok h
    obtain ⟨rs, -, h⟩ := bind_ok h
    cases h

/-- What is put together from the edges of a source has the edges that belong to its tables. -/
theorem exists_settled (read : relationshipsOf source.relationships = .ok given)
    (h : assemble layout tables given source = .ok s) :
    ∃ tables given, List.Forall₂ Table.IsMoved tables s.tables ∧
      s.relationships = settle tables given ∧ (given = none → source.relationships = .null) := by
  obtain ⟨moved, settled⟩ := assemble_ok h
  refine ⟨tables, given, moved, settled, ?_⟩
  rintro rfl
  exact eq_null_of_relationshipsOf read

theorem loadChecked_ok (h : loadChecked layout source = .ok s) :
    ∃ tables given, relationshipsOf source.relationships = .ok given ∧
      assemble layout tables given source = .ok s := by
  obtain ⟨items, -, h⟩ := bind_ok h
  obtain ⟨tables, -, h⟩ := bind_ok h
  obtain ⟨given, hgiven, h⟩ := bind_ok h
  exact ⟨tables, given, hgiven, h⟩

theorem draftsOf_ensures (source : Source) :
    (draftsOf source).Ensures fun parts => relationshipsOf source.relationships = .ok parts.2 := by
  refine Edit.Ensures.bind_any fun items => ?_
  refine Edit.Ensures.bind_any fun tables => ?_
  refine Edit.Ensures.bind (Edit.Ensures.lift fun given h => h) fun given hgiven => ?_
  exact Edit.Ensures.pure hgiven

theorem loadSchema_ensures (layout : Except Failure (Layout.Settings Float)) (source : Source) :
    (loadSchema layout source).Ensures fun s => ∃ tables given,
      relationshipsOf source.relationships = .ok given ∧
        assemble layout tables given source = .ok s := by
  refine Edit.Ensures.bind ((draftsOf_ensures source).adapt loadFailure) fun parts hgiven => ?_
  exact Edit.Ensures.lift fun s h => ⟨parts.1, parts.2, hgiven, h⟩

end Editing

namespace Snapshot

variable {ms : Members} {s : State Float} {items : List Json} {edges : Json}

/-- A snapshot gives its tables and the edges that belong to them. -/
theorem ofJson_ok (given : parts ms = .ok (items, edges)) (h : ofJson (.obj ms) = .ok s) :
    ∃ rs, items.mapM (fun v => (Table.check v).orFail) = .ok s.tables ∧
      s.relationships = settle s.tables rs ∧ (rs = none → edges = .null) := by
  have read : stateOfMembers ms = .ok s := mapError_ok h
  obtain ⟨found, hfound, read⟩ := bind_ok read
  obtain rfl : found = (items, edges) := Except.ok.inj (hfound.symm.trans given)
  obtain ⟨tables, checked, read⟩ := bind_ok read
  have finished (rs : List Relationship)
      (last : (dialectOf ((ms.get? "dialect").getD .null) >>= fun dialect =>
        (.ok { tables, relationships := rs, dialect } : Except Failure _)) = .ok s) :
      s.tables = tables ∧ s.relationships = rs := by
    obtain ⟨dialect, -, last⟩ := bind_ok last
    cases last
    exact ⟨rfl, rfl⟩
  cases edges with
  | null =>
      obtain ⟨rfl, rels⟩ := finished _ read
      exact ⟨none, checked, rels, fun _ => rfl⟩
  | _ =>
      obtain ⟨drawn, -, read⟩ := bind_ok read
      obtain ⟨given, -, read⟩ := bind_ok read
      obtain ⟨rfl, rels⟩ := finished _ read
      exact ⟨some (given.filterMap id), checked, rels, fun absent => by cases absent⟩

end Snapshot

/-- Whatever a schema was loaded from, its tables were read and at most moved, and its edges are
those that belong to the tables that were read. -/
theorem Loaded.settled {edges : Json} {s : State Float} (h : Loaded edges s) :
    ∃ tables given, List.Forall₂ Table.IsMoved tables s.tables ∧
      s.relationships = settle tables given ∧ (given = none → edges = .null) := by
  cases h with
  | drafts layout source supply given success =>
      obtain ⟨tables, rs, read, assembled⟩ := loadSchema_ensures layout source supply s success
      rw [← given]
      exact exists_settled read assembled
  | checked layout source given success =>
      obtain ⟨tables, rs, read, assembled⟩ := loadChecked_ok success
      rw [← given]
      exact exists_settled read assembled
  | snapshot ms items given success =>
      obtain ⟨rs, -, settled, absent⟩ := Snapshot.ofJson_ok given success
      exact ⟨s.tables, rs, List.forall₂_same.mpr fun t _ => ⟨t.position, rfl⟩, settled, absent⟩

/-- No edge of a schema that was loaded dangles, if the edges were given, or else if no id of a
column begins with a handle word. -/
theorem Loaded.noneDangles {edges : Json} {s : State Float} (h : Loaded edges s)
    (tableIds : (s.tables.map (·.id)).Nodup)
    (plain : edges = .null → Table.HavePlainIds s.tables) : s.NoneDangles := by
  obtain ⟨tables, given, moved, settled, absent⟩ := h.settled
  let before : State Float := { s with tables }
  have outline : before.tables.map Table.outline = s.tables.map Table.outline :=
    map_eq_map_iff.mpr (moved.imp fun _ _ hm => hm.outline_eq.symm)
  have distinct : (before.tables.map (·.id)).Nodup := by
    rw [State.map_id_of_outline outline]
    exact tableIds
  intro r hr
  rw [settled] at hr
  have anchored : r.isAnchored before.tables = true := by
    cases given with
    | some rs => exact (List.mem_filter.mp hr).2
    | none =>
        refine isAnchored_of_mem_derive ?_ distinct hr
        intro t ht c hc
        obtain ⟨t', ht', position, rfl⟩ := exists_of_mem_left moved ht
        exact plain (absent rfl) _ ht' c hc
  obtain ⟨source, target⟩ := (isAnchored_iff distinct).mp anchored
  exact ⟨(State.hasColumn_congr outline).mp source, (State.hasColumn_congr outline).mp target⟩

/-- A snapshot of nodes that name their parent by its id, without edges. -/
def parentNodes (pointer : String) : Members :=
  [("tables", .arr [.obj [("id", .str "t"), ("name", .str "nodes"), ("columns", .arr [
    .obj [("id", .str "id"), ("name", .str "id"), ("is_primary_key", .bool true)],
    .obj [("id", .str pointer), ("name", .str "parent"),
      ("references", .obj [("table", .str "nodes"), ("column", .str "id")])]])]])]

theorem noneDangles_parentNodes :
    ∃ s, Loaded .null s ∧ s.relationships.map (·.sourceColumn) = ["parent"] ∧ s.NoneDangles := by
  have loaded : Loaded .null _ := .snapshot (parentNodes "parent") _ rfl rfl
  exact ⟨_, loaded, rfl, loaded.noneDangles (by decide) fun _ => by decide⟩

theorem exists_dangles_parentNodes :
    ∃ s, Loaded .null s ∧ (s.tables.map (·.id)).Nodup ∧
      (∀ t ∈ s.tables, (t.columns.map (·.id)).Nodup) ∧ ¬ s.NoneDangles := by
  refine ⟨_, .snapshot (parentNodes "source-1") _ rfl rfl, by decide, by decide, ?_⟩
  intro h
  obtain ⟨⟨t, ht, hc⟩, -⟩ := h _ List.mem_cons_self
  cases ht
  revert hc
  decide

end SchemaGraph
