import SchemaGraph.Proofs.Diagram.Ports
import SchemaGraph.Proofs.Editing.Linked
import SchemaGraph.Proofs.Relationship.Selected

/-!
# Cells of a diagram

A diagram has a node for each selected table, and in its label a port for each column. It tells them
apart exactly if no two of the ids in question are alike. Then each end of an edge points at the
cell of the child or of the parent of its relationship, and at no other one.
-/

namespace SchemaGraph.Diagram

variable {α : Type} {tables : List (Table α)} {selection : Option (List String)} {s : State α}

/-- The nodes of a diagram have different names, and the ports of each node too. -/
structure TellsApart (d : Diagram) : Prop where
  nodes : (d.nodes.map (·.name)).Nodup
  ports : ∀ n ∈ d.nodes, (ports n.markup).Nodup

/-- A name is that of the cell of a column in a drawing of tables, and not of another column's. -/
structure PointsAt (tables : List (Table α)) (name : String) (e : Resolved.End) : Prop where
  drawn : ∃ t ∈ tables, t.id = e.tableId ∧
    ∃ c ∈ t.columns, c.id = e.columnId ∧ cell t.id c.id = name
  alone : ∀ t ∈ tables, ∀ c ∈ t.columns, cell t.id c.id = name →
    t.id = e.tableId ∧ c.id = e.columnId

theorem nodes_ofState :
    (ofState selection s).nodes = (Table.select selection s.tables).map nodeOf := rfl

theorem nodup_map_iff_noneAlike {name : String → String}
    (same : ∀ {a b}, name a = name b ↔ Alike a b) {ids : List String} :
    (ids.map name).Nodup ↔ NoneAlike ids := by
  rw [List.Nodup, List.pairwise_map, NoneAlike]
  simp only [ne_eq, same]

theorem tellsApart_iff {d : Diagram} (drawn : d.nodes = tables.map nodeOf) :
    d.TellsApart ↔ NoneAlike (tables.map (·.id)) ∧
      ∀ t ∈ tables, NoneAlike (t.columns.map (·.id)) := by
  have names : d.nodes.map (·.name) = (tables.map (·.id)).map nodeName := by
    rw [drawn, List.map_map, List.map_map]
    rfl
  have ports (t : Table α) : ports (nodeOf t).markup = (t.columns.map (·.id)).map portName := by
    rw [nodeOf, ports_tableMarkup, List.map_map]
    rfl
  rw [← nodup_map_iff_noneAlike nodeName_eq_iff, ← names]
  simp only [← nodup_map_iff_noneAlike portName_eq_iff, ← ports]
  constructor
  · exact fun h => ⟨h.nodes, fun t ht => h.ports _ (drawn ▸ List.mem_map_of_mem ht)⟩
  · rintro ⟨nodes, ports⟩
    refine ⟨nodes, fun n hn => ?_⟩
    rw [drawn] at hn
    obtain ⟨t, ht, rfl⟩ := List.mem_map.mp hn
    exact ports t ht

/-- If a diagram tells its tables and columns apart, the name of a cell is that of one column. -/
theorem TellsApart.pointsAt {d : Diagram} (h : d.TellsApart) (drawn : d.nodes = tables.map nodeOf)
    {e : Resolved.End} (isIn : e.IsIn tables) : PointsAt tables (cell e.tableId e.columnId) e := by
  obtain ⟨t, ht, tableId, -, c, hc, columnId, -⟩ := isIn.mem
  rw [← tableId, ← columnId]
  refine ⟨⟨t, ht, tableId, c, hc, columnId, rfl⟩, fun u hu c' hc' same => ?_⟩
  obtain ⟨sameNode, samePort⟩ := cell_eq_iff.mp same
  have nodes : (tables.map (nodeName ·.id)).Nodup := by
    have names := h.nodes
    rw [drawn, List.map_map] at names
    exact names
  obtain rfl : u = t := List.inj_on_of_nodup_map nodes hu ht (nodeName_eq_iff.mpr sameNode)
  have ports : (u.columns.map (portName ·.id)).Nodup := by
    rw [← ports_tableMarkup]
    exact h.ports (nodeOf u) (drawn ▸ List.mem_map_of_mem hu)
  obtain rfl : c' = c := List.inj_on_of_nodup_map ports hc' hc (portName_eq_iff.mpr samePort)
  exact ⟨tableId, columnId⟩

theorem tail_edgeOf (rs : List Relationship) (r : Resolved) :
    (edgeOf rs r).tail = cell r.child.tableId r.child.columnId := rfl

theorem head_edgeOf (rs : List Relationship) (r : Resolved) :
    (edgeOf rs r).head = cell r.parent.tableId r.parent.columnId := rfl

/-- Every relationship that resolves among the selected tables is drawn. -/
theorem edges_ofState (selection : Option (List String)) (s : State α) :
    ∃ shown, (ofState selection s).edges =
      (Relationship.resolveAll (Table.select selection s.tables) s.relationships).map
        (edgeOf shown) := by
  refine ⟨_, congrArg (List.map _) ?_⟩
  rw [Relationship.resolveAll, Relationship.resolveAll, List.filterMap_filter]
  refine List.filterMap_congr fun r _ => ?_
  split
  · rfl
  · rename_i outside
    rw [Relationship.resolve?_select, if_neg outside]

/-- Every selected table has its node, with the ports of its columns in the label. These are told
apart exactly if no two ids are alike, which holds of different ids if these have no characters but
those of names. Then every relationship that resolves is drawn from the cell of the child column to
that of the parent column. -/
theorem tellsApart_ofState_iff (selection : Option (List String))
    (tableIds : (s.tables.map (·.id)).Nodup)
    (columnIds : ∀ t ∈ s.tables, (t.columns.map (·.id)).Nodup) :
    let tables := Table.select selection s.tables
    let d := ofState selection s
    (d.nodes.map fun n => (n.name, ports n.markup)) =
        (tables.map fun t => (nodeName t.id, t.columns.map (portName ·.id))) ∧
      (d.TellsApart ↔ NoneAlike (tables.map (·.id)) ∧
        ∀ t ∈ tables, NoneAlike (t.columns.map (·.id))) ∧
      ((∀ t ∈ tables, IsName t.id ∧ ∀ c ∈ t.columns, IsName c.id) → d.TellsApart) ∧
      (d.TellsApart → List.Forall₂
        (fun e r => PointsAt tables e.tail r.child ∧ PointsAt tables e.head r.parent)
        d.edges (Relationship.resolveAll tables s.relationships)) := by
  intro tables d
  have drawn : d.nodes = tables.map nodeOf := nodes_ofState
  have apart := tellsApart_iff drawn
  refine ⟨?_, apart, fun plain => apart.mpr ⟨?_, fun t ht => ?_⟩, fun h => ?_⟩
  · rw [drawn, List.map_map]
    refine List.map_congr_left fun t _ => ?_
    rw [Function.comp_apply, nodeOf, ports_tableMarkup]
  · have selected : (tables.map (·.id)).Nodup := tableIds.sublist (Table.select_sublist.map _)
    exact noneAlike_of_nodup selected (List.forall_mem_map.mpr fun t ht => (plain t ht).1)
  · have distinct := columnIds t (Table.select_sublist.subset ht)
    exact noneAlike_of_nodup distinct (List.forall_mem_map.mpr (plain t ht).2)
  · obtain ⟨shown, edges⟩ := edges_ofState selection s
    rw [edges, List.forall₂_map_left_iff, List.forall₂_same]
    intro r hr
    obtain ⟨q, -, resolves⟩ := List.mem_filterMap.mp hr
    obtain ⟨child, parent⟩ := Relationship.ends_of_resolve? resolves
    rw [tail_edgeOf, head_edgeOf]
    exact ⟨h.pointsAt drawn child, h.pointsAt drawn parent⟩

theorem tellsApart_ofState_iff_orders :
    let s := State.orders Position.origin
    let d := ofState none s
    d.TellsApart ∧
      d.edges.map (fun e => (e.tail, e.head)) =
        [("T_t2:P_c2", "T_t1:P_c1"), ("T_t2:P_c3", "T_t2:P_c1")] ∧
      List.Forall₂ (fun e r => PointsAt s.tables e.tail r.child ∧ PointsAt s.tables e.head r.parent)
        d.edges (Relationship.resolveAll s.tables s.relationships) := by
  intro s d
  obtain ⟨-, -, plain, edges⟩ := tellsApart_ofState_iff (s := s) none (by decide) (by decide)
  have apart : d.TellsApart := plain (by decide)
  exact ⟨apart, by decide, edges apart⟩

/-- Two tables whose ids are alike, and returns of the items of the first one. -/
def orderItems (corner : Position α) : State α :=
  { tables := [
      { id := "order-item", name := "order_items", position := corner
        columns := [{ id := "id", name := "id", isPrimaryKey := true }] },
      { id := "order_item", name := "sold_items", position := corner
        columns := [{ id := "id", name := "id", isPrimaryKey := true }] },
      { id := "return", name := "returns", position := corner
        columns := [{ id := "item", name := "item" }] }]
    relationships := [
      { id := "e1", source := "return", target := "order-item"
        sourceColumn := "item", targetColumn := "id" }] }

/-- Both tables have one name, and the edge to the first one may be one to the second one. -/
theorem not_tellsApart_ofState_orderItems :
    let s := orderItems Position.origin
    let d := ofState none s
    (s.tables.map (·.id)).Nodup ∧ (∀ t ∈ s.tables, (t.columns.map (·.id)).Nodup) ∧
      d.nodes.map (·.name) = ["T_order_item", "T_order_item", "T_return"] ∧ ¬ d.TellsApart ∧
      d.edges.map (·.head) = [cell "order-item" "id"] ∧
      cell "order-item" "id" = cell "order_item" "id" := by
  intro s d
  have names : d.nodes.map (·.name) = ["T_order_item", "T_order_item", "T_return"] := by decide
  have repeated : ¬ d.TellsApart := by
    intro h
    have distinct := h.nodes
    rw [names] at distinct
    exact absurd distinct (by decide)
  exact ⟨by decide, by decide, names, repeated, by decide, by decide⟩

end SchemaGraph.Diagram
