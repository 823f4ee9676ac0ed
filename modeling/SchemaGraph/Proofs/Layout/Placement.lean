import Mathlib.Algebra.Order.Field.Rat
import SchemaGraph.Proofs.Editing.Linked
import SchemaGraph.Proofs.Layout.Defined
import SchemaGraph.Proofs.Schema.Outline

/-!
# Laid out without overlap

With distinct ids, each box is found once by the layers, and each placed box once by the ids, so a
layout has all boxes of the graph with their own sizes. Nothing fails on the way, since no layer is
empty. The tables of a schema are moved to where their boxes are.
-/

namespace SchemaGraph.Layout

section Lookup

variable {α : Type} {nodes : List (Node α)} (distinct : (nodes.map (·.id)).Nodup)

include distinct

/-- Boxes that are looked up by their ids in another order come in that order. -/
theorem Node.exists_lookup {ids : List String} (h : ids.Perm (nodes.map (·.id))) :
    ∃ picked, List.Forall₂ (fun v n => ofId? nodes v = some n) ids picked ∧
      picked.map (·.id) = ids ∧ picked.Perm nodes := by
  have named : List.Forall₂ (fun v (n : Node α) => v = n.id) (nodes.map (·.id)) nodes := by
    rw [List.forall₂_map_left_iff, List.forall₂_same]
    exact fun _ _ => rfl
  obtain ⟨picked, sameIds, perm⟩ := List.perm_comp_forall₂ h named
  have ids_eq : ids = picked.map (·.id) := eq_map_of_forall₂ sameIds
  refine ⟨picked, ?_, ids_eq.symm, perm⟩
  rw [ids_eq, List.forall₂_map_left_iff, List.forall₂_same]
  exact fun n hn => find?_reverse_eq_some_of_mem distinct (perm.mem_iff.mp hn)

theorem exists_boxes (edges : List Edge) :
    ∃ boxes, (layers (nodes.map (·.id)) edges).mapM (fun layer => layer.mapM (Node.ofId? nodes)) =
        some boxes ∧ boxes.flatten.Perm nodes ∧ ∀ box ∈ boxes, box ≠ [] := by
  obtain ⟨picked, found, -, perm⟩ :=
    Node.exists_lookup distinct (layers_perm (nodes.map (·.id)) edges)
  obtain ⟨boxes, parted, rfl⟩ := exists_parts found
  refine ⟨boxes, ?_, perm, ?_⟩
  · exact mapM_eq_some_iff.mpr (parted.imp fun _ _ h => mapM_eq_some_iff.mpr h)
  · intro box hbox none
    obtain ⟨layer, hlayer, related⟩ := exists_of_mem_left parted.flip hbox
    rw [none, List.forall₂_nil_right_iff] at related
    exact ne_nil_of_mem_layers hlayer related

end Lookup

/-- A table that is moved to where its box was placed has that box. -/
theorem nodeOfTable_moved {α : Type} [Scalar α] {s : Settings α} {t : Table α} {n : Node α}
    (same : n.outline = (nodeOfTable s t).outline) :
    nodeOfTable s { t with position := n.position } = n := by
  obtain ⟨id, width, height⟩ : n.id = t.id ∧ n.width = _ ∧ n.height = _ := by
    simpa only [Node.outline, nodeOfTable, Prod.mk.injEq] using same
  rw [nodeOfTable, ← id, ← width, ← height]

/-- The tables that are moved show the boxes of the layout. -/
theorem exists_moveTables? {α : Type} [Scalar α] {s : Settings α} {r : Result α}
    {tables : List (Table α)}
    (distinct : (tables.map (·.id)).Nodup)
    (outline : r.nodes.map Node.outline = (tables.map (nodeOfTable s)).map Node.outline) :
    ∃ moved, moveTables? r tables = some moved ∧ List.Forall₂ Table.IsMoved tables moved ∧
      moved.map (nodeOfTable s) = r.nodes := by
  have ids : r.nodes.map (·.id) = tables.map (·.id) := by
    have keys := congrArg (List.map Prod.fst) outline
    rwa [List.map_map, List.map_map, List.map_map] at keys
  rw [← ids] at distinct
  obtain ⟨moved, related⟩ : ∃ moved, List.Forall₂ (fun t t' =>
      ((Node.ofId? r.nodes t.id).map fun n => { t with position := n.position }) = some t' ∧
        t.IsMoved t' ∧ nodeOfTable s t' ∈ r.nodes) tables moved := by
    refine exists_forall₂ fun t ht => ?_
    have member : (nodeOfTable s t).outline ∈ r.nodes.map Node.outline := by
      rw [outline]
      exact List.mem_map_of_mem (List.mem_map_of_mem ht)
    obtain ⟨n, hn, same⟩ := List.mem_map.mp member
    have sameId : n.id = t.id := congrArg Prod.fst same
    have found : Node.ofId? r.nodes t.id = some n := by
      rw [← sameId]
      exact find?_reverse_eq_some_of_mem distinct hn
    refine ⟨{ t with position := n.position }, by rw [found]; rfl, ⟨_, rfl⟩, ?_⟩
    rw [nodeOfTable_moved same]
    exact hn
  refine ⟨moved, mapM_eq_some_iff.mpr (related.imp fun _ _ h => h.1),
    related.imp fun _ _ h => h.2.1, ?_⟩
  refine eq_of_subset_of_map_eq (f := (·.id)) distinct ?_ ?_
  · intro n hn
    obtain ⟨t', ht', rfl⟩ := List.mem_map.mp hn
    obtain ⟨t, -, -, -, member⟩ := exists_of_mem_left related.flip ht'
    exact member
  · rw [ids, List.map_map]
    refine (map_eq_map_iff.mpr (related.imp fun t t' h => ?_)).symm
    obtain ⟨-, ⟨position, rfl⟩, -⟩ := h
    rfl

variable {K : Type} [Field K] [LinearOrder K] {s : Settings K}

theorem exists_columns {boxes : List (List (Node K))} (filled : ∀ box ∈ boxes, box ≠ [])
    (sizes : ∀ box ∈ boxes, ∀ n ∈ box, 0 ≤ n.width ∧ 0 ≤ n.height) :
    ∃ columns, boxes.mapM (column? s) = some columns ∧ columns.map (·.nodes) = boxes ∧
      ∀ c ∈ columns, c.IsFit s := by
  obtain ⟨columns, related⟩ := exists_forall₂ fun box hbox =>
    exists_column? s (filled box hbox) (sizes box hbox)
  refine ⟨columns, mapM_eq_some_iff.mpr (related.imp fun _ _ h => h.1), ?_, ?_⟩
  · exact (eq_map_of_forall₂ (related.imp fun _ _ h => h.2.1.symm)).symm
  · intro c hc
    obtain ⟨box, -, h⟩ := exists_of_mem_left related.flip hc
    exact h.2.2

/-- Over exact numbers no row is out of reach, so every edge between boxes has a route. -/
theorem exists_routes? (nodes : List (Node K)) (edges : List Edge) :
    ∃ rs, routes? s nodes edges = some rs :=
  exists_routes?_of_reach nodes fun _ _ => ⟨fun _ _ => rfl, fun _ _ => rfl⟩

/-- All boxes are there with their sizes, none overlaps another one, and there is a margin around
them. -/
structure Result.IsTidy (s : Settings K) (nodes : List (Node K)) (r : Result K) : Prop where
  outline : r.nodes.map Node.outline = nodes.map Node.outline
  apart : r.nodes.Pairwise fun a b => Disjoint a.interior b.interior
  within : ∀ n ∈ r.nodes,
    n.IsWithin s.margin (r.width - s.margin) s.margin (r.height - s.margin)

variable [IsStrictOrderedRing K]

section Gaps

variable (nodeGap : 0 ≤ s.nodeSep) (rankGap : 0 ≤ s.rankSep)

include nodeGap rankGap

theorem place?_isTidy {nodes : List (Node K)} (given : nodes ≠ [])
    (distinct : (nodes.map (·.id)).Nodup) (sizes : ∀ n ∈ nodes, 0 ≤ n.width ∧ 0 ≤ n.height)
    (edges : List Edge) : ∃ r, place? s nodes edges = some r ∧ r.IsTidy s nodes := by
  obtain ⟨boxes, hboxes, all, filled⟩ := exists_boxes distinct edges
  obtain ⟨columns, hcolumns, boxes_eq, fit⟩ := exists_columns (s := s) filled
    fun box hbox n hn => sizes n (all.mem_iff.mp (List.mem_flatten.mpr ⟨box, hbox, hn⟩))
  have some_column : columns ≠ [] := by
    rintro rfl
    subst boxes_eq
    exact given all.nil_eq.symm
  have some_height : columns.map (·.height) ≠ [] := by simpa using some_column
  obtain ⟨tallest, htallest, -, lower⟩ := Scalar.exists_largest? some_height
  have lower : ∀ c ∈ columns, c.height ≤ tallest := List.forall_mem_map.mp lower
  have outline : ((placeColumns s tallest s.margin columns).map Node.outline).Perm
      (nodes.map Node.outline) := by
    rw [placeColumns_outline, List.flatMap_def, boxes_eq]
    exact all.map _
  have ids : (nodes.map (·.id)).Perm ((placeColumns s tallest s.margin columns).map (·.id)) := by
    have keys := (outline.map Prod.fst).symm
    rwa [List.map_map, List.map_map] at keys
  obtain ⟨positioned, found, sameIds, perm⟩ := Node.exists_lookup (ids.nodup_iff.mp distinct) ids
  obtain ⟨rs, hrs⟩ := exists_routes? (s := s) positioned edges
  have hpositioned := mapM_eq_some_iff.mpr found
  refine ⟨_, by simp only [place?, hboxes, hcolumns, htallest, hpositioned, hrs,
    Option.bind_eq_bind, Option.bind_some, Option.pure_def]; rfl, ?_, ?_, ?_⟩
  · have subset := ((perm.map Node.outline).trans outline).subset
    refine eq_of_subset_of_map_eq ?_ subset (f := Prod.fst) ?_
    · rwa [List.map_map]
    · rwa [List.map_map, List.map_map]
  · refine (perm.pairwise_iff fun apart => Disjoint.symm apart).mpr ?_
    exact (placeColumns_pairwise nodeGap rankGap fit lower _).imp Node.Before.disjoint
  · intro n hn
    have within := placeColumns_within nodeGap rankGap fit lower _ n (perm.mem_iff.mp hn)
    refine within.mono le_rfl ?_ le_rfl ?_
    · simp only [extent, List.length_map, Scalar.total_eq, Scalar.ofInt_eq, Int.cast_sub,
        Int.cast_natCast, Int.cast_one, Int.cast_ofNat]
      linarith
    · simp only [Scalar.ofInt_eq, Int.cast_ofNat]
      linarith

theorem layout?_isTidy {nodes : List (Node K)} (given : nodes ≠ [])
    (distinct : (nodes.map (·.id)).Nodup) (sizes : ∀ n ∈ nodes, 0 ≤ n.width ∧ 0 ≤ n.height)
    (edges : List Edge) : ∃ r, layout? s nodes edges = some r ∧ r.IsTidy s nodes := by
  rw [layout?_of_ne_nil given]
  exact place?_isTidy nodeGap rankGap given distinct sizes edges

end Gaps

theorem autoLayout_apart (nodeGap : 0 ≤ s.nodeSep) (rankGap : 0 ≤ s.rankSep)
    (width : 0 ≤ s.nodeWidth) (header : 0 ≤ s.headerHeight) (row : 0 ≤ s.rowHeight)
    (padding : 0 ≤ s.padding) {state : State K} (distinct : (state.tables.map (·.id)).Nodup) :
    ∃ moved, Editing.autoLayout (.ok s) state = .ok { state with tables := moved } ∧
      List.Forall₂ Table.IsMoved state.tables moved ∧
      moved.Pairwise fun t u =>
        Disjoint (nodeOfTable s t).interior (nodeOfTable s u).interior := by
  by_cases empty : state.tables = []
  · refine ⟨[], ?_, by rw [empty]; exact .nil, .nil⟩
    rw [Editing.autoLayout, empty, if_pos List.isEmpty_nil, ← empty]
  · have given : state.tables.map (nodeOfTable s) ≠ [] := by simpa using empty
    have distinctNodes : ((state.tables.map (nodeOfTable s)).map (·.id)).Nodup := by
      rwa [List.map_map]
    have sizes : ∀ n ∈ state.tables.map (nodeOfTable s), 0 ≤ n.width ∧ 0 ≤ n.height := by
      rw [List.forall_mem_map]
      intro t _
      have rows : 0 ≤ (t.columns.length : K) * s.rowHeight := mul_nonneg (Nat.cast_nonneg _) row
      refine ⟨width, ?_⟩
      simp only [nodeOfTable, Settings.nodeHeight, Scalar.ofInt_eq, Int.cast_natCast]
      linarith
    obtain ⟨r, laid, tidy⟩ := layout?_isTidy nodeGap rankGap given distinctNodes sizes
      (state.relationships.map (edgeOfRelationship state.tables))
    obtain ⟨moved, found, elsewhere, boxes⟩ := exists_moveTables? distinct tidy.outline
    refine ⟨moved, ?_, elsewhere, ?_⟩
    · have notEmpty : ¬ state.tables.isEmpty = true := by simpa using empty
      have arranged : arrange? s state = some { state with tables := moved } := by
        rw [arrange?, if_neg notEmpty, ofState?, graphOf]
        simp only [laid, found, Option.bind_eq_bind, Option.bind_some, Option.pure_def]
      rw [Editing.autoLayout, if_neg notEmpty]
      simp only [bind, Except.bind, arranged]
    · have apart := tidy.apart
      rwa [← boxes, List.pairwise_map] at apart

/-- A layout is defined for every graph, has all of its boxes, and separates them. So laying out a
schema never makes two of its tables overlap. -/
theorem layout_separates (nodeGap : 0 ≤ s.nodeSep) (rankGap : 0 ≤ s.rankSep) :
    (∀ (nodes : List (Node K)) (edges : List Edge), nodes ≠ [] →
      (nodes.map (·.id)).Nodup → (∀ n ∈ nodes, 0 ≤ n.width ∧ 0 ≤ n.height) →
      ∃ r, layout? s nodes edges = some r ∧ r.IsTidy s nodes) ∧
    (0 ≤ s.nodeWidth → 0 ≤ s.headerHeight → 0 ≤ s.rowHeight → 0 ≤ s.padding →
      ∀ state : State K, (state.tables.map (·.id)).Nodup →
      ∃ moved, Editing.autoLayout (.ok s) state = .ok { state with tables := moved } ∧
        List.Forall₂ Table.IsMoved state.tables moved ∧
        moved.Pairwise fun t u =>
          Disjoint (nodeOfTable s t).interior (nodeOfTable s u).interior) := by
  refine ⟨?_, ?_⟩
  · intro nodes edges given distinct sizes
    exact layout?_isTidy nodeGap rankGap given distinct sizes edges
  · intro width header row padding state distinct
    exact autoLayout_apart nodeGap rankGap width header row padding distinct

/-- Three boxes, one of them flat, between which the edges run in a circle. -/
def circle : List (Node ℚ) × List Edge :=
  ([⟨"a", 30, 50, ⟨0, 0⟩⟩, ⟨"b", 10, 0, ⟨0, 0⟩⟩, ⟨"c", 20, 70, ⟨0, 0⟩⟩],
    [⟨"1", "a", "b", some 2, none⟩, ⟨"2", "b", "c", none, none⟩, ⟨"3", "c", "a", none, none⟩,
      ⟨"4", "a", "a", none, none⟩, ⟨"5", "d", "a", none, none⟩])

theorem layout_separates_circle :
    let s : Settings ℚ := ⟨260, 45, 36, 20, 120, 80, 0, 40⟩
    let orders : State ℚ := State.orders ⟨0, 0⟩
    (0 ≤ s.nodeSep ∧ 0 ≤ s.rankSep) ∧
      (∃ r, layout? s circle.1 circle.2 = some r ∧ r.IsTidy s circle.1) ∧
      ∃ moved, Editing.autoLayout (.ok s) orders = .ok { orders with tables := moved } := by
  intro s orders
  have gaps : 0 ≤ s.nodeSep ∧ 0 ≤ s.rankSep := by decide
  obtain ⟨graphs, schemas⟩ := layout_separates (s := s) gaps.1 gaps.2
  refine ⟨gaps, graphs circle.1 circle.2 ?_ ?_ ?_, ?_⟩
  · decide
  · decide
  · decide
  · obtain ⟨moved, laid, -, -⟩ := schemas (by decide) (by decide) (by decide) (by decide) orders
      (by decide)
    exact ⟨moved, laid⟩

end SchemaGraph.Layout
