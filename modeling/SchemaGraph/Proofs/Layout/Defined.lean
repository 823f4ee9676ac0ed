import SchemaGraph.Editing.Load
import SchemaGraph.Proofs.Layout.Boxes
import SchemaGraph.Proofs.Layout.Layers

/-!
# Every schema can be laid out

Placing looks boxes up, takes the widest of a layer, and turns rows into coordinates. No layer is
empty, and all that is looked up is there, also if ids are repeated. So laying out fails for one
reason only: the number of a row is beyond all coordinates.
-/

namespace SchemaGraph.Layout

variable {α : Type}

theorem Node.exists_ofId? {nodes : List (Node α)} {v : String} (h : v ∈ nodes.map (·.id)) :
    ∃ n, ofId? nodes v = some n ∧ n.id = v := by
  obtain ⟨n, hn, rfl⟩ := List.mem_map.mp h
  have isThere : (ofId? nodes n.id).isSome = true := by
    rw [ofId?, List.find?_isSome]
    exact ⟨n, List.mem_reverse.mpr hn, beq_self_eq_true _⟩
  obtain ⟨m, hm⟩ := Option.isSome_iff_exists.mp isThere
  exact ⟨m, hm, by simpa using List.find?_some hm⟩

/-- Boxes can be looked up by any ids of theirs. -/
theorem Node.exists_picked (nodes : List (Node α)) (ids : List String)
    (h : ∀ v ∈ ids, v ∈ nodes.map (·.id)) :
    ∃ picked, ids.mapM (ofId? nodes) = some picked ∧ picked.map (·.id) = ids := by
  obtain ⟨picked, related⟩ := exists_forall₂ fun v hv => exists_ofId? (h v hv)
  refine ⟨picked, mapM_eq_some_iff.mpr (related.imp fun _ _ found => found.1), ?_⟩
  exact (eq_map_of_forall₂ (related.imp fun _ _ found => found.2.symm)).symm

variable [Scalar α] {s : Settings α}

/-- Whether the number of a row is a coordinate. -/
def IsInReach (α : Type) [Scalar α] (row : Option Int) : Prop :=
  ∀ n, row = some n → (Scalar.ofInt? n : Option α).isSome = true

theorem exists_anchor? {row : Option Int} (reach : IsInReach α row) (n : Node α) :
    ∃ y, n.anchor? s row = some y := by
  cases row with
  | none => exact ⟨_, rfl⟩
  | some row =>
      obtain ⟨y, hy⟩ := Option.isSome_iff_exists.mp (reach row rfl)
      exact ⟨_, by rw [Node.anchor?, hy]; rfl⟩

theorem exists_routes?_of_reach (nodes : List (Node α)) {edges : List Edge}
    (reach : ∀ e ∈ edges, IsInReach α e.sourceRow ∧ IsInReach α e.targetRow) :
    ∃ rs, routes? s nodes edges = some rs := by
  obtain ⟨rs, related⟩ : ∃ rs, List.Forall₂
      (fun p r => routeBetween? s p.1 p.2.1 p.2.2 = some r) (edges.filterMap (ends? nodes)) rs := by
    refine exists_forall₂ fun p hp => ?_
    obtain ⟨e, he, ends⟩ := List.mem_filterMap.mp hp
    obtain ⟨source, -, ends⟩ := Option.bind_eq_some_iff.mp ends
    obtain ⟨target, -, ends⟩ := Option.bind_eq_some_iff.mp ends
    cases ends
    obtain ⟨start, hs⟩ := exists_anchor? (s := s) (reach e he).1 source
    obtain ⟨finish, hf⟩ := exists_anchor? (s := s) (reach e he).2 target
    exact ⟨_, by rw [routeBetween?, hs, hf]; rfl⟩
  exact ⟨rs, mapM_eq_some_iff.mpr related⟩

theorem exists_column?_of_ne_nil {nodes : List (Node α)} (h : nodes ≠ []) :
    ∃ c, column? s nodes = some c ∧ c.nodes = nodes := by
  cases nodes with
  | nil => exact absurd rfl h
  | cons n nodes => exact ⟨_, rfl, rfl⟩

/-- Each layer of a graph gives a column with the boxes of its vertices. -/
theorem exists_columns? (s : Settings α) (nodes : List (Node α)) (edges : List Edge) :
    ∃ boxes columns,
      (layers (nodes.map (·.id)) edges).mapM (fun layer => layer.mapM (Node.ofId? nodes)) =
        some boxes ∧
      boxes.mapM (column? s) = some columns ∧
      ((columns.flatMap (·.nodes)).map (·.id)).Perm (nodes.map (·.id)) := by
  have perm := layers_perm (nodes.map (·.id)) edges
  obtain ⟨boxes, picked⟩ := exists_forall₂ fun layer hlayer =>
    Node.exists_picked nodes layer fun v hv =>
      perm.mem_iff.mp (List.mem_flatten.mpr ⟨layer, hlayer, hv⟩)
  obtain ⟨columns, filled⟩ : ∃ columns,
      List.Forall₂ (fun box c => column? s box = some c ∧ c.nodes = box) boxes columns := by
    refine exists_forall₂ fun box hbox => ?_
    obtain ⟨layer, hlayer, -, ids⟩ := exists_of_mem_left picked.flip hbox
    refine exists_column?_of_ne_nil ?_
    rintro rfl
    exact ne_nil_of_mem_layers hlayer ids.symm
  refine ⟨boxes, columns, mapM_eq_some_iff.mpr (picked.imp fun _ _ h => h.1),
    mapM_eq_some_iff.mpr (filled.imp fun _ _ h => h.1), ?_⟩
  have sameBoxes : boxes = columns.map (·.nodes) :=
    eq_map_of_forall₂ (filled.imp fun _ _ h => h.2.symm)
  have sameIds : layers (nodes.map (·.id)) edges = boxes.map fun box => box.map (·.id) :=
    eq_map_of_forall₂ (picked.imp fun _ _ h => h.2.symm)
  rw [sameIds, ← List.map_flatten, sameBoxes, ← List.flatMap_def] at perm
  exact perm

/-- A graph whose rows are coordinates has a layout, with a box for each one given. -/
theorem exists_place? {nodes : List (Node α)} (given : nodes ≠ []) {edges : List Edge}
    (reach : ∀ e ∈ edges, IsInReach α e.sourceRow ∧ IsInReach α e.targetRow) :
    ∃ r, place? s nodes edges = some r ∧ r.nodes.map (·.id) = nodes.map (·.id) := by
  obtain ⟨boxes, columns, hboxes, hcolumns, perm⟩ := exists_columns? s nodes edges
  obtain ⟨tallest, htallest⟩ : ∃ a, Scalar.largest? (columns.map (·.height)) = some a := by
    cases columns with
    | nil => exact absurd (List.map_eq_nil_iff.mp perm.nil_eq.symm) given
    | cons c columns => exact ⟨_, rfl⟩
  have placedIds : (placeColumns s tallest s.margin columns).map (·.id) =
      (columns.flatMap (·.nodes)).map (·.id) := by
    have outlines := congrArg (List.map Prod.fst)
      (placeColumns_outline s tallest s.margin columns)
    rwa [List.map_map, List.map_map] at outlines
  obtain ⟨positioned, hpositioned, sameIds⟩ := Node.exists_picked
    (placeColumns s tallest s.margin columns) (nodes.map (·.id)) fun v hv => by
      rw [placedIds]
      exact perm.mem_iff.mpr hv
  obtain ⟨rs, hrs⟩ := exists_routes?_of_reach (s := s) positioned reach
  exact ⟨_, by simp only [place?, hboxes, hcolumns, htallest, hpositioned, hrs,
    Option.bind_eq_bind, Option.bind_some, Option.pure_def]; rfl, sameIds⟩

theorem layout?_of_ne_nil {nodes : List (Node α)} (given : nodes ≠ []) (edges : List Edge) :
    layout? s nodes edges = place? s nodes edges := by
  cases nodes with
  | nil => exact absurd rfl given
  | cons n nodes => rfl

/-- Whether the rows of all columns are coordinates. -/
def RowsInReach (tables : List (Table α)) : Prop :=
  ∀ t ∈ tables, ∀ i < t.columns.length, (Scalar.ofInt? (i : Int) : Option α).isSome = true

theorem RowsInReach.rowOf? {tables : List (Table α)} (h : RowsInReach tables)
    (table column : String) : IsInReach α (rowOf? tables table column) := by
  intro row found
  obtain ⟨before, after, split, -⟩ := List.lookup_eq_some_iff.mp found
  have listed := List.mem_reverse.mp (split ▸ List.mem_append_right before List.mem_cons_self)
  obtain ⟨t, ht, listed⟩ := List.mem_flatMap.mp listed
  obtain ⟨⟨c, i⟩, hc, same⟩ := List.mem_map.mp listed
  obtain rfl : (i : Int) = row := congrArg Prod.snd same
  refine h t ht i ?_
  have := List.mem_zipIdx hc
  omega

/-- A schema whose rows are coordinates can be laid out. -/
theorem RowsInReach.exists_arrange? {state : State α} (h : RowsInReach state.tables)
    (s : Settings α) : ∃ moved, arrange? s state = some moved := by
  by_cases empty : state.tables.isEmpty = true
  · exact ⟨state, by rw [arrange?, if_pos empty]⟩
  · have given : state.tables.map (nodeOfTable s) ≠ [] := by simpa using empty
    have reach : ∀ e ∈ state.relationships.map (edgeOfRelationship state.tables),
        IsInReach α e.sourceRow ∧ IsInReach α e.targetRow := by
      intro e he
      obtain ⟨rel, -, rfl⟩ := List.mem_map.mp he
      exact ⟨h.rowOf? _ _, h.rowOf? _ _⟩
    obtain ⟨r, placed, sameIds⟩ := exists_place? (s := s) given reach
    have laid : ofState? s state = some r := by
      exact (layout?_of_ne_nil given _).trans placed
    obtain ⟨moved, related⟩ : ∃ moved, List.Forall₂
        (fun t t' => ((Node.ofId? r.nodes t.id).map fun n => { t with position := n.position }) =
          some t') state.tables moved := by
      refine exists_forall₂ fun t ht => ?_
      have isThere : t.id ∈ r.nodes.map (·.id) := by
        rw [sameIds, List.map_map]
        exact List.mem_map_of_mem ht
      obtain ⟨n, hn, -⟩ := Node.exists_ofId? isThere
      exact ⟨_, by rw [hn]; rfl⟩
    refine ⟨{ state with tables := moved }, ?_⟩
    rw [arrange?, if_neg empty, laid]
    simp only [moveTables?, mapM_eq_some_iff.mpr related, Option.bind_eq_bind, Option.bind_some,
      Option.pure_def]

end SchemaGraph.Layout
