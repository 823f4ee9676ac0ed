import SchemaGraph.Proofs.Layout.Placement

/-!
# Columns in the order of ranks

Each column holds the boxes of one rank, and the next one begins where it ends and the gap between
ranks is over. So of two boxes of different rank, the one of lower rank ends at least that gap to
the left of the other one.
-/

namespace SchemaGraph.Layout

section Lookup

variable {α : Type} {nodes picked : List (Node α)} {ids : List String}

theorem Node.mem_of_ofId? {v : String} {n : Node α} (h : ofId? nodes v = some n) : n ∈ nodes :=
  List.mem_reverse.mp (List.mem_of_find?_eq_some h)

theorem Node.id_of_ofId? {v : String} {n : Node α} (h : ofId? nodes v = some n) : n.id = v := by
  simpa using List.find?_some h

/-- Boxes that are looked up by ids have these ids. -/
theorem Node.ids_of_picked (h : ids.mapM (ofId? nodes) = some picked) :
    picked.map (·.id) = ids :=
  (eq_map_of_forall₂ ((mapM_eq_some_iff.mp h).imp fun _ _ found => (id_of_ofId? found).symm)).symm

theorem Node.picked_subset (h : ids.mapM (ofId? nodes) = some picked) : picked ⊆ nodes := by
  intro n hn
  obtain ⟨v, -, found⟩ := exists_of_mem_left (mapM_eq_some_iff.mp h).flip hn
  exact mem_of_ofId? found

/-- The edges whose boxes are found are those between vertices. -/
theorem isSome_ends? (named : nodes.map (·.id) = ids) (e : Edge) :
    (ends? nodes e).isSome = e.isKnown ids := by
  have found (v : String) : (Node.ofId? nodes v).isSome = ids.contains v := by
    rw [← named, Bool.eq_iff_iff, List.contains_iff_mem, Node.ofId?, List.find?_isSome,
      List.mem_map]
    simp only [List.mem_reverse, beq_iff_eq]
  rw [Edge.isKnown, ← found, ← found, ends?]
  cases Node.ofId? nodes e.source with
  | none => rfl
  | some source => cases Node.ofId? nodes e.target <;> rfl

/-- Boxes with the same outlines are the same but for their positions. -/
theorem Node.exists_of_outline {placed : List (Node α)}
    (h : placed.map outline = nodes.map outline) {n : Node α} (hn : n ∈ placed) :
    ∃ m ∈ nodes, m.id = n.id ∧ m.width = n.width ∧ m.height = n.height := by
  have outlined : n.outline ∈ nodes.map outline := by
    rw [← h]
    exact List.mem_map_of_mem hn
  obtain ⟨m, hm, same⟩ := List.mem_map.mp outlined
  simp only [outline, Prod.mk.injEq] at same
  exact ⟨m, hm, same⟩

/-- The boxes of a column have the rank that is the number of the column. -/
theorem rank_of_columns {edges : List Edge} {columns : List (Column α)}
    (shown : layers ids edges = columns.map fun c => c.nodes.map (·.id)) {k : Nat} {c : Column α}
    (hc : columns[k]? = some c) {n : Node α} (hn : n ∈ c.nodes) :
    (ranking ids edges).rank n.id = k := by
  have layer : (layers ids edges)[k]? = some (c.nodes.map (·.id)) := by
    rw [shown, List.getElem?_map, hc]
    rfl
  have member := (perm_of_layers layer).mem_iff.mp (List.mem_map_of_mem hn)
  exact beq_iff_eq.mp (List.mem_filter.mp member).2

variable [Scalar α] {s : Settings α} {edges : List Edge} {r : Result α}

/-- A box that was placed is one of some column. -/
theorem exists_column_of_placed {tallest left : α} {cs : List (Column α)} {n : Node α}
    (hn : n ∈ placeColumns s tallest left cs) :
    ∃ (k : Nat) (c : Column α), cs[k]? = some c ∧ ∃ m ∈ c.nodes, m.id = n.id := by
  obtain ⟨m, hm, sameId, -⟩ := Node.exists_of_outline (placeColumns_outline s tallest left cs) hn
  obtain ⟨c, hc, hm⟩ := List.mem_flatMap.mp hm
  obtain ⟨k, found⟩ := List.mem_iff_getElem?.mp hc
  exact ⟨k, c, found, m, hm, sameId⟩

theorem nodes_of_column? {c : Column α} (h : column? s nodes = some c) : c.nodes = nodes := by
  obtain ⟨width, -, made⟩ := Option.bind_eq_some_iff.mp h
  cases made
  rfl

/-- What there is on the way to a placed graph. -/
theorem exists_of_place? (h : place? s nodes edges = some r) : ∃ boxes columns tallest,
    (layers (nodes.map (·.id)) edges).mapM (fun layer => layer.mapM (Node.ofId? nodes)) =
        some boxes ∧
      boxes.mapM (column? s) = some columns ∧
      Scalar.largest? (columns.map (·.height)) = some tallest ∧
      (nodes.map (·.id)).mapM (Node.ofId? (placeColumns s tallest s.margin columns)) =
        some r.nodes ∧
      routes? s r.nodes edges = some r.routes := by
  obtain ⟨boxes, hboxes, h⟩ := Option.bind_eq_some_iff.mp h
  obtain ⟨columns, hcolumns, h⟩ := Option.bind_eq_some_iff.mp h
  obtain ⟨tallest, htallest, h⟩ := Option.bind_eq_some_iff.mp h
  obtain ⟨positioned, hpositioned, h⟩ := Option.bind_eq_some_iff.mp h
  obtain ⟨rs, hrs, made⟩ := Option.bind_eq_some_iff.mp h
  cases made
  exact ⟨boxes, columns, tallest, hboxes, hcolumns, htallest, hpositioned, hrs⟩

/-- The columns show the layers. -/
theorem layers_of_columns {boxes : List (List (Node α))} {columns : List (Column α)}
    {ls : List (List String)} (picked : ls.mapM (fun layer => layer.mapM (Node.ofId? nodes)) =
      some boxes) (filled : boxes.mapM (column? s) = some columns) :
    ls = columns.map fun c => c.nodes.map (·.id) := by
  have named : ls = boxes.map fun box => box.map (·.id) :=
    eq_map_of_forall₂ ((mapM_eq_some_iff.mp picked).imp fun _ _ h =>
      (Node.ids_of_picked h).symm)
  have shown : boxes = columns.map (·.nodes) :=
    eq_map_of_forall₂ ((mapM_eq_some_iff.mp filled).imp fun _ _ h => (nodes_of_column? h).symm)
  rw [named, shown, List.map_map]
  rfl

end Lookup

section Gaps

variable {K : Type} [Field K] [LinearOrder K] {s : Settings K}

/-- A column that was made of boxes fits them. -/
theorem isFit_of_column? {ns : List (Node K)} {c : Column K} (h : column? s ns = some c)
    (sizes : ∀ n ∈ ns, 0 ≤ n.width ∧ 0 ≤ n.height) : c.IsFit s := by
  have nonempty : ns ≠ [] := by
    rintro rfl
    cases h
  obtain ⟨c', made, -, fit⟩ := exists_column? s nonempty sizes
  rw [h] at made
  cases made
  exact fit

variable [IsStrictOrderedRing K] (nodeGap : 0 ≤ s.nodeSep) (rankGap : 0 ≤ s.rankSep)

include nodeGap rankGap

/-- If the boxes are ranked column by column, those of higher rank stand further right. -/
theorem placeColumns_gap {tallest : K} {rank : String → Nat} {cs : List (Column K)}
    (fit : ∀ c ∈ cs, c.IsFit s) (lower : ∀ c ∈ cs, c.height ≤ tallest) (left : K) (first : Nat)
    (ranked : ∀ k c, cs[k]? = some c → ∀ n ∈ c.nodes, rank n.id = first + k)
    {a b : Node K} (ha : a ∈ placeColumns s tallest left cs)
    (hb : b ∈ placeColumns s tallest left cs) (less : rank a.id < rank b.id) :
    a.right + s.rankSep ≤ b.position.x := by
  induction cs generalizing left first with
  | nil => cases ha
  | cons c cs ih =>
      obtain ⟨here, fit⟩ := List.forall_mem_cons.mp fit
      obtain ⟨high, lower⟩ := List.forall_mem_cons.mp lower
      have later : ∀ k d, cs[k]? = some d → ∀ n ∈ d.nodes, rank n.id = first + 1 + k := by
        intro k d hd n hn
        have ranked := ranked (k + 1) d hd n hn
        omega
      have rankHere : ∀ n ∈ stack s (left + Scalar.half c.width)
          (s.margin + Scalar.half (tallest - c.height)) c.nodes, rank n.id = first := by
        intro n hn
        obtain ⟨m, hm, sameId, -⟩ := Node.exists_of_outline (stack_outline s _ _ c.nodes) hn
        rw [← sameId]
        exact ranked 0 c rfl m hm
      have rankLater : ∀ n ∈ placeColumns s tallest (left + (c.width + s.rankSep)) cs,
          first < rank n.id := by
        intro n hn
        obtain ⟨k, d, hd, m, hm, sameId⟩ := exists_column_of_placed hn
        have ranked := later k d hd m hm
        rw [sameId] at ranked
        omega
      rcases List.mem_append.mp ha with ha | ha <;> rcases List.mem_append.mp hb with hb | hb
      · have rankA := rankHere a ha
        have rankB := rankHere b hb
        omega
      · have ends := (column_within nodeGap here high left a ha).right
        have begins := (placeColumns_within nodeGap rankGap fit lower _ b hb).left
        linarith
      · have rankA := rankLater a ha
        have rankB := rankHere b hb
        omega
      · exact ih fit lower _ _ later ha hb

/-- Between boxes of different ranks there is at least the gap between ranks. -/
theorem right_le_of_rank_lt {nodes : List (Node K)} {edges : List Edge} {r : Result K}
    (h : place? s nodes edges = some r) (sizes : ∀ n ∈ nodes, 0 ≤ n.width ∧ 0 ≤ n.height)
    {a b : Node K} (ha : a ∈ r.nodes) (hb : b ∈ r.nodes)
    (less : (ranking (nodes.map (·.id)) edges).rank a.id <
      (ranking (nodes.map (·.id)) edges).rank b.id) :
    a.right + s.rankSep ≤ b.position.x := by
  obtain ⟨boxes, columns, tallest, picked, filled, highest, placed, -⟩ := exists_of_place? h
  have fit : ∀ c ∈ columns, c.IsFit s := by
    intro c hc
    obtain ⟨box, hbox, made⟩ := exists_of_mem_left (mapM_eq_some_iff.mp filled).flip hc
    obtain ⟨layer, -, looked⟩ := exists_of_mem_left (mapM_eq_some_iff.mp picked).flip hbox
    exact isFit_of_column? made fun n hn => sizes n (Node.picked_subset looked hn)
  have lower : ∀ c ∈ columns, c.height ≤ tallest := by
    rw [Scalar.largest?_eq] at highest
    exact List.forall_mem_map.mp (List.max?_eq_some_iff.mp highest).2
  have shown := layers_of_columns picked filled
  have ranked : ∀ k c, columns[k]? = some c → ∀ n ∈ c.nodes,
      (ranking (nodes.map (·.id)) edges).rank n.id = 0 + k := by
    intro k c hc n hn
    rw [rank_of_columns shown hc hn, Nat.zero_add]
  have known := Node.picked_subset placed
  exact placeColumns_gap nodeGap rankGap fit lower _ 0 ranked (known ha) (known hb) less

end Gaps

end SchemaGraph.Layout
