import SchemaGraph.Proofs.Editing.Linked
import SchemaGraph.Proofs.Layout.Defined

/-!
# Layouts do not drift

A layout places boxes by their ids and sizes and by the edges between them, and these come from the
ids and columns of the tables and from what the relationships resolve to. Where the tables stood
before, how they are shown and described, labels and the dialect play no part. So a schema that was
laid out stays as it is when it is laid out again.
-/

namespace SchemaGraph

variable {α : Type}

/-- The same table, perhaps elsewhere, and shown and described differently. -/
def Table.IsRestyled (t t' : Table α) : Prop :=
  ∃ position color description, t' = { t with position, color, description }

/-- The same edge, perhaps with another label. -/
def Relationship.IsRestyled (r r' : Relationship) : Prop := ∃ label, r' = { r with label }

/-- The same tables and edges, for any dialect. -/
structure State.IsRestyled (s s' : State α) : Prop where
  tables : List.Forall₂ Table.IsRestyled s.tables s'.tables
  relationships : List.Forall₂ Relationship.IsRestyled s.relationships s'.relationships

theorem Table.IsMoved.isRestyled {t t' : Table α} (h : t.IsMoved t') : t.IsRestyled t' := by
  obtain ⟨position, rfl⟩ := h
  exact ⟨position, t.color, t.description, rfl⟩

namespace State

/-- The places of the tables. -/
def corners (s : State α) : List (Position α) := s.tables.map (·.position)

theorem IsRestyled.of_isMoved {s : State α} {tables : List (Table α)}
    (h : List.Forall₂ Table.IsMoved s.tables tables) : s.IsRestyled { s with tables } :=
  ⟨h.imp fun _ _ moved => moved.isRestyled,
    List.forall₂_same.mpr fun r _ => ⟨r.label, rfl⟩⟩

theorem IsRestyled.isEmpty_eq {s s' : State α} (h : s.IsRestyled s') :
    s.tables.isEmpty = s'.tables.isEmpty := by
  have empty : s.tables = [] ↔ s'.tables = [] := by
    rw [← List.length_eq_zero_iff, h.tables.length_eq, List.length_eq_zero_iff]
  exact Bool.eq_iff_iff.mpr (by simpa only [List.isEmpty_iff] using empty)

/-- Without tables there are no places. -/
theorem IsRestyled.corners_eq_of_isEmpty {s s' : State α} (h : s.IsRestyled s')
    (empty : s'.tables.isEmpty = true) : s.corners = s'.corners := by
  have none : s.tables = [] := List.isEmpty_iff.mp (h.isEmpty_eq.trans empty)
  rw [corners, corners, none, List.isEmpty_iff.mp empty]

end State

section Graph

variable {tables tables' : List (Table α)} (h : List.Forall₂ Table.IsRestyled tables tables')

include h

theorem Table.isRestyled_ofId? (id : String) :
    Option.Rel Table.IsRestyled (ofId? tables id) (ofId? tables' id) := by
  refine find?_rel ((List.forall₂_reverse_iff.mpr h).imp fun t t' ht => ⟨?_, ht⟩)
  obtain ⟨_, _, _, rfl⟩ := ht
  rfl

theorem Relationship.resolve?_restyled {r r' : Relationship} (hr : r.IsRestyled r') :
    r.resolve? tables = r'.resolve? tables' := by
  obtain ⟨label, rfl⟩ := hr
  refine bind_eq_bind_of_rel (Table.isRestyled_ofId? h r.source) fun source source' hs => ?_
  refine bind_eq_bind_of_rel (Table.isRestyled_ofId? h r.target) fun target target' ht => ?_
  obtain ⟨_, _, _, rfl⟩ := hs
  obtain ⟨_, _, _, rfl⟩ := ht
  rfl

namespace Layout

theorem rowOf?_restyled (table column : String) :
    rowOf? tables table column = rowOf? tables' table column := by
  unfold rowOf?
  refine congrArg (fun rows : List (List _) => rows.flatten.reverse.lookup (table, column))
    (map_eq_map_iff.mpr (h.imp fun t t' ht => ?_))
  obtain ⟨_, _, _, rfl⟩ := ht
  rfl

theorem edgeOfRelationship_restyled {r r' : Relationship} (hr : r.IsRestyled r') :
    edgeOfRelationship tables r = edgeOfRelationship tables' r' := by
  have resolved := Relationship.resolve?_restyled h hr
  obtain ⟨label, rfl⟩ := hr
  simp only [edgeOfRelationship, resolved, rowOf?_restyled h]

theorem nodes_restyled [Scalar α] (s : Settings α) :
    List.Forall₂ (fun n n' : Node α => n.outline = n'.outline) (tables.map (nodeOfTable s))
      (tables'.map (nodeOfTable s)) := by
  refine List.forall₂_map_left_iff.mpr (List.forall₂_map_right_iff.mpr (h.imp fun t t' ht => ?_))
  obtain ⟨_, _, _, rfl⟩ := ht
  rfl

end Layout

end Graph

namespace Layout

variable [Scalar α] (s : Settings α)

theorem stack_congr {ns ns' : List (Node α)}
    (h : List.Forall₂ (fun n n' => n.outline = n'.outline) ns ns') (centerX top : α) :
    stack s centerX top ns = stack s centerX top ns' := by
  induction h generalizing top with
  | nil => rfl
  | cons same _ ih =>
      simp only [Node.outline, Prod.mk.injEq] at same
      obtain ⟨id, width, height⟩ := same
      rw [stack, stack, id, width, height, ih]

/-- Columns of boxes that differ only in where they stood. -/
structure Column.IsLike (c c' : Column α) : Prop where
  nodes : List.Forall₂ (fun n n' => n.outline = n'.outline) c.nodes c'.nodes
  width : c.width = c'.width
  height : c.height = c'.height

theorem column?_rel {ns ns' : List (Node α)}
    (h : List.Forall₂ (fun n n' => n.outline = n'.outline) ns ns') :
    Option.Rel Column.IsLike (column? s ns) (column? s ns') := by
  have outlines := map_eq_map_iff.mpr h
  have widths := congrArg (List.map (·.2.1)) outlines
  have heights := congrArg (List.map (·.2.2)) outlines
  simp only [List.map_map, Function.comp_def, Node.outline] at widths heights
  rw [column?, column?, widths, heights, h.length_eq]
  cases Scalar.largest? (ns'.map (·.width)) with
  | none => exact .none
  | some width => exact .some ⟨h, rfl, rfl⟩

theorem placeColumns_congr {cs cs' : List (Column α)} (h : List.Forall₂ Column.IsLike cs cs')
    (tallest left : α) : placeColumns s tallest left cs = placeColumns s tallest left cs' := by
  induction h generalizing left with
  | nil => rfl
  | cons same _ ih =>
      rw [placeColumns, placeColumns, same.width, same.height, stack_congr s same.nodes, ih]

/-- Where the boxes of a graph stood plays no part in its layout. -/
theorem place?_congr {nodes nodes' : List (Node α)} (edges : List Edge)
    (h : List.Forall₂ (fun n n' => n.outline = n'.outline) nodes nodes') :
    place? s nodes edges = place? s nodes' edges := by
  have ids : nodes.map (·.id) = nodes'.map (·.id) :=
    map_eq_map_iff.mpr (h.imp fun _ _ same => congrArg Prod.fst same)
  have found (v : String) : Option.Rel (fun n n' => n.outline = n'.outline)
      (Node.ofId? nodes v) (Node.ofId? nodes' v) := by
    refine find?_rel ((List.forall₂_reverse_iff.mpr h).imp fun n n' same => ⟨?_, same⟩)
    exact congrArg (· == v) (congrArg Prod.fst same)
  rw [place?, place?, ids]
  -- The boxes that are picked still differ in where they stood; setting the columns evens this out.
  refine bind_eq_bind_of_rel (r := List.Forall₂ (List.Forall₂ fun n n' => n.outline = n'.outline))
    ?_ fun boxes boxes' picked => ?_
  · refine mapM_rel (r := Eq) (List.forall₂_refl _) fun layer _ same => ?_
    subst same
    exact mapM_rel (r := Eq) (List.forall₂_refl _) fun v _ same => same ▸ found v
  refine bind_eq_bind_of_rel (mapM_rel picked fun _ _ => column?_rel s) fun columns columns' like =>
    ?_
  have widths : columns.map (·.width) = columns'.map (·.width) :=
    map_eq_map_iff.mpr (like.imp fun _ _ same => same.width)
  have heights : columns.map (·.height) = columns'.map (·.height) :=
    map_eq_map_iff.mpr (like.imp fun _ _ same => same.height)
  simp only [widths, heights, like.length_eq, placeColumns_congr s like]

theorem layout?_congr {nodes nodes' : List (Node α)} (edges : List Edge)
    (h : List.Forall₂ (fun n n' => n.outline = n'.outline) nodes nodes') :
    layout? s nodes edges = layout? s nodes' edges := by
  cases h with
  | nil => rfl
  | cons first rest => exact place?_congr s edges (.cons first rest)

variable {state state' : State α}

theorem ofState?_restyled (h : state.IsRestyled state') :
    ofState? s state = ofState? s state' := by
  have edges : state.relationships.map (edgeOfRelationship state.tables) =
      state'.relationships.map (edgeOfRelationship state'.tables) :=
    map_eq_map_iff.mpr
      (h.relationships.imp fun _ _ same => edgeOfRelationship_restyled h.tables same)
  rw [ofState?, ofState?, graphOf, graphOf, edges]
  exact layout?_congr s _ (nodes_restyled h.tables s)

theorem arrange?_restyled (h : state.IsRestyled state') :
    (arrange? s state).map State.corners = (arrange? s state').map State.corners := by
  have laid := ofState?_restyled s h
  have moved (r : Result α) : Option.Rel (List.Forall₂ fun t t' => t.position = t'.position)
      (moveTables? r state.tables) (moveTables? r state'.tables) := by
    refine mapM_rel h.tables fun t t' ht => ?_
    obtain ⟨_, _, _, rfl⟩ := ht
    cases Node.ofId? r.nodes t.id with
    | none => exact .none
    | some n => exact .some rfl
  rw [arrange?, arrange?, laid, h.isEmpty_eq]
  split
  · rename_i empty
    exact congrArg some (h.corners_eq_of_isEmpty empty)
  · simp only [Option.bind_eq_bind, Option.map_bind]
    refine Option.bind_congr fun r _ => ?_
    simp only [Function.comp_apply, Option.map_bind]
    refine bind_eq_bind_of_rel (moved r) fun ts ts' same => ?_
    exact congrArg some (map_eq_map_iff.mpr same)

theorem arrange?_arranged (h : arrange? s state = some state') :
    arrange? s state' = some state' := by
  by_cases empty : state.tables.isEmpty = true
  · rw [arrange?, if_pos empty] at h
    cases h
    rw [arrange?, if_pos empty]
  · rw [arrange?, if_neg empty] at h
    obtain ⟨r, laid, h⟩ := Option.bind_eq_some_iff.mp h
    obtain ⟨tables, moved, h⟩ := Option.bind_eq_some_iff.mp h
    cases h
    have same : state.IsRestyled { state with tables } :=
      .of_isMoved (moveTables?_isMoved moved)
    rw [arrange?, ← same.isEmpty_eq, if_neg empty, ← ofState?_restyled s same, laid]
    simp only [Option.bind_eq_bind, Option.bind_some, moveTables?_moved moved, Option.pure_def]

end Layout

namespace Editing

variable [Scalar α] {settings : Except Failure (Layout.Settings α)} {s s' : State α}

/-- With settings, only the layout decides: a schema without tables has one. -/
theorem autoLayout_of_settings (layout : Layout.Settings α) (s : State α) :
    autoLayout (.ok layout) s =
      match Layout.arrange? layout s with
      | some s => .ok s
      | none => .error (.crash .noKey) := by
  rw [autoLayout]
  split
  · rename_i empty
    rw [Layout.arrange?, if_pos empty]
  · rfl

theorem autoLayout_restyled (settings : Except Failure (Layout.Settings α))
    (h : s.IsRestyled s') :
    (autoLayout settings s).map State.corners = (autoLayout settings s').map State.corners := by
  cases settings with
  | error f =>
      rw [autoLayout, autoLayout, h.isEmpty_eq]
      split
      · rename_i empty
        exact congrArg Except.ok (h.corners_eq_of_isEmpty empty)
      · rfl
  | ok layout =>
      have corners := Layout.arrange?_restyled layout h
      rw [autoLayout_of_settings, autoLayout_of_settings]
      revert corners
      cases Layout.arrange? layout s <;> cases Layout.arrange? layout s' <;> intro corners
      · rfl
      · exact nomatch corners
      · exact nomatch corners
      · exact congrArg Except.ok (Option.some.inj corners)

/-- A schema that was laid out is not changed by laying it out. -/
theorem autoLayout_laidOut (h : autoLayout settings s = .ok s') :
    autoLayout settings s' = .ok s' := by
  cases settings with
  | error f =>
      rw [autoLayout] at h
      split at h
      · rename_i empty
        cases h
        rw [autoLayout, if_pos empty]
      · cases h
  | ok layout =>
      rw [autoLayout_of_settings] at h
      split at h
      · rename_i moved arranged
        cases h
        rw [autoLayout_of_settings, Layout.arrange?_arranged layout arranged]
      · cases h

/-- Laying out does not drift. Doing it twice is doing it once, it moves tables and does nothing
else, and where it moves them is known from what they are and how they are related, without where
they stood and how they look. It fails only without settings, or for rows beyond all
coordinates. -/
theorem autoLayout_steady (settings : Except Failure (Layout.Settings α)) (s : State α) :
    (autoLayout settings s >>= autoLayout settings) = autoLayout settings s ∧
    (∀ s', autoLayout settings s = .ok s' →
      ∃ tables, s' = { s with tables } ∧ List.Forall₂ Table.IsMoved s.tables tables) ∧
    (∀ u, s.IsRestyled u →
      (autoLayout settings s).map State.corners = (autoLayout settings u).map State.corners) ∧
    ∀ layout, settings = .ok layout → Layout.RowsInReach s.tables →
      ∃ s', autoLayout settings s = .ok s' := by
  refine ⟨?_, fun s' h => autoLayout_ok h, fun u h => autoLayout_restyled settings h, ?_⟩
  · cases h : autoLayout settings s with
    | error f => rfl
    | ok s' => exact autoLayout_laidOut h
  · rintro layout rfl reach
    obtain ⟨moved, arranged⟩ := reach.exists_arrange? layout
    exact ⟨moved, by rw [autoLayout_of_settings, arranged]⟩

/-- The tables of orders come to the same places from the origin and from elsewhere, and stay. -/
theorem autoLayout_steady_orders :
    let settings : Except Failure (Layout.Settings ℚ) := .ok ⟨260, 45, 36, 20, 120, 80, 0, 40⟩
    let s : State ℚ := State.orders ⟨0, 0⟩
    let u : State ℚ := { State.orders ⟨7, -7⟩ with dialect := .mysql }
    s.IsRestyled u ∧ ∃ placed, autoLayout settings s = .ok placed ∧
      autoLayout settings placed = .ok placed ∧
      (autoLayout settings u).map State.corners = .ok placed.corners := by
  intro settings s u
  have restyled : s.IsRestyled u :=
    ⟨.cons ⟨_, _, _, rfl⟩ (.cons ⟨_, _, _, rfl⟩ .nil),
      List.forall₂_same.mpr fun r _ => ⟨r.label, rfl⟩⟩
  obtain ⟨again, -, elsewhere, defined⟩ := autoLayout_steady settings s
  obtain ⟨placed, laid⟩ := defined _ rfl fun _ _ _ _ => rfl
  refine ⟨restyled, placed, laid, ?_, ?_⟩
  · rwa [laid] at again
  · rw [← elsewhere u restyled, laid]
    rfl

end Editing
end SchemaGraph
