import Mathlib.Data.Set.Finite.Basic
import Mathlib.Logic.Equiv.Fintype
import SchemaGraph.Proofs.Layout.Columns
import SchemaGraph.Proofs.Layout.NewIds
import SchemaGraph.Proofs.Layout.Restyled

/-!
# Layouts under new ids

A layout places the boxes of a graph by their sizes, by the order in which they are given and by the
edges between them. What the ids are called plays no part, and neither does where the boxes stood.
The ids in use have to stay different. Any new ids for them are part of a permutation of all ids, so
that it is enough to look at functions that keep all ids apart.
-/

namespace SchemaGraph.Layout

variable {α : Type} {f : String → String}

/-- The same box under its new id. -/
def Node.relabel (f : String → String) (n : Node α) : Node α := { n with id := f n.id }

def Column.relabel (f : String → String) (c : Column α) : Column α :=
  { c with nodes := c.nodes.map (Node.relabel f) }

/-- The same layout under the new ids: each box, in the order given, stands where it stood, and each
id has the rank that the old one had. Routes, which name edges by ids of their own, and the extent
are left as they are. -/
def Result.relabel (f : String → String) (r : Result α) : Result α :=
  { r with
    nodes := r.nodes.map (Node.relabel f)
    edges := r.edges.map (Edge.relabel f)
    ranks := r.ranks.map (Prod.map f id) }

theorem Node.ofId?_relabel (injective : Function.Injective f) (nodes : List (Node α)) (v : String) :
    ofId? (nodes.map (relabel f)) (f v) = (ofId? nodes v).map (relabel f) := by
  have same : (fun n : Node α => (n.relabel f).id == f v) = fun n => n.id == v :=
    funext fun n => beq_relabel injective n.id v
  rw [ofId?, ofId?, ← List.map_reverse, List.find?_map, Function.comp_def, same]

section Ids

variable {nodes : List (Node α)} {edges : List Edge}

/-- The ids by which a graph speaks of boxes, whether they are there or not. -/
def idsIn (nodes : List (Node α)) (edges : List Edge) : List String :=
  nodes.map (·.id) ++ edges.flatMap fun e => [e.source, e.target]

theorem mem_idsIn_iff {v : String} :
    v ∈ idsIn nodes edges ↔ v ∈ nodes.map (·.id) ∨ ∃ e ∈ edges, v = e.source ∨ v = e.target := by
  simp only [idsIn, List.mem_append, List.mem_flatMap, List.mem_cons, List.not_mem_nil, or_false]

section Agreeing

variable {g : String → String} (same : ∀ v ∈ idsIn nodes edges, f v = g v)

include same

theorem nodes_relabel_congr : nodes.map (Node.relabel f) = nodes.map (Node.relabel g) := by
  refine List.map_congr_left fun n hn => ?_
  rw [Node.relabel, Node.relabel, same n.id (mem_idsIn_iff.mpr (.inl (List.mem_map_of_mem hn)))]

theorem edges_relabel_congr : edges.map (Edge.relabel f) = edges.map (Edge.relabel g) := by
  refine List.map_congr_left fun e he => ?_
  rw [Edge.relabel, Edge.relabel, same e.source (mem_idsIn_iff.mpr (.inr ⟨e, he, .inl rfl⟩)),
    same e.target (mem_idsIn_iff.mpr (.inr ⟨e, he, .inr rfl⟩))]

end Agreeing

/-- Different ids in use are given different new ones. -/
def KeepsApart (f : String → String) (nodes : List (Node α)) (edges : List Edge) : Prop :=
  Set.InjOn f {v | v ∈ idsIn nodes edges}

theorem KeepsApart.exists_perm (h : KeepsApart f nodes edges) :
    ∃ σ : Equiv.Perm String, ∀ v ∈ idsIn nodes edges, f v = σ v := by
  have finite : Finite {v | v ∈ idsIn nodes edges} := (idsIn nodes edges).finite_toSet
  obtain ⟨σ, same⟩ := Equiv.Perm.exists_extending_pair
    (fun v : {v | v ∈ idsIn nodes edges} => v.1) (fun v => f v.1) Subtype.val_injective
    (Set.injOn_iff_injective.mp h)
  exact ⟨σ, fun v hv => (same ⟨v, hv⟩).symm⟩

end Ids

variable [Scalar α] (s : Settings α)

theorem stack_relabel (centerX top : α) (ns : List (Node α)) :
    stack s centerX top (ns.map (Node.relabel f)) =
      (stack s centerX top ns).map (Node.relabel f) := by
  induction ns generalizing top with
  | nil => rfl
  | cons n ns ih =>
      rw [List.map_cons, stack, stack, ih]
      rfl

theorem column?_relabel (ns : List (Node α)) :
    column? s (ns.map (Node.relabel f)) = (column? s ns).map (Column.relabel f) := by
  have widths : (ns.map (Node.relabel f)).map (·.width) = ns.map (·.width) := List.map_map
  have heights : (ns.map (Node.relabel f)).map (·.height) = ns.map (·.height) := List.map_map
  rw [column?, column?, widths, heights, List.length_map]
  cases Scalar.largest? (ns.map (·.width)) <;> rfl

theorem placeColumns_relabel (tallest left : α) (cs : List (Column α)) :
    placeColumns s tallest left (cs.map (Column.relabel f)) =
      (placeColumns s tallest left cs).map (Node.relabel f) := by
  induction cs generalizing left with
  | nil => rfl
  | cons c cs ih =>
      rw [List.map_cons, placeColumns, placeColumns, List.map_append, ← stack_relabel, ← ih]
      rfl

theorem routes?_relabel (injective : Function.Injective f) (nodes : List (Node α))
    (edges : List Edge) :
    routes? s (nodes.map (Node.relabel f)) (edges.map (Edge.relabel f)) =
      routes? s nodes edges := by
  have ends (e : Edge) : ends? (nodes.map (Node.relabel f)) (e.relabel f) =
      (ends? nodes e).map
        (Prod.map (Edge.relabel f) (Prod.map (Node.relabel f) (Node.relabel f))) := by
    have source : Node.ofId? (nodes.map (Node.relabel f)) (e.relabel f).source = _ :=
      Node.ofId?_relabel injective nodes e.source
    have target : Node.ofId? (nodes.map (Node.relabel f)) (e.relabel f).target = _ :=
      Node.ofId?_relabel injective nodes e.target
    rw [ends?, ends?, source, target]
    cases Node.ofId? nodes e.source with
    | none => rfl
    | some a => cases Node.ofId? nodes e.target <;> rfl
  rw [routes?, routes?, List.filterMap_map, Function.comp_def]
  simp only [ends]
  rw [← List.map_filterMap, List.mapM_map]
  rfl

/-- A graph under new ids is laid out as it was under the old ones. -/
theorem layout?_relabel (injective : Function.Injective f) (nodes : List (Node α))
    (edges : List Edge) :
    layout? s (nodes.map (Node.relabel f)) (edges.map (Edge.relabel f)) =
      (layout? s nodes edges).map (Result.relabel f) := by
  cases nodes with
  | nil => rfl
  | cons n ns =>
      change place? s ((n :: ns).map (Node.relabel f)) _ = (place? s (n :: ns) edges).map _
      generalize n :: ns = nodes
      have ids : (nodes.map (Node.relabel f)).map (·.id) = (nodes.map (·.id)).map f := by
        rw [List.map_map, List.map_map]
        rfl
      have found (layer : List String) :
          (layer.map f).mapM (Node.ofId? (nodes.map (Node.relabel f))) = _ :=
        mapM_map_eq (Node.ofId?_relabel injective nodes) layer
      rw [place?, place?, ids, layers_relabel injective, mapM_map_eq found]
      refine bind_map_eq fun boxes => ?_
      rw [mapM_map_eq (column?_relabel s)]
      refine bind_map_eq fun cs => ?_
      have widths : (cs.map (Column.relabel f)).map (·.width) = cs.map (·.width) := List.map_map
      have heights : (cs.map (Column.relabel f)).map (·.height) = cs.map (·.height) := List.map_map
      rw [heights, widths, List.length_map, ranks_relabel injective]
      simp only [Option.bind_eq_bind, Option.map_bind, Function.comp_def]
      refine Option.bind_congr fun tallest _ => ?_
      rw [placeColumns_relabel, mapM_map_eq (Node.ofId?_relabel injective _), Option.bind_map]
      refine Option.bind_congr fun positioned _ => ?_
      rw [Function.comp_apply, routes?_relabel s injective]
      rfl

section Graph

variable {nodes : List (Node α)} {edges : List Edge}

/-- A layout speaks of the ids of the graph only. -/
theorem layout?_ids {s : Settings α} {r : Result α} (h : layout? s nodes edges = some r) :
    r.nodes.map (·.id) = nodes.map (·.id) ∧ r.edges = edges ∧
      ∀ p ∈ r.ranks, p.1 ∈ nodes.map (·.id) := by
  by_cases given : nodes = []
  · subst given
    cases h
    exact ⟨rfl, rfl, fun _ none => nomatch none⟩
  · rw [layout?_of_ne_nil given] at h
    obtain ⟨boxes, -, h⟩ := Option.bind_eq_some_iff.mp h
    obtain ⟨columns, -, h⟩ := Option.bind_eq_some_iff.mp h
    obtain ⟨tallest, -, h⟩ := Option.bind_eq_some_iff.mp h
    obtain ⟨positioned, hpositioned, h⟩ := Option.bind_eq_some_iff.mp h
    obtain ⟨rs, -, made⟩ := Option.bind_eq_some_iff.mp h
    cases made
    refine ⟨Node.ids_of_picked hpositioned, rfl, fun p hp => ?_⟩
    obtain ⟨v, hv, rfl⟩ := List.mem_map.mp (List.mem_eraseDups.mp hp)
    exact hv

theorem result_relabel_congr {s : Settings α} {r : Result α} (h : layout? s nodes edges = some r)
    {g : String → String} (same : ∀ v ∈ idsIn nodes edges, f v = g v) :
    r.relabel f = r.relabel g := by
  obtain ⟨ids, rfl, ranked⟩ := layout?_ids h
  have shown : idsIn r.nodes r.edges = idsIn nodes r.edges := by rw [idsIn, idsIn, ids]
  have ranks : r.ranks.map (Prod.map f id) = r.ranks.map (Prod.map g id) := by
    refine List.map_congr_left fun p hp => ?_
    rw [Prod.map, Prod.map, same p.1 (mem_idsIn_iff.mpr (.inl (ranked p hp)))]
  rw [Result.relabel, Result.relabel, ranks, edges_relabel_congr same,
    nodes_relabel_congr (shown ▸ same)]

/-- The layout of a graph under new ids, and with its boxes anywhere, is the old one under the new
ids: every box comes to the same place, every id has the rank of the old one, and routes and extent
are the same. There is a layout unless the row of an edge is beyond all coordinates. -/
theorem layout_relabeled (s : Settings α) (apart : KeepsApart f nodes edges)
    {nodes' : List (Node α)}
    (boxes : List.Forall₂ (fun n n' => (n.relabel f).outline = n'.outline) nodes nodes') :
    layout? s nodes' (edges.map (Edge.relabel f)) =
        (layout? s nodes edges).map (Result.relabel f) ∧
      ((∀ e ∈ edges, IsInReach α e.sourceRow ∧ IsInReach α e.targetRow) →
        ∃ r, layout? s nodes edges = some r) := by
  refine ⟨?_, fun reach => ?_⟩
  · obtain ⟨σ, same⟩ := apart.exists_perm
    calc layout? s nodes' (edges.map (Edge.relabel f))
        = layout? s (nodes.map (Node.relabel f)) (edges.map (Edge.relabel f)) :=
          (layout?_congr s _ (List.forall₂_map_left_iff.mpr boxes)).symm
      _ = layout? s (nodes.map (Node.relabel σ)) (edges.map (Edge.relabel σ)) := by
          rw [nodes_relabel_congr same, edges_relabel_congr same]
      _ = (layout? s nodes edges).map (Result.relabel σ) :=
          layout?_relabel s σ.injective nodes edges
      _ = (layout? s nodes edges).map (Result.relabel f) :=
          Option.map_congr fun r laid => (result_relabel_congr laid same).symm
  · by_cases given : nodes = []
    · exact ⟨_, by rw [given]; rfl⟩
    · obtain ⟨r, placed, -⟩ := exists_place? (s := s) given reach
      exact ⟨r, (layout?_of_ne_nil given edges).trans placed⟩

/-- A circle of boxes is laid out as it was under other ids and from elsewhere, while ids that fall
together are not new ids. -/
theorem layout_relabeled_circle :
    let s : Settings ℚ := ⟨260, 45, 36, 20, 120, 80, 0, 40⟩
    let moved := circle.1.map fun n => { n with id := "v" ++ n.id, position := ⟨7, -7⟩ }
    KeepsApart ("v" ++ ·) circle.1 circle.2 ∧ ¬ KeepsApart (fun _ => "v") circle.1 circle.2 ∧
      ∃ r, layout? s circle.1 circle.2 = some r ∧
        layout? s moved (circle.2.map (Edge.relabel ("v" ++ ·))) =
          some (r.relabel ("v" ++ ·)) := by
  intro s moved
  have apart : KeepsApart ("v" ++ ·) circle.1 circle.2 :=
    fun v _ w _ same => (String.append_right_inj "v").mp same
  have boxes : List.Forall₂ (fun n n' => (n.relabel ("v" ++ ·)).outline = n'.outline) circle.1
      moved := List.forall₂_map_right_iff.mpr (List.forall₂_same.mpr fun _ _ => rfl)
  obtain ⟨same, defined⟩ := layout_relabeled s apart boxes
  obtain ⟨r, laid⟩ := defined fun _ _ => ⟨fun _ _ => rfl, fun _ _ => rfl⟩
  refine ⟨apart, fun h => ?_, r, laid, ?_⟩
  · have equal : ("a" : String) = "b" := h (by decide) (by decide) rfl
    exact absurd equal (by decide)
  · rw [same, laid]
    rfl

end Graph

end SchemaGraph.Layout
