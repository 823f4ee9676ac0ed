import Mathlib.Data.List.Basic
import Mathlib.Data.Prod.Basic
import SchemaGraph.Layout.Order
import SchemaGraph.Proofs.Partial

/-!
# Ranks and layers under new ids

The search for cycles, the ranking and the sorting of layers look ids up and compare them for
equality, and apart from that they take vertices and edges in the order given. So under new ids that
tell the same vertices apart, they do step by step what they did under the old ones: the same edges
close a cycle, a vertex keeps its rank, and the layers are the same.
-/

namespace SchemaGraph.Layout

variable {f : String → String}

/-- The same edge between vertices under their new ids. -/
def Edge.relabel (f : String → String) (e : Edge) : Edge :=
  { e with source := f e.source, target := f e.target }

/-- The same stage of a search. -/
def Frame.relabel (f : String → String) (p : Frame) : Frame :=
  ⟨f p.vertex, p.pending.map (Prod.map id f)⟩

theorem Frame.map_relabel_cons (v : String) (pending : List (Nat × String)) (path : List Frame) :
    (⟨v, pending⟩ :: path : List Frame).map (relabel f) =
      ⟨f v, pending.map (Prod.map id f)⟩ :: path.map (relabel f) := rfl

namespace Ranking

theorem run_of_empty (out : String → List String) {s : Ranking} (empty : s.queue = []) :
    run out s = s := by
  rw [run]
  split
  · rfl
  · rename_i next
    cases empty.symm.trans next

theorem run_of_next (out : String → List String) {s : Ranking} {v : String}
    {queue : List String} (next : s.queue = v :: queue) :
    run out s =
      run out ((out v).foldl (arrive (s.rank v + 1)) { s with queue, taken := v :: s.taken }) := by
  rw [run]
  split
  · rename_i empty
    cases next.symm.trans empty
  · rename_i next'
    cases next.symm.trans next'
    rfl

end Ranking

section Injective

variable (injective : Function.Injective f)

include injective

theorem contains_relabel (ids : List String) (v : String) :
    (ids.map f).contains (f v) = ids.contains v := by
  rw [Bool.eq_iff_iff, List.contains_iff_mem, List.contains_iff_mem,
    List.mem_map_of_injective injective]

theorem beq_relabel (v w : String) : (f v == f w) = (v == w) :=
  beq_eq_beq.mpr injective.eq_iff

theorem Edge.isKnown_relabel (ids : List String) (e : Edge) :
    (e.relabel f).isKnown (ids.map f) = e.isKnown ids := by
  simp only [isKnown, relabel, contains_relabel injective]

theorem outgoing_relabel (ids : List String) (edges : List Edge) (v : String) :
    outgoing (ids.map f) (edges.map (Edge.relabel f)) (f v) =
      (outgoing ids edges v).map (Prod.map id f) := by
  rw [outgoing, outgoing, List.zipIdx_map, List.filterMap_map, List.map_filterMap]
  refine List.filterMap_congr fun (e, i) _ => ?_
  have source : ((e.relabel f).source == f v) = (e.source == v) := beq_relabel injective _ _
  simp only [Function.comp_apply, Prod.map_apply, id_eq, Edge.isKnown_relabel injective, source]
  split <;> rfl

theorem onPath_relabel (path : List Frame) (v : String) :
    onPath (path.map (Frame.relabel f)) (f v) = onPath path v := by
  simp only [onPath, List.any_map, Function.comp_def, Frame.relabel, beq_relabel injective]

theorem search_relabel {out out' : String → List (Nat × String)}
    (same : ∀ v, out' (f v) = (out v).map (Prod.map id f)) (unseen : List String)
    (path : List Frame) (back : List Nat) :
    search out' (unseen.map f) (path.map (Frame.relabel f)) back =
      (search out unseen path back).map (List.map f) id := by
  fun_induction search out unseen path back with
  | case1 unseen back =>
      rw [List.map_nil, search]
      rfl
  | case2 unseen back v path ih =>
      rw [Frame.map_relabel_cons, List.map_nil, search, ih]
  | case3 unseen back v i w pending path isOnPath ih =>
      rw [← onPath_relabel injective] at isOnPath
      rw [Frame.map_relabel_cons] at isOnPath ih ⊢
      rw [List.map_cons, Prod.map_apply, search, if_pos isOnPath]
      exact ih
  | case4 unseen back v i w pending path notOnPath isUnseen ih =>
      rw [← onPath_relabel injective] at notOnPath
      rw [Frame.map_relabel_cons] at notOnPath ⊢
      rw [List.map_cons, Prod.map_apply, search, if_neg notOnPath,
        if_pos (List.mem_map_of_mem isUnseen), ← List.map_erase injective, same]
      exact ih
  | case5 unseen back v i w pending path notOnPath notUnseen ih =>
      rw [← onPath_relabel injective] at notOnPath
      rw [← List.mem_map_of_injective injective] at notUnseen
      rw [Frame.map_relabel_cons] at notOnPath ih ⊢
      rw [List.map_cons, Prod.map_apply, search, if_neg notOnPath, if_neg notUnseen]
      exact ih

theorem searchFrom_relabel {out out' : String → List (Nat × String)}
    (same : ∀ v, out' (f v) = (out v).map (Prod.map id f)) (s : List String × List Nat)
    (root : String) :
    searchFrom out' (s.map (List.map f) id) (f root) =
      (searchFrom out s root).map (List.map f) id := by
  unfold searchFrom
  by_cases isUnseen : root ∈ s.1
  · rw [if_pos isUnseen]
    refine (if_pos (List.mem_map_of_mem isUnseen)).trans ?_
    rw [same, Prod.map_fst, ← List.map_erase injective]
    exact search_relabel injective same _ [⟨root, out root⟩] s.2
  · rw [if_neg isUnseen]
    exact if_neg (by rwa [Prod.map_fst, List.mem_map_of_injective injective])

/-- The search takes vertices and edges in the order given, so it finds the same edges. -/
theorem backEdges_relabel (ids : List String) (edges : List Edge) :
    backEdges (ids.map f) (edges.map (Edge.relabel f)) = backEdges ids edges := by
  have step (s : List String × List Nat) (v : String) :=
    searchFrom_relabel injective (outgoing_relabel injective ids edges) s v
  have searched : (ids.map f).foldl
      (searchFrom (outgoing (ids.map f) (edges.map (Edge.relabel f)))) ((ids.map f).eraseDups, []) =
        (ids.foldl (searchFrom (outgoing ids edges)) (ids.eraseDups, [])).map (List.map f) id := by
    rw [List.foldl_map, eraseDups_map injective]
    change ids.foldl _ (Prod.map (List.map f) id (ids.eraseDups, [])) = _
    exact List.foldl_hom _ step
  rw [backEdges, backEdges, searched, List.length_map]
  rfl

theorem forwardEdges_relabel (ids : List String) (edges : List Edge) :
    forwardEdges (ids.map f) (edges.map (Edge.relabel f)) =
      (forwardEdges ids edges).map (Edge.relabel f) := by
  rw [forwardEdges, forwardEdges, backEdges_relabel injective, List.zipIdx_map,
    List.filterMap_map, List.map_filterMap]
  refine List.filterMap_congr fun (e, i) _ => ?_
  simp only [Function.comp_apply, Prod.map_apply, id_eq, Edge.isKnown_relabel injective]
  split <;> rfl

/-- A ranking of the vertices under their new ids. -/
structure Ranking.IsRelabeled (f : String → String) (s s' : Ranking) : Prop where
  rank : ∀ v, s'.rank (f v) = s.rank v
  waiting : s'.waiting = s.waiting.map f
  queue : s'.queue = s.queue.map f
  taken : s'.taken = s.taken.map f

namespace Ranking.IsRelabeled

variable {s s' : Ranking}

theorem arrive (h : IsRelabeled f s s') (r : Nat) (w : String) :
    IsRelabeled f (s.arrive r w) (s'.arrive r (f w)) where
  rank v := by
    dsimp only [Ranking.arrive]
    rw [beq_relabel injective, h.rank, h.rank]
  waiting := by
    dsimp only [Ranking.arrive]
    rw [h.waiting, List.map_erase injective]
  queue := by
    dsimp only [Ranking.arrive]
    simp only [h.waiting, ← List.map_erase injective, List.mem_map_of_injective injective, h.queue]
    split
    · rw [List.map_append, List.map_singleton]
    · rfl
  taken := h.taken

theorem foldl_arrive (h : IsRelabeled f s s') (r : Nat) (ws : List String) :
    IsRelabeled f (ws.foldl (Ranking.arrive r) s) ((ws.map f).foldl (Ranking.arrive r) s') := by
  induction ws generalizing s s' with
  | nil => exact h
  | cons w ws ih => exact ih (h.arrive injective r w)

/-- Taking the vertices of the one queue after the other takes those of the other queue. -/
theorem run {out out' : String → List String} (same : ∀ v, out' (f v) = (out v).map f)
    (h : IsRelabeled f s s') : IsRelabeled f (Ranking.run out s) (Ranking.run out' s') := by
  fun_induction Ranking.run out s generalizing s' with
  | case1 s empty =>
      have empty' : s'.queue = [] := by rw [h.queue, empty, List.map_nil]
      rwa [run_of_empty _ empty']
  | case2 s v queue next ih =>
      have next' : s'.queue = f v :: queue.map f := by rw [h.queue, next, List.map_cons]
      rw [run_of_next _ next', same, h.rank]
      have taking : IsRelabeled f { s with queue, taken := v :: s.taken }
          { s' with queue := queue.map f, taken := f v :: s'.taken } :=
        ⟨h.rank, h.waiting, rfl, by rw [h.taken, List.map_cons]⟩
      exact ih (taking.foldl_arrive injective _ _)

end Ranking.IsRelabeled

theorem filterMap_relabel {key item : Edge → String} (keys : ∀ e, key (e.relabel f) = f (key e))
    (items : ∀ e, item (e.relabel f) = f (item e)) (edges : List Edge) (v : String) :
    (edges.map (Edge.relabel f)).filterMap
        (fun e => if key e == f v then some (item e) else none) =
      (edges.filterMap fun e => if key e == v then some (item e) else none).map f := by
  rw [List.filterMap_map, List.map_filterMap]
  refine List.filterMap_congr fun e _ => ?_
  rw [Function.comp_apply, keys, items, beq_relabel injective]
  split <;> rfl

theorem targetsFrom_relabel (edges : List Edge) (v : String) :
    targetsFrom (edges.map (Edge.relabel f)) (f v) = (targetsFrom edges v).map f :=
  filterMap_relabel injective (fun _ => rfl) (fun _ => rfl) edges v

theorem sourcesInto_relabel (edges : List Edge) (v : String) :
    sourcesInto (edges.map (Edge.relabel f)) (f v) = (sourcesInto edges v).map f :=
  filterMap_relabel injective (fun _ => rfl) (fun _ => rfl) edges v

theorem ranking_relabel (ids : List String) (edges : List Edge) :
    (ranking ids edges).IsRelabeled f (ranking (ids.map f) (edges.map (Edge.relabel f))) := by
  have targets : ((forwardEdges ids edges).map (Edge.relabel f)).map (·.target) =
      ((forwardEdges ids edges).map (·.target)).map f := by
    rw [List.map_map, List.map_map]
    rfl
  rw [ranking, ranking, forwardEdges_relabel injective, targets]
  refine Ranking.IsRelabeled.run injective (targetsFrom_relabel injective _)
    ⟨fun _ => rfl, rfl, ?_, rfl⟩
  rw [List.filter_map]
  simp only [Function.comp_def, contains_relabel injective]

theorem rankedVertices_relabel (ids : List String) (edges : List Edge) :
    rankedVertices (ids.map f) (edges.map (Edge.relabel f)) =
      (rankedVertices ids edges).map (Prod.map f id) := by
  rw [rankedVertices, rankedVertices, List.map_map, List.map_map]
  refine List.map_congr_left fun v _ => ?_
  exact congrArg (Prod.mk (f v)) ((ranking_relabel injective ids edges).rank v)

theorem ranks_relabel (ids : List String) (edges : List Edge) :
    ranks (ids.map f) (edges.map (Edge.relabel f)) = (ranks ids edges).map (Prod.map f id) := by
  rw [ranks, ranks, rankedVertices_relabel injective,
    eraseDups_map (injective.prodMap Function.injective_id)]

theorem lastIndex_relabel (ids : List String) (v : String) :
    lastIndex (ids.map f) (f v) = lastIndex ids v := by
  have first : (ids.reverse.map f).idxOf (f v) = ids.reverse.idxOf v := by
    rw [List.idxOf, List.idxOf, List.findIdx_map]
    simp only [Function.comp_def, beq_relabel injective]
  rw [lastIndex, lastIndex, List.length_map, ← List.map_reverse, first]

/-- Slots of vertices under their new ids. -/
def Slots.IsRelabeled (f : String → String) (slots slots' : Slots) : Prop :=
  ∀ v, slots' (f v) = slots v

theorem Slots.IsRelabeled.put {slots slots' : Slots} (h : IsRelabeled f slots slots')
    (layer : List String) : IsRelabeled f (slots.put layer) (slots'.put (layer.map f)) := by
  intro v
  rw [Slots.put, Slots.put, contains_relabel injective, lastIndex_relabel injective, h v]

theorem precedes_relabel (ids : List String) (forward : List Edge) {slots slots' : Slots}
    (h : slots.IsRelabeled f slots') (v w : String) :
    precedes (ids.map f) (forward.map (Edge.relabel f)) slots' (f v) (f w) =
      precedes ids forward slots v w := by
  have center (u : String) :
      barycenter (sourcesInto (forward.map (Edge.relabel f)) (f u)) slots'
          (lastIndex (ids.map f) (f u)) =
        barycenter (sourcesInto forward u) slots (lastIndex ids u) := by
    have placed : slots' ∘ f = slots := funext h
    rw [barycenter, barycenter, sourcesInto_relabel injective, lastIndex_relabel injective,
      List.filterMap_map, placed]
  rw [precedes, precedes, center, center, lastIndex_relabel injective, lastIndex_relabel injective]

theorem sortLayers_relabel (ids : List String) (forward : List Edge) {slots slots' : Slots}
    (h : slots.IsRelabeled f slots') (ls : List (List String)) :
    sortLayers (ids.map f) (forward.map (Edge.relabel f)) slots' (ls.map (List.map f)) =
      (sortLayers ids forward slots ls).map (List.map f) := by
  induction ls generalizing slots slots' with
  | nil => rfl
  | cons layer ls ih =>
      have sorted : (layer.map f).mergeSort
          (precedes (ids.map f) (forward.map (Edge.relabel f)) slots') =
            (layer.mergeSort (precedes ids forward slots)).map f :=
        (List.map_mergeSort fun v _ w _ => (precedes_relabel injective ids forward h v w).symm).symm
      rw [List.map_cons, sortLayers, sorted, ih (h.put injective _), sortLayers, List.map_cons]

/-- A graph under new ids has the same layers under the new ids, in the same order. -/
theorem layers_relabel (ids : List String) (edges : List Edge) :
    layers (ids.map f) (edges.map (Edge.relabel f)) = (layers ids edges).map (List.map f) := by
  have parted (bound : Nat) : layersBelow bound ((rankedVertices ids edges).map (Prod.map f id)) =
      (layersBelow bound (rankedVertices ids edges)).map (List.map f) := by
    rw [layersBelow, layersBelow, List.map_map]
    refine List.map_congr_left fun r _ => ?_
    rw [Function.comp_apply, List.filterMap_map, List.map_filterMap]
    refine List.filterMap_congr fun (v, i) _ => ?_
    dsimp only [Function.comp_apply, Prod.map_apply, id_eq]
    split <;> rfl
  have bound : rankBound ((rankedVertices ids edges).map (Prod.map f id)) =
      rankBound (rankedVertices ids edges) := by
    rw [rankBound, rankBound, List.map_map]
    rfl
  rw [layers, layers, rankedVertices_relabel injective, bound, parted]
  cases layersBelow (rankBound (rankedVertices ids edges)) (rankedVertices ids edges) with
  | nil => rfl
  | cons first rest =>
      have none : Slots.IsRelabeled f (fun _ => none) fun _ => none := fun _ => rfl
      rw [List.map_cons, orderLayers, orderLayers, forwardEdges_relabel injective,
        sortLayers_relabel injective _ _ (none.put injective first), List.map_cons]

end Injective

end SchemaGraph.Layout
