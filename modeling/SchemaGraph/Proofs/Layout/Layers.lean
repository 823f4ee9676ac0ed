import Mathlib.Data.List.Perm.Basic
import SchemaGraph.Layout.Order
import SchemaGraph.Proofs.Layout.Ranking
import SchemaGraph.Proofs.Partial

/-!
# Layers share out the vertices

Each vertex stands in the layer of its rank, and sorting moves it within its layer only. Below the
rank of a vertex no rank is left out, so no layer is empty. It makes no difference whether the ranks
are assigned here or given from elsewhere, as each vertex finds its rank and its layer.
-/

namespace SchemaGraph.Layout

variable {ids : List String} {edges : List Edge} {v : String}

theorem layersBelow_rankedVertices (bound : Nat) :
    layersBelow bound (rankedVertices ids edges) =
      (List.range bound).map fun r => ids.filter fun v => (ranking ids edges).rank v == r := by
  refine List.map_congr_left fun r _ => ?_
  rw [rankedVertices, List.filterMap_map, ← List.filterMap_eq_filter]
  rfl

theorem sortLayers_perm (forward : List Edge) (slots : Slots) (ls : List (List String)) :
    List.Forall₂ List.Perm (sortLayers ids forward slots ls) ls := by
  induction ls generalizing slots with
  | nil => exact .nil
  | cons layer ls ih => exact .cons (List.mergeSort_perm _ _) (ih _)

theorem orderLayers_perm (ls : List (List String)) :
    List.Forall₂ List.Perm (orderLayers ids edges ls) ls := by
  cases ls with
  | nil => exact .nil
  | cons layer ls => exact .cons (List.Perm.refl _) (sortLayers_perm _ _ _)

/-- Up to order, the layers are the vertices of each rank. -/
theorem layers_sorted (ids : List String) (edges : List Edge) :
    List.Forall₂ List.Perm (layers ids edges)
      ((List.range (rankBound (rankedVertices ids edges))).map fun r =>
        ids.filter fun v => (ranking ids edges).rank v == r) := by
  rw [← layersBelow_rankedVertices]
  exact orderLayers_perm _

/-- The vertices below a bound, rank by rank. -/
theorem flatten_filter_perm (ids : List String) (rank : String → Nat) (bound : Nat) :
    ((List.range bound).map fun r => ids.filter fun v => rank v == r).flatten.Perm
      (ids.filter fun v => rank v < bound) := by
  induction bound with
  | zero => simp
  | succ b ih =>
      have below : (ids.filter fun v => rank v < b + 1).filter (fun v => rank v < b) =
          ids.filter fun v => rank v < b := by
        rw [List.filter_filter]
        refine List.filter_congr fun v _ => Bool.eq_iff_iff.mpr ?_
        simp only [Bool.and_eq_true, decide_eq_true_eq]
        omega
      have last : (ids.filter fun v => rank v < b + 1).filter (fun v => !decide (rank v < b)) =
          ids.filter fun v => rank v == b := by
        rw [List.filter_filter]
        refine List.filter_congr fun v _ => Bool.eq_iff_iff.mpr ?_
        simp only [Bool.and_eq_true, Bool.not_eq_true', decide_eq_true_eq,
          decide_eq_false_iff_not, beq_iff_eq]
        omega
      have parted := List.filter_append_perm (fun v => decide (rank v < b))
        (ids.filter fun v => rank v < b + 1)
      rw [below, last] at parted
      rw [List.range_succ, List.map_append, List.flatten_append, List.map_singleton,
        List.flatten_singleton]
      exact (ih.append_right _).trans parted

/-- The bound is the largest one among zero and the ranks. -/
theorem rankBound_spec (ranked : List (String × Nat)) :
    (∀ p ∈ ranked, p.2 < rankBound ranked) ∧
      (rankBound ranked = 0 ∨ ∃ p ∈ ranked, p.2 + 1 = rankBound ranked) := by
  have largest : (0 :: ranked.map fun p => p.2 + 1).max? = some (rankBound ranked) := rfl
  obtain ⟨attained, above⟩ := List.max?_eq_some_iff.mp largest
  constructor
  · intro p hp
    exact above _ (List.mem_cons_of_mem _ (List.mem_map_of_mem hp))
  · rcases List.mem_cons.mp attained with zero | attained
    · exact .inl zero
    · exact .inr (List.mem_map.mp attained)

theorem rank_lt_rankBound (hv : v ∈ ids) :
    (ranking ids edges).rank v < rankBound (rankedVertices ids edges) :=
  (rankBound_spec _).1 (v, (ranking ids edges).rank v) (List.mem_map_of_mem hv)

/-- Each vertex stands in the layers as often as among the vertices. -/
theorem layers_perm (ids : List String) (edges : List Edge) :
    (layers ids edges).flatten.Perm ids := by
  refine (List.Perm.flatten_congr (layers_sorted ids edges)).trans ?_
  have all : (ids.filter fun v =>
      (ranking ids edges).rank v < rankBound (rankedVertices ids edges)) = ids :=
    List.filter_eq_self.mpr fun v hv => decide_eq_true (rank_lt_rankBound hv)
  have parted := flatten_filter_perm ids (ranking ids edges).rank
    (rankBound (rankedVertices ids edges))
  rwa [all] at parted

/-- A layer has the vertices of its rank. -/
theorem perm_of_layers {r : Nat} {layer : List String}
    (h : (layers ids edges)[r]? = some layer) :
    layer.Perm (ids.filter fun v => (ranking ids edges).rank v == r) := by
  obtain ⟨inside, rfl⟩ := List.getElem?_eq_some_iff.mp h
  have sorted := layers_sorted ids edges
  have below : r < ((List.range (rankBound (rankedVertices ids edges))).map fun r =>
      ids.filter fun v => (ranking ids edges).rank v == r).length := by
    rw [← sorted.length_eq]
    exact inside
  have here := sorted.get inside below
  simpa using here

theorem exists_layer (hv : v ∈ ids) :
    ∃ layer, (layers ids edges)[(ranking ids edges).rank v]? = some layer ∧ v ∈ layer := by
  have bound : (layers ids edges).length = rankBound (rankedVertices ids edges) := by
    rw [(layers_sorted ids edges).length_eq, List.length_map, List.length_range]
  have inside : (ranking ids edges).rank v < (layers ids edges).length := by
    rw [bound]
    exact rank_lt_rankBound hv
  have here := List.getElem?_eq_getElem inside
  refine ⟨_, here, ?_⟩
  rw [(perm_of_layers here).mem_iff, List.mem_filter]
  exact ⟨hv, beq_self_eq_true _⟩

/-- No layer is empty. -/
theorem ne_nil_of_mem_layers {layer : List String}
    (h : layer ∈ layers ids edges) : layer ≠ [] := by
  obtain ⟨plain, hplain, perm⟩ := exists_of_mem_left (layers_sorted ids edges) h
  obtain ⟨r, hr, rfl⟩ := List.mem_map.mp hplain
  have bound := List.mem_range.mp hr
  obtain ⟨v, hv, top⟩ : ∃ v ∈ ids, (ranking ids edges).rank v + 1 =
      rankBound (rankedVertices ids edges) := by
    rcases (rankBound_spec (rankedVertices ids edges)).2 with zero | ⟨p, hp, top⟩
    · omega
    · obtain ⟨v, hv, rfl⟩ := List.mem_map.mp hp
      exact ⟨v, hv, top⟩
  have below : r ≤ (ranking ids edges).rank v := by omega
  obtain ⟨u, hu, rank⟩ := Ranking.exists_rank_eq hv below
  intro none
  have has : u ∈ layer := perm.mem_iff.mpr (List.mem_filter.mpr ⟨hu, by simp [rank]⟩)
  rw [none] at has
  cases has

theorem rankBound_mono {ranked ranked' : List (String × Nat)} (h : ranked ⊆ ranked') :
    rankBound ranked ≤ rankBound ranked' := by
  rcases (rankBound_spec ranked).2 with zero | ⟨p, hp, top⟩
  · omega
  · have below := (rankBound_spec ranked').1 p (h hp)
    omega

theorem foldl_max_natCast (ns : List Nat) (n : Nat) :
    (ns.map fun m : Nat => (m : Int)).foldl max (n : Int) = (ns.foldl max n : Nat) := by
  induction ns generalizing n with
  | nil => rfl
  | cons m ns ih =>
      have larger : max (n : Int) (m : Int) = (max n m : Nat) := by omega
      rw [List.map_cons, List.foldl_cons, List.foldl_cons, larger, ih]

/-- The ranks as they can be given from elsewhere. -/
def givenRanks (ids : List String) (edges : List Edge) : List (String × Int) :=
  (ranks ids edges).map fun (v, r) => (v, (r : Int))

theorem mem_ranks_iff {p : String × Nat} :
    p ∈ ranks ids edges ↔ p ∈ rankedVertices ids edges := List.mem_eraseDups

theorem mem_givenRanks_iff {r : Int} :
    (v, r) ∈ givenRanks ids edges ↔ v ∈ ids ∧ r = (ranking ids edges).rank v := by
  unfold givenRanks
  rw [List.mem_map]
  constructor
  · rintro ⟨⟨u, k⟩, hp, same⟩
    cases same
    obtain ⟨u, hu, same⟩ := List.mem_map.mp (mem_ranks_iff.mp hp)
    cases same
    exact ⟨hu, rfl⟩
  · rintro ⟨hv, rfl⟩
    exact ⟨(v, (ranking ids edges).rank v), mem_ranks_iff.mpr (List.mem_map_of_mem hv), rfl⟩

theorem lookup_givenRanks (hv : v ∈ ids) :
    (givenRanks ids edges).lookup v = some ((ranking ids edges).rank v : Int) := by
  cases found : (givenRanks ids edges).lookup v with
  | none =>
      have absent := List.lookup_eq_none_iff.mp found _ (mem_givenRanks_iff.mpr ⟨hv, rfl⟩)
      simp at absent
  | some r =>
      obtain ⟨before, after, split, -⟩ := List.lookup_eq_some_iff.mp found
      have listed : (v, r) ∈ givenRanks ids edges := by
        rw [split]
        simp
      rw [(mem_givenRanks_iff.mp listed).2]

theorem bound_givenRanks :
    (((givenRanks ids edges).map fun g : String × Int => g.2 + 1).foldl max 0).toNat =
      rankBound (rankedVertices ids edges) := by
  have casts : (givenRanks ids edges).map (fun g => g.2 + 1) =
      ((ranks ids edges).map fun p => p.2 + 1).map (fun m : Nat => (m : Int)) := by
    rw [givenRanks, List.map_map, List.map_map]
    rfl
  rw [casts]
  refine (congrArg Int.toNat (foldl_max_natCast _ 0)).trans (Nat.le_antisymm ?_ ?_)
  · exact rankBound_mono fun p hp => mem_ranks_iff.mp hp
  · exact rankBound_mono fun p hp => mem_ranks_iff.mpr hp

/-- Each vertex finds its rank among those that were assigned, and the layer of that rank. -/
theorem layersGiven_givenRanks (ids : List String) (edges : List Edge) :
    layersGiven ids edges (givenRanks ids edges) = .ok (layers ids edges) := by
  unfold layersGiven
  dsimp only
  rw [bound_givenRanks, mapM_eq_ok_map (g := fun v => (v, (ranking ids edges).rank v))]
  · rfl
  · intro v hv
    have inside : layerIndex? (rankBound (rankedVertices ids edges))
        ((ranking ids edges).rank v : Int) = some ((ranking ids edges).rank v) := by
      have below := (rank_lt_rankBound hv : (ranking ids edges).rank v < _)
      have notNegative : ¬ ((ranking ids edges).rank v : Int) < 0 := by omega
      simp [layerIndex?, notNegative, below]
    simp only [lookup_givenRanks hv, inside]

end SchemaGraph.Layout
