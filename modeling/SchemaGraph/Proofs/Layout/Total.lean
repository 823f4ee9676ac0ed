import SchemaGraph.Proofs.Layout.Barycenter
import SchemaGraph.Proofs.Layout.Boxes
import SchemaGraph.Proofs.Layout.Defined
import SchemaGraph.Proofs.Layout.Tallies

/-!
# Laying out never fails

Ordering looks up ranks, layers by their ranks, predecessors and places, and divides by the number
of predecessors that are placed. Each of these steps is partial here. All vertices have their ranks
below the number of layers, both ends of a forward edge are vertices, and a mean is taken of some
slots only, so the steps are defined and give the layers. With exact coordinates there is nothing
else that could fail, and every graph has a layout with a box for each one given, whatever its edges
are and also if ids are repeated.
-/

namespace SchemaGraph.Layout

/-- A quotient, unless the divisor is zero. -/
def quotient? (a b : Nat) : Option ℚ := if b = 0 then none else some (a / b)

/-- The number of layers for some ranks. -/
def rankCount? (ranks : List Nat) : Option Nat :=
  if ranks.isEmpty then some 0 else ranks.max?.map (· + 1)

/-- Add a vertex to the layer of its rank. -/
def append? (ranks : Keyed Nat) (ls : List (List String)) (v : String) :
    Option (List (List String)) := do
  let r ← ranks v
  let layer ← ls[r]?
  return ls.set r (layer ++ [v])

/-- The mean of the slots of the placed predecessors, or else the own place. -/
def center? (placed : List Nat) (place : Nat) : Option ℚ :=
  if placed.isEmpty then some place else quotient? placed.sum placed.length

/-- What a vertex is sorted by. -/
def key? (predecessors : Keyed (List String)) (places : Keyed Nat) (slots : Slots) (v : String) :
    Option (ℚ ×ₗ ℕ) := do
  let sources ← predecessors v
  let place ← places v
  let center ← center? (sources.filterMap slots) place
  return toLex (center, place)

/-- Sort a layer once all its vertices have their keys. -/
def sort? (key : String → Option (ℚ ×ₗ ℕ)) (layer : List String) : Option (List String) := do
  let keyed ← layer.mapM fun v => return (← key v, v)
  return (keyed.mergeSort fun a b => a.1 ≤ b.1).map (·.2)

/-- Sort the layer of a rank with the slots known so far. -/
def sortLayer? (predecessors : Keyed (List String)) (places : Keyed Nat)
    (s : Slots × List (List String)) (r : Nat) : Option (Slots × List (List String)) := do
  let sorted ← sort? (key? predecessors places s.1) (← s.2[r]?)
  return (s.1.put sorted, s.2.set r sorted)

/-- The slots of the first layer, which stays as it is. -/
def firstSlots? (plain : List (List String)) : Option Slots :=
  if plain.isEmpty then some fun _ => none else plain[0]?.map (Slots.put fun _ => none)

/-- Sort all layers but the first. -/
def sortLayers? (ids : List String) (forward : List Edge) (plain : List (List String)) :
    Option (List (List String)) := do
  let predecessors ← Keyed.collect? ids (·.target) (·.source) forward
  let slots ← firstSlots? plain
  let sorted ← (List.range' 1 (plain.length - 1)).foldlM
    (sortLayer? predecessors (.fill ids (lastIndex ids))) (slots, plain)
  return sorted.2

/-- The vertices of each rank, in the order given. -/
def plainLayers? (ids : List String) (ranks : Keyed Nat) : Option (List (List String)) := do
  let bound ← rankCount? (← ids.mapM ranks)
  ids.foldlM (append? ranks) (List.replicate bound [])

/-- The layers of a graph for some ranks, with all that is looked up on the way. -/
def layers? (ids : List String) (edges : List Edge) (ranks : Keyed Nat) :
    Part (List (List String)) := do
  let forward ← forwardEdges? ids edges
  let plain ← Part.ofOption (plainLayers? ids ranks)
  Part.ofOption (sortLayers? ids forward plain)

variable {ids : List String} {edges forward : List Edge} {slots : Slots} {layer : List String}
  {v : String}

theorem foldl_max_map_succ (ns : List Nat) (n : Nat) :
    (ns.map (· + 1)).foldl max (n + 1) = ns.foldl max n + 1 := by
  induction ns generalizing n with
  | nil => rfl
  | cons m ns ih =>
      rw [List.map_cons, List.foldl_cons, List.foldl_cons, Nat.add_max_add_right, ih]

/-- The largest rank is there unless there are no vertices at all. -/
theorem rankCount?_eq (ids : List String) (edges : List Edge) :
    rankCount? (ids.map (ranking ids edges).rank) =
      some (rankBound (rankedVertices ids edges)) := by
  cases ids with
  | nil => rfl
  | cons v ids =>
      have bound : rankBound (rankedVertices (v :: ids) edges) =
          ((ids.map (ranking (v :: ids) edges).rank).map (· + 1)).foldl max
            ((ranking (v :: ids) edges).rank v + 1) := by
        rw [rankBound, rankedVertices, List.map_map, List.map_map, List.map_cons, List.foldl_cons,
          Nat.zero_max]
        rfl
      rw [bound, foldl_max_map_succ]
      rfl

/-- A vertex finds the layer of its rank. -/
theorem append?_eq {rank : String → Nat} {bound : Nat} (hv : v ∈ ids) (below : rank v < bound)
    (before : Nat → List String) :
    append? (.fill ids rank) ((List.range bound).map before) v =
      some ((List.range bound).map fun r => before r ++ [v].filter (rank · == r)) := by
  have here : ((List.range bound).map before)[rank v]? = some (before (rank v)) := by
    simp [below]
  have joined : ((List.range bound).map before).set (rank v) (before (rank v) ++ [v]) =
      (List.range bound).map fun r => before r ++ [v].filter (rank · == r) := by
    refine List.ext_getElem (by simp) fun r hr hr' => ?_
    by_cases same : rank v = r
    · simp [same]
    · simp [same]
  rw [append?, Keyed.fill_of_mem hv]
  dsimp only [Option.bind_eq_bind, Option.bind_some]
  rw [here, ← joined]
  rfl

theorem foldlM_append?_eq {rank : String → Nat} {bound : Nat} (below : ∀ v ∈ ids, rank v < bound)
    {vs : List String} (vertices : vs ⊆ ids) (before : Nat → List String) :
    vs.foldlM (append? (.fill ids rank)) ((List.range bound).map before) =
      some ((List.range bound).map fun r => before r ++ vs.filter (rank · == r)) := by
  induction vs generalizing before with
  | nil => simp
  | cons v vs ih =>
      obtain ⟨hv, vertices⟩ := List.cons_subset.mp vertices
      rw [List.foldlM_cons, append?_eq hv (below v hv)]
      refine (ih vertices _).trans (congrArg some (List.map_congr_left fun r _ => ?_))
      rw [List.append_assoc, ← List.filter_append, List.singleton_append]

/-- A mean is taken of some slots only. -/
theorem center?_eq (sources : List String) (slots : Slots) (place : Nat) :
    center? (sources.filterMap slots) place = some (barycenter sources slots place).value := by
  unfold barycenter
  split
  · rename_i none
    simp [center?, none, Mean.value]
  · rename_i nonempty
    have isSome : (sources.filterMap slots).length ≠ 0 := fun none =>
      nonempty (List.length_eq_zero_iff.mp none)
    rw [center?, if_neg (by rwa [List.isEmpty_iff]), quotient?, if_neg isSome, List.sum_eq_foldl]
    rfl

theorem key?_eq (hv : v ∈ ids) :
    key? (.fill ids (sourcesInto forward)) (.fill ids (lastIndex ids)) slots v =
      some (sortKey ids forward slots v) := by
  rw [key?, Keyed.fill_of_mem hv, Keyed.fill_of_mem hv]
  dsimp only [Option.bind_eq_bind, Option.bind_some]
  rw [center?_eq]
  rfl

theorem sort?_eq {key : String → Option (ℚ ×ₗ ℕ)}
    (h : ∀ v ∈ layer, key v = some (sortKey ids forward slots v)) :
    sort? key layer = some (layer.mergeSort (precedes ids forward slots)) := by
  rw [sort?, mapM_eq_some_map (g := fun v => (sortKey ids forward slots v, v))]
  · refine congrArg some ?_
    rw [← List.map_mergeSort (r := precedes ids forward slots), List.map_map]
    · exact List.map_id' _
    · intro v _ w _
      rw [Bool.eq_iff_iff, precedes_iff, decide_eq_true_iff]
  · intro v hv
    rw [h v hv]
    rfl

/-- A layer is found at its rank, and sorted there. -/
theorem sortLayer?_eq (forward : List Edge) (slots : Slots) (before rest : List (List String))
    (vertices : layer ⊆ ids) :
    sortLayer? (.fill ids (sourcesInto forward)) (.fill ids (lastIndex ids))
        (slots, before ++ layer :: rest) before.length =
      some (slots.put (layer.mergeSort (precedes ids forward slots)),
        before ++ layer.mergeSort (precedes ids forward slots) :: rest) := by
  have found : (before ++ layer :: rest)[before.length]? = some layer := by simp
  rw [sortLayer?, found]
  dsimp only [Option.bind_eq_bind, Option.bind_some]
  rw [sort?_eq fun v hv => key?_eq (vertices hv)]
  simp

theorem exists_foldlM_sortLayer?_eq (forward : List Edge) (slots : Slots)
    (before : List (List String)) {rest : List (List String)}
    (vertices : ∀ layer ∈ rest, layer ⊆ ids) :
    ∃ slots', (List.range' before.length rest.length).foldlM
      (sortLayer? (.fill ids (sourcesInto forward)) (.fill ids (lastIndex ids)))
        (slots, before ++ rest) =
      some (slots', before ++ sortLayers ids forward slots rest) := by
  induction rest generalizing slots before with
  | nil => exact ⟨slots, rfl⟩
  | cons layer rest ih =>
      obtain ⟨here, vertices⟩ := List.forall_mem_cons.mp vertices
      obtain ⟨slots', later⟩ := ih (slots.put (layer.mergeSort (precedes ids forward slots)))
        (before ++ [layer.mergeSort (precedes ids forward slots)]) vertices
      refine ⟨slots', ?_⟩
      rw [List.length_cons, List.range'_succ, List.foldlM_cons,
        sortLayer?_eq forward slots before rest here]
      simpa [sortLayers] using later

theorem sortLayers?_eq (edges : List Edge) {plain : List (List String)}
    (vertices : ∀ layer ∈ plain, layer ⊆ ids) :
    sortLayers? ids (forwardEdges ids edges) plain = some (orderLayers ids edges plain) := by
  have collected : Keyed.collect? ids (·.target) (·.source) (forwardEdges ids edges) =
      some (.fill ids (sourcesInto (forwardEdges ids edges))) :=
    Keyed.collect?_eq _ fun _ he => (known_of_mem_forwardEdges he).2
  rw [sortLayers?, collected]
  cases plain with
  | nil => rfl
  | cons first rest =>
      obtain ⟨-, vertices⟩ := List.forall_mem_cons.mp vertices
      obtain ⟨slots, sorted⟩ := exists_foldlM_sortLayer?_eq (forwardEdges ids edges)
        (Slots.put (fun _ => none) first) [first] vertices
      have there : firstSlots? (first :: rest) = some (Slots.put (fun _ => none) first) := rfl
      rw [there]
      dsimp only [Option.bind_eq_bind, Option.bind_some]
      exact Option.bind_eq_some_iff.mpr ⟨_, sorted, rfl⟩

theorem plainLayers?_eq (ids : List String) (edges : List Edge) :
    plainLayers? ids (.fill ids (ranking ids edges).rank) =
      some (layersBelow (rankBound (rankedVertices ids edges)) (rankedVertices ids edges)) := by
  have ranked : ids.mapM (Keyed.fill ids (ranking ids edges).rank) =
      some (ids.map (ranking ids edges).rank) :=
    mapM_eq_some_map fun _ hv => Keyed.fill_of_mem hv
  rw [plainLayers?, ranked]
  dsimp only [Option.bind_eq_bind, Option.bind_some]
  rw [rankCount?_eq, layersBelow_rankedVertices]
  have none (bound : Nat) : List.replicate bound [] =
      (List.range bound).map fun _ => ([] : List String) := by
    simp
  rw [Option.bind_some, none]
  exact foldlM_append?_eq (fun _ hv => rank_lt_rankBound hv) (List.Subset.refl ids) _

/-- Nothing that ordering looks up is missing, and it ends with the layers. -/
theorem layers?_eq (ids : List String) (edges : List Edge) :
    layers? ids edges (.fill ids (ranking ids edges).rank) = Part.some (layers ids edges) := by
  have vertices : ∀ layer ∈ layersBelow (rankBound (rankedVertices ids edges))
      (rankedVertices ids edges), layer ⊆ ids := by
    intro layer hlayer
    rw [layersBelow_rankedVertices] at hlayer
    obtain ⟨r, -, rfl⟩ := List.mem_map.mp hlayer
    exact List.filter_subset_self _
  simp only [layers?, forwardEdges?_eq, plainLayers?_eq, sortLayers?_eq edges vertices,
    Part.coe_some, Part.bind_eq_bind, Part.bind_some]
  rfl

variable {K : Type} [Field K] [LinearOrder K]

/-- Nothing that ranking and ordering look up is missing, and they end with the ranks and with
layers that share out the vertices and are not empty. So laying out gives a box for each one given,
whatever the edges are and also if ids are repeated. -/
theorem layout_isDefined (s : Settings K) (nodes : List (Node K)) (edges : List Edge) :
    let ids := nodes.map (·.id)
    ranks? ids edges = Part.some (.fill ids (ranking ids edges).rank) ∧
      layers? ids edges (.fill ids (ranking ids edges).rank) = Part.some (layers ids edges) ∧
      (layers ids edges).flatten.Perm ids ∧
      (∀ layer ∈ layers ids edges, layer ≠ []) ∧
      ∃ r, layout? s nodes edges = some r ∧ r.nodes.map (·.id) = ids := by
  intro ids
  refine ⟨ranks?_eq ids edges, layers?_eq ids edges, layers_perm ids edges,
    fun _ => ne_nil_of_mem_layers, ?_⟩
  by_cases given : nodes = []
  · subst given
    exact ⟨_, rfl, rfl⟩
  · rw [layout?_of_ne_nil given]
    exact exists_place? given fun _ _ => ⟨fun _ _ => rfl, fun _ _ => rfl⟩

end SchemaGraph.Layout
