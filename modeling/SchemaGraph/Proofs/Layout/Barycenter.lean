import Mathlib.Algebra.Order.Field.Rat
import Mathlib.Data.Prod.Lex
import SchemaGraph.Proofs.Layout.Layers
import SchemaGraph.Proofs.Layout.LongestPath

/-!
# Layers in barycentric order

A layer is sorted by keys that come from the slots in the layers before it, and no later layer moves
those again. Above the first layer each vertex has predecessors, and as ranks rise along forward
edges all of them have slots by then. So the key of a vertex is the mean of the final slots of its
predecessors, and its own place in the order given decides between equal means only.
-/

namespace SchemaGraph.Layout

variable {ids : List String} {edges : List Edge} {forward : List Edge} {slots : Slots}
  {ls : List (List String)} {layer : List String} {u v w : String} {r : Nat}

namespace Mean

/-- The mean as a fraction. -/
def value (m : Mean) : ℚ := m.sum / m.count

variable {a b : Mean}

theorem less_iff (ha : a.count ≠ 0) (hb : b.count ≠ 0) :
    a.less b = true ↔ a.value < b.value := by
  have posA : (0 : ℚ) < a.count := Nat.cast_pos.mpr (Nat.pos_of_ne_zero ha)
  have posB : (0 : ℚ) < b.count := Nat.cast_pos.mpr (Nat.pos_of_ne_zero hb)
  rw [less, decide_eq_true_iff, value, value, div_lt_div_iff₀ posA posB]
  norm_cast

theorem same_iff (ha : a.count ≠ 0) (hb : b.count ≠ 0) :
    a.same b = true ↔ a.value = b.value := by
  have someA : (a.count : ℚ) ≠ 0 := Nat.cast_ne_zero.mpr ha
  have someB : (b.count : ℚ) ≠ 0 := Nat.cast_ne_zero.mpr hb
  rw [same, beq_iff_eq, value, value, div_eq_div_iff someA someB]
  norm_cast

end Mean

/-- A mean is always one of some places. -/
theorem barycenter_count_ne_zero (sources : List String) (slots : Slots) (index : Nat) :
    (barycenter sources slots index).count ≠ 0 := by
  unfold barycenter
  split
  · exact Nat.one_ne_zero
  · rename_i placed nonempty
    intro none
    exact nonempty (List.length_eq_zero_iff.mp none)

/-- What a layer is sorted by. -/
def sortKey (ids : List String) (forward : List Edge) (slots : Slots) (v : String) : ℚ ×ₗ ℕ :=
  toLex ((barycenter (sourcesInto forward v) slots (lastIndex ids v)).value, lastIndex ids v)

theorem precedes_iff :
    precedes ids forward slots v w = true ↔
      sortKey ids forward slots v ≤ sortKey ids forward slots w := by
  have someV := barycenter_count_ne_zero (sourcesInto forward v) slots (lastIndex ids v)
  have someW := barycenter_count_ne_zero (sourcesInto forward w) slots (lastIndex ids w)
  rw [sortKey, sortKey, Prod.Lex.toLex_le_toLex, precedes]
  simp only [Bool.or_eq_true, Bool.and_eq_true, decide_eq_true_iff, Mean.less_iff someV someW,
    Mean.same_iff someV someW]

/-- A layer is in the order of the keys that its vertices have with some slots. -/
def IsSortedWith (ids : List String) (forward : List Edge) (slots : Slots) (layer : List String) :
    Prop :=
  layer.Pairwise fun v w => sortKey ids forward slots v ≤ sortKey ids forward slots w

theorem isSortedWith_mergeSort (layer : List String) :
    IsSortedWith ids forward slots (layer.mergeSort (precedes ids forward slots)) := by
  refine (List.pairwise_mergeSort ?_ ?_ layer).imp precedes_iff.mp
  · intro u v w first second
    rw [precedes_iff] at first second ⊢
    exact first.trans second
  · intro v w
    rw [Bool.or_eq_true, precedes_iff, precedes_iff]
    exact le_total _ _

/-- Each layer is sorted with the slots that are known before it. -/
theorem isSortedWith_sortLayers (h : (sortLayers ids forward slots ls)[r]? = some layer) :
    IsSortedWith ids forward (((sortLayers ids forward slots ls).take r).foldl Slots.put slots)
      layer := by
  induction ls generalizing slots r with
  | nil => simp [sortLayers] at h
  | cons first rest ih =>
      cases r with
      | zero =>
          obtain rfl : _ = layer := by simpa [sortLayers] using h
          exact isSortedWith_mergeSort first
      | succ r => exact ih h

theorem lastIndex_eq_idxOf (distinct : ids.Nodup) (hv : v ∈ ids) :
    lastIndex ids v = ids.idxOf v := by
  have inside := List.idxOf_lt_length_iff.mpr hv
  have backwards : ids.length - 1 - ids.idxOf v < ids.reverse.length := by
    rw [List.length_reverse]
    omega
  have here : ids.reverse[ids.length - 1 - ids.idxOf v] = v := by
    rw [List.getElem_reverse]
    have same : ids.length - 1 - (ids.length - 1 - ids.idxOf v) = ids.idxOf v := by omega
    simp only [same, List.getElem_idxOf]
  have place := (List.nodup_reverse.mpr distinct).idxOf_getElem _ backwards
  rw [here] at place
  rw [lastIndex, place]
  omega

/-- The place of a vertex in the layer that holds it. -/
def slotOf (ls : List (List String)) (v : String) : Nat :=
  ((ls.find? (·.contains v)).getD []).idxOf v

theorem slotOf_eq (distinct : ls.flatten.Nodup) (hl : layer ∈ ls) (hv : v ∈ layer) :
    slotOf ls v = layer.idxOf v := by
  have found : ls.find? (·.contains v) = some layer := by
    induction ls with
    | nil => cases hl
    | cons first rest ih =>
        rw [List.flatten_cons, List.nodup_append] at distinct
        obtain ⟨-, distinct, apart⟩ := distinct
        rcases List.mem_cons.mp hl with rfl | hl
        · exact List.find?_cons_of_pos (List.contains_iff_mem.mpr hv)
        · have notFirst : v ∉ first := fun here =>
            apart v here v (List.mem_flatten.mpr ⟨layer, hl, hv⟩) rfl
          rw [List.find?_cons_of_neg (by simpa using notFirst)]
          exact ih distinct hl
  rw [slotOf, found, Option.getD_some]

theorem foldl_put_of_notMem (h : v ∉ ls.flatten) : ls.foldl Slots.put slots v = slots v := by
  induction ls generalizing slots with
  | nil => rfl
  | cons first rest ih =>
      rw [List.flatten_cons, List.mem_append, not_or] at h
      rw [List.foldl_cons, ih h.2, Slots.put, if_neg (by simpa using h.1)]

/-- After some layers, the slots of their vertices are known. -/
theorem foldl_put_of_mem (distinct : ls.flatten.Nodup) (hl : layer ∈ ls) (hv : v ∈ layer) :
    ls.foldl Slots.put slots v = some (layer.idxOf v) := by
  induction ls generalizing slots with
  | nil => cases hl
  | cons first rest ih =>
      rw [List.flatten_cons, List.nodup_append] at distinct
      obtain ⟨once, distinct, apart⟩ := distinct
      rw [List.foldl_cons]
      rcases List.mem_cons.mp hl with rfl | hl
      · have notLater : v ∉ rest.flatten := fun later => apart v hv v later rfl
        rw [foldl_put_of_notMem notLater, Slots.put, if_pos (List.contains_iff_mem.mpr hv),
          lastIndex_eq_idxOf once hv]
      · exact ih distinct hl

theorem layers_zero (h : (layers ids edges)[0]? = some layer) :
    layer = ids.filter fun v => (ranking ids edges).rank v == 0 := by
  rw [layers, layersBelow_rankedVertices] at h
  cases hb : rankBound (rankedVertices ids edges) with
  | zero => simp [hb, orderLayers] at h
  | succ bound =>
      rw [hb, List.range_succ_eq_map, List.map_cons, orderLayers, List.getElem?_cons_zero] at h
      exact (Option.some.inj h).symm

/-- The slots of the vertices that stand in the layers before a place. -/
def slotsBefore (ls : List (List String)) (r : Nat) : Slots :=
  (ls.take r).foldl Slots.put fun _ => none

theorem isSortedWith_layers (h : (layers ids edges)[r + 1]? = some layer) :
    IsSortedWith ids (forwardEdges ids edges) (slotsBefore (layers ids edges) (r + 1)) layer := by
  rw [layers] at h ⊢
  generalize layersBelow _ (rankedVertices ids edges) = plain at h ⊢
  cases plain with
  | nil => simp [orderLayers] at h
  | cons first rest => exact isSortedWith_sortLayers h

theorem slotsBefore_eq (distinct : ls.flatten.Nodup) {k : Nat} (hk : k < r)
    (hl : ls[k]? = some layer) (hv : v ∈ layer) : slotsBefore ls r v = some (slotOf ls v) := by
  have once : (ls.take r).flatten.Nodup := by
    rw [← List.take_append_drop r ls, List.flatten_append, List.nodup_append] at distinct
    exact distinct.1
  have before : layer ∈ ls.take r := by
    refine List.mem_of_getElem? (i := k) ?_
    rw [List.getElem?_take_of_lt hk, hl]
  rw [slotOf_eq distinct (List.mem_of_getElem? hl) hv]
  exact foldl_put_of_mem once before hv

theorem barycenter_of_placed {sources : List String} (nonempty : sources ≠ [])
    (placed : ∀ u ∈ sources, slots u = some (slotOf ls u)) (index : Nat) :
    barycenter sources slots index = ⟨(sources.map (slotOf ls)).sum, sources.length⟩ := by
  have found : sources.filterMap slots = sources.map (slotOf ls) := by
    rw [List.filterMap_congr placed, ← List.filterMap_eq_map]
    rfl
  unfold barycenter
  rw [found]
  split
  · rename_i none
    exact absurd (List.map_eq_nil_iff.mp none) nonempty
  · rw [List.length_map, List.sum_eq_foldl]

theorem mem_sourcesInto_iff : u ∈ sourcesInto forward v ↔
    ∃ e ∈ forward, e.source = u ∧ e.target = v := by
  unfold sourcesInto
  rw [List.mem_filterMap]
  constructor
  · rintro ⟨e, he, kept⟩
    obtain ⟨target, source⟩ := Option.ite_none_right_eq_some.mp kept
    exact ⟨e, he, Option.some.inj source, beq_iff_eq.mp target⟩
  · rintro ⟨e, he, rfl, rfl⟩
    exact ⟨e, he, by simp⟩

/-- The mean slot of the predecessors of a vertex. Each of them counts as often as forward edges
lead from it to the vertex. -/
def center (ids : List String) (edges : List Edge) (ls : List (List String)) (v : String) : ℚ :=
  ((sourcesInto (forwardEdges ids edges) v).map (slotOf ls)).sum /
    (sourcesInto (forwardEdges ids edges) v).length

/-- Each vertex stands once in the layers, in the layer of its rank. The first layer is in the order
given, and each later one is in the order of the centers of its vertices, which exist and come from
the layers before it. -/
structure IsBarycentric (ids : List String) (edges : List Edge) (ls : List (List String)) :
    Prop where
  all : ls.flatten.Perm ids
  ranked : ∀ (r : Nat) (layer : List String), ls[r]? = some layer →
    layer.Perm (ids.filter fun v => (ranking ids edges).rank v == r)
  first : ∀ layer : List String, ls[0]? = some layer →
    layer = ids.filter fun v => (ranking ids edges).rank v == 0
  placed : ∀ (r : Nat) (layer : List String), ls[r + 1]? = some layer → ∀ v ∈ layer,
    sourcesInto (forwardEdges ids edges) v ≠ [] ∧
      ∀ u ∈ sourcesInto (forwardEdges ids edges) v, ∃ k ≤ r, ∃ lower : List String,
        ls[k]? = some lower ∧ u ∈ lower
  centered : ∀ (r : Nat) (layer : List String), ls[r + 1]? = some layer → ∀ v ∈ layer,
    ∀ index, (barycenter (sourcesInto (forwardEdges ids edges) v) (slotsBefore ls (r + 1))
      index).value = center ids edges ls v
  sorted : ∀ (r : Nat) (layer : List String), ls[r + 1]? = some layer →
    layer.Pairwise fun v w => center ids edges ls v < center ids edges ls w ∨
      center ids edges ls v = center ids edges ls w ∧ ids.idxOf v < ids.idxOf w

section Distinct

variable (distinct : ids.Nodup)

include distinct

theorem nodup_layers : (layers ids edges).flatten.Nodup :=
  (layers_perm ids edges).nodup_iff.mpr distinct

/-- Above the first layer, each vertex has predecessors, and all of them stand in lower layers. -/
theorem sources_placed (h : (layers ids edges)[r + 1]? = some layer) (hv : v ∈ layer) :
    sourcesInto (forwardEdges ids edges) v ≠ [] ∧
      ∀ u ∈ sourcesInto (forwardEdges ids edges) v, ∃ k ≤ r, ∃ lower,
        (layers ids edges)[k]? = some lower ∧ u ∈ lower := by
  obtain ⟨-, ranked⟩ := List.mem_filter.mp ((perm_of_layers h).mem_iff.mp hv)
  have rank : (ranking ids edges).rank v = r + 1 := beq_iff_eq.mp ranked
  constructor
  · intro none
    have zero : (ranking ids edges).rank v = 0 := by
      refine (Ranking.rank_eq_zero_iff distinct).mpr fun e he target => ?_
      have into : e.source ∈ sourcesInto (forwardEdges ids edges) v :=
        mem_sourcesInto_iff.mpr ⟨e, he, rfl, target⟩
      rw [none] at into
      cases into
    omega
  · intro u hu
    obtain ⟨e, he, rfl, rfl⟩ := mem_sourcesInto_iff.mp hu
    have rises := Ranking.rank_lt_rank distinct he
    obtain ⟨lower, hlower, member⟩ := exists_layer (known_of_mem_forwardEdges he).1
    exact ⟨_, by omega, lower, hlower, member⟩

theorem value_barycenter (h : (layers ids edges)[r + 1]? = some layer) (hv : v ∈ layer)
    (index : Nat) :
    (barycenter (sourcesInto (forwardEdges ids edges) v) (slotsBefore (layers ids edges) (r + 1))
      index).value = center ids edges (layers ids edges) v := by
  obtain ⟨nonempty, lower⟩ := sources_placed distinct h hv
  have placed : ∀ u ∈ sourcesInto (forwardEdges ids edges) v,
      slotsBefore (layers ids edges) (r + 1) u = some (slotOf (layers ids edges) u) := by
    intro u hu
    obtain ⟨k, hk, lower, hl, member⟩ := lower u hu
    exact slotsBefore_eq (nodup_layers distinct) (by omega) hl member
  rw [barycenter_of_placed nonempty placed]
  rfl

theorem sorted_layers (h : (layers ids edges)[r + 1]? = some layer) :
    layer.Pairwise fun v w =>
      center ids edges (layers ids edges) v < center ids edges (layers ids edges) w ∨
        center ids edges (layers ids edges) v = center ids edges (layers ids edges) w ∧
          ids.idxOf v < ids.idxOf w := by
  have perm := perm_of_layers h
  have once : layer.Nodup := perm.nodup_iff.mpr (distinct.filter _)
  have isVertex : ∀ v ∈ layer, v ∈ ids := fun v hv =>
    (List.mem_filter.mp (perm.mem_iff.mp hv)).1
  refine ((isSortedWith_layers h).and once).imp_of_mem ?_
  rintro v w hv hw ⟨ordered, differ⟩
  rw [sortKey, sortKey, Prod.Lex.toLex_le_toLex, lastIndex_eq_idxOf distinct (isVertex v hv),
    lastIndex_eq_idxOf distinct (isVertex w hw)] at ordered
  simp only [value_barycenter distinct h hv, value_barycenter distinct h hw] at ordered
  refine ordered.imp id fun ⟨same, before⟩ => ⟨same, Nat.lt_of_le_of_ne before ?_⟩
  intro sameIndex
  exact differ ((List.idxOf_inj (isVertex v hv)).mp sameIndex)

/-- With the ranks that were assigned, ordering gives layers in barycentric order. -/
theorem layers_isBarycentric (edges : List Edge) :
    layersGiven ids edges (givenRanks ids edges) = .ok (layers ids edges) ∧
      IsBarycentric ids edges (layers ids edges) := by
  refine ⟨layersGiven_givenRanks ids edges, layers_perm ids edges, ?_, ?_, ?_, ?_, ?_⟩
  · intro r layer h
    exact perm_of_layers h
  · intro layer h
    exact layers_zero h
  · intro r layer h v hv
    exact sources_placed distinct h hv
  · intro r layer h v hv index
    exact value_barycenter distinct h hv index
  · intro r layer h
    exact sorted_layers distinct h

end Distinct

/-- Two vertices with edges to three others. One of these has a parallel edge, and an edge back. -/
def fan : List Edge :=
  [⟨"1", "b", "c", none, none⟩, ⟨"2", "a", "d", none, none⟩, ⟨"3", "a", "e", none, none⟩,
    ⟨"4", "b", "e", none, none⟩, ⟨"5", "a", "e", none, none⟩, ⟨"6", "e", "a", none, none⟩]

theorem forwardEdges_fan : forwardEdges ["a", "b", "c", "d", "e"] fan = fan.dropLast := by
  have seeds : ["a", "b", "c", "d", "e"].eraseDups = ["a", "b", "c", "d", "e"] :=
    eraseDups_of_nodup (by decide)
  have found : (["a", "b", "c", "d", "e"].foldl
      (searchFrom (outgoing ["a", "b", "c", "d", "e"] fan))
      (["a", "b", "c", "d", "e"], [])).2 = [5] := by
    simp [searchFrom, search, outgoing, fan, Edge.isKnown, onPath, List.zipIdx]
  rw [forwardEdges, backEdges, seeds, found]
  decide

theorem layers_fan : layers ["a", "b", "c", "d", "e"] fan = [["a", "b"], ["d", "e", "c"]] := by
  have ranked : rankedVertices ["a", "b", "c", "d", "e"] fan =
      [("a", 0), ("b", 0), ("c", 1), ("d", 1), ("e", 1)] := by
    rw [rankedVertices, ranking, forwardEdges_fan]
    simp [Ranking.run, Ranking.arrive, targetsFrom, fan]
  have bound : rankBound [("a", 0), ("b", 0), ("c", 1), ("d", 1), ("e", 1)] = 2 := by decide
  have plain : layersBelow 2 [("a", 0), ("b", 0), ("c", 1), ("d", 1), ("e", 1)] =
      [["a", "b"], ["c", "d", "e"]] := by decide
  rw [layers, ranked, bound, plain, orderLayers, forwardEdges_fan]
  cbv

theorem layers_isBarycentric_fan :
    let ids := ["a", "b", "c", "d", "e"]
    let ls := [["a", "b"], ["d", "e", "c"]]
    ids.Nodup ∧ layersGiven ids fan (givenRanks ids fan) = .ok ls ∧ IsBarycentric ids fan ls := by
  intro ids ls
  have distinct : ids.Nodup := by decide
  have ordered := layers_isBarycentric distinct fan
  rw [layers_fan] at ordered
  exact ⟨distinct, ordered⟩

end SchemaGraph.Layout
