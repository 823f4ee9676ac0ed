import Mathlib.Data.List.Chain
import Mathlib.Data.List.Induction
import Mathlib.Order.Bounds.Basic
import SchemaGraph.Proofs.Layout.BackEdges
import SchemaGraph.Proofs.Layout.Ranking

/-!
# Ranks are lengths of longest paths

A vertex that is never taken waits for an edge from another such vertex, and forward edges cannot be
followed backwards without end. So all vertices are taken, each of them once, and in the end the
ranking is sound for every forward edge: the rank rises along it, and a rank other than zero is one
more than that at the other end of such an edge. Hence no path is longer than the rank of the vertex
at its end, and a path of that length can be followed back from there.
-/

namespace SchemaGraph.Layout

variable {forward : List Edge} {v : String} {path : List Edge} {e : Edge}

/-- A path that ends at a vertex. The empty path ends at any of them. -/
structure IsPathTo (forward : List Edge) (v : String) (path : List Edge) : Prop where
  edges : path ⊆ forward
  linked : path.IsChain fun e f => e.target = f.source
  ends : ∀ e ∈ path.getLast?, e.target = v

namespace IsPathTo

theorem nil : IsPathTo forward v [] := ⟨by simp, .nil, by simp⟩

/-- A path can be followed by an edge from where it ends. -/
theorem append (h : IsPathTo forward e.source path) (he : e ∈ forward) :
    IsPathTo forward e.target (path ++ [e]) := by
  refine ⟨List.append_subset.mpr ⟨h.edges, by simpa using he⟩, ?_, by simp⟩
  refine h.linked.append (.singleton e) ?_
  intro last isLast f isFirst
  obtain rfl : e = f := by simpa using isFirst
  exact h.ends last isLast

/-- Without its last edge, a path ends where that edge begins. -/
theorem of_append (h : IsPathTo forward v (path ++ [e])) :
    IsPathTo forward e.source path ∧ e ∈ forward ∧ e.target = v := by
  obtain ⟨linked, -, joined⟩ := List.isChain_append.mp h.linked
  refine ⟨⟨?_, linked, ?_⟩, h.edges (by simp), h.ends e (by simp)⟩
  · intro f hf
    exact h.edges (List.mem_append_left _ hf)
  · intro last isLast
    exact joined last isLast e rfl

end IsPathTo

namespace Ranking

theorem queue_run (out : String → List String) (s : Ranking) : (run out s).queue = [] := by
  fun_induction run out s with
  | case1 s empty => exact empty
  | case2 s v queue hq ih => exact ih

variable {ids : List String} (distinct : ids.Nodup) {edges : List Edge}

include distinct

/-- No vertex is left out. -/
theorem mem_taken (hv : v ∈ ids) : v ∈ (ranking ids edges).taken := by
  have sound := isSound distinct edges
  have reached := sound.reached
  rw [show (ranking ids edges).queue = [] from queue_run _ _, List.append_nil] at reached
  obtain ⟨level, upwards⟩ := exists_level ids edges
  induction hl : level v using Nat.strongRecOn generalizing v with
  | ind l ih =>
      by_contra notTaken
      have isWaiting : v ∈ (ranking ids edges).waiting := by
        by_contra notWaiting
        exact notTaken ((reached v).mpr ⟨hv, notWaiting⟩)
      obtain ⟨e, he, rfl⟩ := List.mem_map.mp (sound.waiting.mem_iff.mp isWaiting)
      obtain ⟨isForward, sourceLeft⟩ := List.mem_filter.mp he
      refine of_decide_eq_true sourceLeft ?_
      exact ih _ (hl ▸ upwards e isForward) (known_of_mem_forwardEdges isForward).1 rfl

/-- Each vertex is taken once. -/
theorem taken_perm (edges : List Edge) : (ranking ids edges).taken.Perm ids := by
  have sound := isSound distinct edges
  have once := sound.distinct.sublist (List.sublist_append_left _ _)
  refine (List.perm_ext_iff_of_nodup once distinct).mpr fun v => ⟨?_, mem_taken distinct⟩
  intro isTaken
  exact ((sound.reached v).mp (List.mem_append_left _ isTaken)).1

theorem rank_lt_rank (he : e ∈ forwardEdges ids edges) :
    (ranking ids edges).rank e.source < (ranking ids edges).rank e.target :=
  (isSound distinct edges).above e he (mem_taken distinct (known_of_mem_forwardEdges he).1)

/-- Forward edges lead to another vertex of higher rank, or nowhere. -/
theorem rank_lt_of_reach {w : String}
    (h : Relation.ReflTransGen (Connects ids edges (backEdges ids edges)) v w) :
    v = w ∨ (ranking ids edges).rank v < (ranking ids edges).rank w := by
  induction h with
  | refl => exact .inl rfl
  | tail _ step ih =>
      obtain ⟨e, he, rfl, rfl⟩ := exists_forward_of_connects step
      have rises := rank_lt_rank distinct he
      rcases ih with rfl | lower
      · exact .inr rises
      · exact .inr (Nat.lt_trans lower rises)

/-- An edge that closes a cycle leads back to its source or to a vertex of lower rank. -/
theorem rank_lt_of_mem_backEdges {i : Nat} (hi : i ∈ backEdges ids edges)
    (he : edges[i]? = some e) : e.target = e.source ∨
      (ranking ids edges).rank e.target < (ranking ids edges).rank e.source := by
  obtain ⟨f, hf, -, reach⟩ := exists_of_mem_backEdges hi
  rw [he] at hf
  cases hf
  exact rank_lt_of_reach distinct reach

/-- Any other edge between vertices leads to a vertex of higher rank. -/
theorem rank_lt_of_notMem_backEdges {i : Nat} (hi : i ∉ backEdges ids edges)
    (he : edges[i]? = some e) (known : e.isKnown ids = true) :
    (ranking ids edges).rank e.source < (ranking ids edges).rank e.target := by
  obtain ⟨f, hf, source, target⟩ := exists_forward_of_connects
    (⟨i, e, he, known, hi, rfl, rfl⟩ : Connects ids edges (backEdges ids edges) e.source e.target)
  rw [← source, ← target]
  exact rank_lt_rank distinct hf

theorem rank_eq_zero_iff : (ranking ids edges).rank v = 0 ↔
    ∀ e ∈ forwardEdges ids edges, e.target ≠ v := by
  constructor
  · rintro zero e he rfl
    have rises := rank_lt_rank distinct he
    omega
  · intro notEntered
    rcases (isSound distinct edges).attained v with zero | ⟨e, he, target, -, -⟩
    · exact zero
    · exact absurd target (notEntered e he)

theorem length_le_rank (h : IsPathTo (forwardEdges ids edges) v path) :
    path.length ≤ (ranking ids edges).rank v := by
  induction path using List.reverseRecOn generalizing v with
  | nil => exact Nat.zero_le _
  | append_singleton path e ih =>
      obtain ⟨before, he, rfl⟩ := h.of_append
      have shorter := ih before
      have rises := rank_lt_rank distinct he
      rw [List.length_append, List.length_singleton]
      omega

theorem exists_path (v : String) : ∃ path, IsPathTo (forwardEdges ids edges) v path ∧
    path.length = (ranking ids edges).rank v := by
  induction hr : (ranking ids edges).rank v using Nat.strongRecOn generalizing v with
  | ind r ih =>
      rcases (isSound distinct edges).attained v with zero | ⟨e, he, rfl, -, rank⟩
      · exact ⟨[], .nil, by rw [← hr, zero, List.length_nil]⟩
      · obtain ⟨path, leads, length⟩ := ih _ (by omega) e.source rfl
        refine ⟨path ++ [e], leads.append he, ?_⟩
        rw [List.length_append, length, List.length_singleton]
        omega

/-- The rank of a vertex is the length of the longest path to it. -/
theorem isGreatest_rank (v : String) :
    IsGreatest {n | ∃ path, IsPathTo (forwardEdges ids edges) v path ∧ path.length = n}
      ((ranking ids edges).rank v) := by
  refine ⟨exists_path distinct v, ?_⟩
  rintro n ⟨path, leads, rfl⟩
  exact length_le_rank distinct leads

/-- If no id is repeated, the ranks are those of the vertices, each given once. -/
theorem ranks_eq (edges : List Edge) :
    ranks ids edges = ids.map fun v => (v, (ranking ids edges).rank v) := by
  have once : (rankedVertices ids edges).Nodup := by
    refine distinct.map ?_
    intro v w same
    exact congrArg Prod.fst same
  exact eraseDups_of_nodup once

/-- All vertices are taken, each once, and ranked by the longest path of forward edges that ends
there. So forward edges lead to higher ranks, those vertices have rank zero that no forward edge
enters, and no rank below that of a vertex is left out. -/
theorem ranks_areLongest (edges : List Edge) :
    (ranking ids edges).taken.Perm ids ∧
      (ranks ids edges = ids.map fun v => (v, (ranking ids edges).rank v)) ∧
      (∀ v ∈ ids, IsGreatest
        {n | ∃ path, IsPathTo (forwardEdges ids edges) v path ∧ path.length = n}
        ((ranking ids edges).rank v)) ∧
      (∀ e ∈ forwardEdges ids edges,
        (ranking ids edges).rank e.source < (ranking ids edges).rank e.target) ∧
      (∀ v ∈ ids, (ranking ids edges).rank v = 0 ↔
        ∀ e ∈ forwardEdges ids edges, e.target ≠ v) ∧
      (∀ v ∈ ids, ∀ r ≤ (ranking ids edges).rank v,
        ∃ u ∈ ids, (ranking ids edges).rank u = r) := by
  refine ⟨taken_perm distinct edges, ranks_eq distinct edges, ?_, ?_, ?_, ?_⟩
  · intro v _
    exact isGreatest_rank distinct v
  · intro e he
    exact rank_lt_rank distinct he
  · intro v _
    exact rank_eq_zero_iff distinct
  · intro v hv r below
    exact exists_rank_eq hv below

end Ranking

/-- The ring, with two edges straight from its start to the vertex that it leads out to. -/
def bypass : List Edge := ring ++ [⟨"6", "a", "d", none, none⟩, ⟨"7", "a", "d", none, none⟩]

theorem backEdges_bypass : backEdges ["d", "a", "b", "c"] bypass = [2, 3] := by
  have seeds : ["d", "a", "b", "c"].eraseDups = ["d", "a", "b", "c"] :=
    eraseDups_of_nodup (by decide)
  have found : (["d", "a", "b", "c"].foldl (searchFrom (outgoing ["d", "a", "b", "c"] bypass))
      (["d", "a", "b", "c"], [])).2 = [3, 2] := by
    simp [searchFrom, search, outgoing, bypass, ring, Edge.isKnown, onPath, List.zipIdx]
  rw [backEdges, seeds, found]
  decide

theorem Ranking.ranks_areLongest_bypass :
    let ids := ["d", "a", "b", "c"]
    ids.Nodup ∧ ranks ids bypass = [("d", 3), ("a", 0), ("b", 1), ("c", 2)] ∧
      IsGreatest {n | ∃ path, IsPathTo (forwardEdges ids bypass) "d" path ∧ path.length = n} 3 := by
  intro ids
  have distinct : ids.Nodup := by decide
  obtain ⟨-, given, longest, -⟩ := ranks_areLongest distinct bypass
  have found : ranks ids bypass = [("d", 3), ("a", 0), ("b", 1), ("c", 2)] := by
    rw [given, ranking, forwardEdges, backEdges_bypass]
    simp [ids, run, arrive, targetsFrom, bypass, ring, Edge.isKnown, List.zipIdx]
  have listed : ("d", 3) ∈ ranks ids bypass := by
    rw [found]
    exact List.mem_cons_self
  rw [given] at listed
  obtain ⟨v, hv, same⟩ := List.mem_map.mp listed
  obtain ⟨rfl, rank⟩ := Prod.mk.inj same
  exact ⟨distinct, found, rank ▸ longest _ hv⟩

end SchemaGraph.Layout
