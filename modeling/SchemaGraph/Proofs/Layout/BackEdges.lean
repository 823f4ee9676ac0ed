import Mathlib.Data.List.Permutation
import Mathlib.Logic.Relation
import SchemaGraph.Proofs.Layout.Search

/-!
# Back edges close cycles

A search looks at the number of each edge once. The numbers that are still open are those found to
close a cycle and those that it has ahead. Every other edge that it looked at is kept for good, so
along the path each vertex leads by kept edges to those above it, and an edge back into the path
closes a cycle of which all other edges are kept.

The main result says that the edges kept have no cycle, and that every edge left out closes one.
-/

namespace SchemaGraph.Layout

open Relation

/-- An edge out of `v` leads to `w`, and its number is not among those left out. -/
def Leads (out : String → List (Nat × String)) (without : List Nat) (v w : String) : Prop :=
  ∃ i, (i, w) ∈ out v ∧ i ∉ without

theorem Leads.mono {out : String → List (Nat × String)} {without without' : List Nat}
    {v w : String} (h : Leads out without v w) (fewer : without' ⊆ without) :
    Leads out without' v w := by
  obtain ⟨i, edge, kept⟩ := h
  exact ⟨i, edge, fun left => kept (fewer left)⟩

/-- Each vertex of a path leads to those above it, and each edge that was found to close a cycle
leads to a vertex that leads back to its source. -/
structure IsJustified (out : String → List (Nat × String)) (without : List Nat)
    (path : List Frame) (back : List Nat) : Prop where
  pending : ∀ f ∈ path, f.pending ⊆ out f.vertex
  path : path.Pairwise fun above below =>
    ReflTransGen (Leads out without) below.vertex above.vertex
  back : ∀ i ∈ back, ∃ v w, (i, w) ∈ out v ∧ ReflTransGen (Leads out without) w v

namespace IsJustified

variable {out : String → List (Nat × String)} {without without' back : List Nat}
  {path : List Frame} {f : Frame} {v w : String} {i : Nat} {pending : List (Nat × String)}

theorem mono (h : IsJustified out without path back) (fewer : without' ⊆ without) :
    IsJustified out without' path back := by
  have more {v w : String} (reach : ReflTransGen (Leads out without) v w) :
      ReflTransGen (Leads out without') v w :=
    ReflTransGen.mono (fun _ _ leads => Leads.mono leads fewer) _ _ reach
  refine ⟨h.pending, h.path.imp more, fun i hi => ?_⟩
  obtain ⟨v, w, edge, reach⟩ := h.back i hi
  exact ⟨v, w, edge, more reach⟩

theorem pop (h : IsJustified out without (f :: path) back) : IsJustified out without path back :=
  ⟨fun g hg => h.pending g (List.mem_cons_of_mem _ hg), h.path.tail, h.back⟩

/-- From everywhere on the path the top is reached. -/
theorem reach_top (h : IsJustified out without (f :: path) back) (on : onPath (f :: path) w) :
    ReflTransGen (Leads out without) w f.vertex := by
  obtain ⟨g, hg, same⟩ := List.any_eq_true.mp on
  rw [← beq_iff_eq.mp same]
  rcases List.mem_cons.mp hg with rfl | below
  · exact .refl
  · exact List.rel_of_pairwise_cons h.path below

/-- One edge at the top was looked at. -/
theorem pass (h : IsJustified out without (⟨v, (i, w) :: pending⟩ :: path) back) :
    IsJustified out without (⟨v, pending⟩ :: path) back := by
  refine ⟨List.forall_mem_cons.mpr ⟨?_, fun f hf => h.pending f (List.mem_cons_of_mem _ hf)⟩,
    List.pairwise_cons.mpr (List.pairwise_cons.mp h.path), h.back⟩
  exact List.subset_of_cons_subset (h.pending _ List.mem_cons_self)

/-- The edge leads back into the path. -/
theorem close (h : IsJustified out without (⟨v, pending⟩ :: path) back) (edge : (i, w) ∈ out v)
    (on : onPath (⟨v, pending⟩ :: path) w) :
    IsJustified out without (⟨v, pending⟩ :: path) (i :: back) :=
  ⟨h.pending, h.path, List.forall_mem_cons.mpr ⟨⟨v, w, edge, h.reach_top on⟩, h.back⟩⟩

/-- A vertex joins the path that the top leads to. -/
theorem push (h : IsJustified out without (f :: path) back) (leads : Leads out without f.vertex w) :
    IsJustified out without (⟨w, out w⟩ :: f :: path) back := by
  refine ⟨List.forall_mem_cons.mpr ⟨List.Subset.refl _, h.pending⟩,
    List.pairwise_cons.mpr ⟨fun g hg => ?_, h.path⟩, h.back⟩
  refine .tail (h.reach_top ?_) leads
  exact List.any_eq_true.mpr ⟨g, hg, beq_self_eq_true _⟩

end IsJustified

/-- The numbers of the edges that a search has still to look at. -/
def ahead (out : String → List (Nat × String)) (unseen : List String) (path : List Frame) :
    List Nat :=
  path.flatMap (fun f => f.pending.map Prod.fst) ++ unseen.flatMap fun v => (out v).map Prod.fst

/-- What is known of a search while it runs: no number comes twice, and the edges that are neither
found nor ahead justify those that are found. -/
structure IsUnderway (out : String → List (Nat × String)) (unseen : List String)
    (path : List Frame) (back : List Nat) : Prop where
  once : (back ++ ahead out unseen path).Nodup
  justified : IsJustified out (back ++ ahead out unseen path) path back

section Search

variable {out : String → List (Nat × String)} {unseen : List String} {path : List Frame}
  {back : List Nat} {v w : String} {i : Nat} {pending : List (Nat × String)}

/-- When a vertex is entered, the edges out of it come to the path. -/
theorem ahead_enter (isUnseen : w ∈ unseen) :
    (ahead out (unseen.erase w) (⟨w, out w⟩ :: path)).Perm (ahead out unseen path) := by
  have entered := (List.perm_cons_erase isUnseen).flatMap_right fun v => (out v).map Prod.fst
  rw [List.flatMap_cons] at entered
  unfold ahead
  rw [List.flatMap_cons, List.append_assoc]
  refine List.Perm.trans ?_ (entered.symm.append_left _)
  rw [← List.append_assoc, ← List.append_assoc]
  exact List.perm_append_comm.append_right _

namespace IsUnderway

theorem start (once : (ahead out unseen []).Nodup) : IsUnderway out unseen [] [] :=
  ⟨once, fun _ h => (by cases h), .nil, fun _ h => (by cases h)⟩

theorem pop (h : IsUnderway out unseen (⟨v, []⟩ :: path) back) : IsUnderway out unseen path back :=
  ⟨h.once, h.justified.pop⟩

/-- An edge that was looked at is not open any more. -/
theorem pass (h : IsUnderway out unseen (⟨v, (i, w) :: pending⟩ :: path) back) :
    IsUnderway out unseen (⟨v, pending⟩ :: path) back ∧ (i, w) ∈ out v ∧
      i ∉ back ++ ahead out unseen (⟨v, pending⟩ :: path) := by
  have shorter : ahead out unseen (⟨v, (i, w) :: pending⟩ :: path) =
      i :: ahead out unseen (⟨v, pending⟩ :: path) := rfl
  have once := h.once
  have justified := h.justified
  rw [shorter] at once justified
  obtain ⟨closed, once⟩ := List.nodup_cons.mp (List.nodup_middle.mp once)
  refine ⟨⟨once, ?_⟩, justified.pending _ List.mem_cons_self List.mem_cons_self, closed⟩
  exact justified.pass.mono ((List.sublist_cons_self i _).append_left back).subset

/-- The edge leads back into the path, so its number is found. -/
theorem close (h : IsUnderway out unseen (⟨v, (i, w) :: pending⟩ :: path) back)
    (on : onPath (⟨v, pending⟩ :: path) w) :
    IsUnderway out unseen (⟨v, pending⟩ :: path) (i :: back) := by
  obtain ⟨passed, edge, -⟩ := h.pass
  refine ⟨(List.perm_middle.nodup_iff).mp h.once, ?_⟩
  exact h.justified.pass.close edge on |>.mono List.perm_middle.symm.subset

/-- A vertex is entered from an edge that was looked at, or as a root. -/
theorem enter (h : IsUnderway out unseen path back) (isUnseen : w ∈ unseen)
    (leads : ∀ f ∈ path.head?, Leads out (back ++ ahead out unseen path) f.vertex w) :
    IsUnderway out (unseen.erase w) (⟨w, out w⟩ :: path) back := by
  have same : (back ++ ahead out (unseen.erase w) (⟨w, out w⟩ :: path)).Perm
      (back ++ ahead out unseen path) := (ahead_enter isUnseen).append_left back
  refine ⟨same.nodup_iff.mpr h.once, IsJustified.mono ?_ same.subset⟩
  cases path with
  | nil => exact ⟨by simp, List.pairwise_singleton _ _, h.justified.back⟩
  | cons f path => exact h.justified.push (leads f rfl)

/-- A search leads from what is known of it to what is known of it. -/
theorem search (h : IsUnderway out unseen path back) :
    IsUnderway out (search out unseen path back).1 [] (search out unseen path back).2 := by
  fun_induction Layout.search out unseen path back with
  | case1 unseen back => exact h
  | case2 unseen back v path ih => exact ih h.pop
  | case3 unseen back v i w pending path on ih => exact ih (h.close on)
  | case4 unseen back v i w pending path notOn isUnseen ih =>
      obtain ⟨passed, edge, closed⟩ := h.pass
      refine ih (passed.enter isUnseen fun f hf => ?_)
      rw [← Option.some.inj hf]
      exact ⟨i, edge, closed⟩
  | case5 unseen back v i w pending path notOn isSeen ih => exact ih h.pass.1

theorem searchFrom {s : List String × List Nat} (h : IsUnderway out s.1 [] s.2) (root : String) :
    IsUnderway out (searchFrom out s root).1 [] (searchFrom out s root).2 := by
  unfold Layout.searchFrom
  split
  · rename_i isUnseen
    exact (h.enter isUnseen (by simp)).search
  · exact h

theorem foldl (roots : List String) {s : List String × List Nat} (h : IsUnderway out s.1 [] s.2) :
    IsUnderway out (roots.foldl (Layout.searchFrom out) s).1 []
      (roots.foldl (Layout.searchFrom out) s).2 := by
  induction roots generalizing s with
  | nil => exact h
  | cons root roots ih => exact ih (h.searchFrom root)

end IsUnderway

end Search

section Graph

variable {ids : List String} {edges : List Edge}

theorem mem_outgoing_iff {v w : String} {i : Nat} :
    (i, w) ∈ outgoing ids edges v ↔
      ∃ e, edges[i]? = some e ∧ e.isKnown ids = true ∧ e.source = v ∧ e.target = w := by
  unfold outgoing
  rw [List.mem_filterMap]
  constructor
  · rintro ⟨⟨e, j⟩, at', kept⟩
    obtain ⟨known, same⟩ := Option.ite_none_right_eq_some.mp kept
    cases same
    obtain ⟨source, known⟩ := Bool.and_eq_true_iff.mp known
    exact ⟨e, List.mem_zipIdx_iff_getElem?.mp at', known, beq_iff_eq.mp source, rfl⟩
  · rintro ⟨e, at', known, rfl, rfl⟩
    exact ⟨(e, i), List.mem_zipIdx_iff_getElem?.mpr at', by simp [known]⟩

/-- Different edges have different numbers. -/
theorem nodup_ahead {unseen : List String} (distinct : unseen.Nodup) :
    (ahead (outgoing ids edges) unseen []).Nodup := by
  have numbered : edges.zipIdx.Pairwise fun a b => a.2 ≠ b.2 := by
    rw [← List.pairwise_map, List.zipIdx_map_snd]
    exact List.nodup_range'
  change (unseen.flatMap _).Nodup
  refine List.nodup_flatMap.mpr ⟨fun v _ => ?_, distinct.imp fun {v w} apart => ?_⟩
  · refine List.pairwise_map.mpr (numbered.filterMap _ ?_)
    rintro ⟨e, i⟩ ⟨e', i'⟩ apart a ha b hb
    cases (Option.ite_none_right_eq_some.mp ha).2
    cases (Option.ite_none_right_eq_some.mp hb).2
    exact apart
  · intro i fromV fromW
    obtain ⟨⟨i, v'⟩, hv, rfl⟩ := List.mem_map.mp fromV
    obtain ⟨⟨j, w'⟩, hw, same⟩ := List.mem_map.mp fromW
    obtain rfl : j = i := same
    obtain ⟨e, he, -, rfl, -⟩ := mem_outgoing_iff.mp hv
    obtain ⟨e', he', -, rfl, -⟩ := mem_outgoing_iff.mp hw
    rw [he] at he'
    exact apart (congrArg Edge.source (Option.some.inj he'))

/-- An edge between vertices leads from `v` to `w`, and its number is not among those left out. -/
def Connects (ids : List String) (edges : List Edge) (without : List Nat) (v w : String) : Prop :=
  ∃ i e, edges[i]? = some e ∧ e.isKnown ids = true ∧ i ∉ without ∧ e.source = v ∧ e.target = w

theorem leads_outgoing_iff {without : List Nat} {v w : String} :
    Leads (outgoing ids edges) without v w ↔ Connects ids edges without v w := by
  simp only [Leads, Connects, mem_outgoing_iff]
  constructor
  · rintro ⟨i, ⟨e, he, known, ends⟩, kept⟩
    exact ⟨i, e, he, known, kept, ends⟩
  · rintro ⟨i, e, he, known, kept, ends⟩
    exact ⟨i, ⟨e, he, known, ends⟩, kept⟩

/-- The edges that are kept are the forward edges. -/
theorem exists_forward_of_connects {v w : String}
    (h : Connects ids edges (backEdges ids edges) v w) :
    ∃ e ∈ forwardEdges ids edges, e.source = v ∧ e.target = w := by
  obtain ⟨i, e, he, known, kept, ends⟩ := h
  refine ⟨e, List.mem_filterMap.mpr ⟨(e, i), List.mem_zipIdx_iff_getElem?.mpr he, ?_⟩, ends⟩
  simp [kept, known]

theorem not_transGen_connects (v : String) :
    ¬ TransGen (Connects ids edges (backEdges ids edges)) v v := by
  obtain ⟨level, upwards⟩ := exists_level ids edges
  have step {v w : String} (h : Connects ids edges (backEdges ids edges) v w) :
      level v < level w := by
    obtain ⟨e, he, rfl, rfl⟩ := exists_forward_of_connects h
    exact upwards e he
  have rise {v w : String} (h : TransGen (Connects ids edges (backEdges ids edges)) v w) :
      level v < level w := by
    induction h with
    | single h => exact step h
    | tail _ h ih => exact Nat.lt_trans ih (step h)
  exact fun cycle => Nat.lt_irrefl _ (rise cycle)

/-- An edge that is left out is one between vertices, and its target leads to its source. -/
theorem exists_of_mem_backEdges {i : Nat} (h : i ∈ backEdges ids edges) :
    ∃ e, edges[i]? = some e ∧ e.isKnown ids = true ∧
      ReflTransGen (Connects ids edges (backEdges ids edges)) e.target e.source := by
  have first : IsUnderway (outgoing ids edges) ids.eraseDups [] [] :=
    .start (nodup_ahead (nodup_eraseDups ids))
  have last := IsUnderway.foldl ids (s := (ids.eraseDups, [])) first
  obtain ⟨inRange, found⟩ := List.mem_filter.mp h
  obtain ⟨v, w, edge, reach⟩ := last.justified.back i (List.contains_iff_mem.mp found)
  obtain ⟨e, he, known, rfl, rfl⟩ := mem_outgoing_iff.mp edge
  refine ⟨e, he, known, ReflTransGen.mono (fun a b leads => ?_) _ _ reach⟩
  refine leads_outgoing_iff.mp (leads.mono fun j hj => List.mem_append_left _ ?_)
  exact List.contains_iff_mem.mp (List.mem_filter.mp hj).2

/-- The edges that are kept have no cycle. Every edge that is left out is one between vertices, and
it closes a cycle with edges that are kept. So no edge is left out exactly if there is no cycle. -/
theorem backEdges_breakCycles (ids : List String) (edges : List Edge) :
    (∀ v, ¬ TransGen (Connects ids edges (backEdges ids edges)) v v) ∧
      (∀ i ∈ backEdges ids edges, ∃ e, edges[i]? = some e ∧ e.isKnown ids = true ∧
        ReflTransGen (Connects ids edges (backEdges ids edges)) e.target e.source) ∧
      (backEdges ids edges = [] ↔ ∀ v, ¬ TransGen (Connects ids edges []) v v) := by
  refine ⟨not_transGen_connects, fun i hi => exists_of_mem_backEdges hi, ?_, ?_⟩
  · intro none
    rw [← none]
    exact not_transGen_connects
  · intro acyclic
    refine List.eq_nil_iff_forall_not_mem.mpr fun i hi => ?_
    obtain ⟨e, he, known, reach⟩ := exists_of_mem_backEdges hi
    have all : ReflTransGen (Connects ids edges []) e.target e.source := by
      refine ReflTransGen.mono (fun a b connects => ?_) _ _ reach
      rw [← leads_outgoing_iff] at connects ⊢
      exact connects.mono (List.nil_subset _)
    exact acyclic e.source (.head' ⟨i, e, he, known, by simp, rfl, rfl⟩ all)

/-- Three edges in a circle, with a loop and an edge that leads out. -/
def ring : List Edge :=
  [⟨"1", "a", "b", none, none⟩, ⟨"2", "b", "c", none, none⟩, ⟨"3", "c", "a", none, none⟩,
    ⟨"4", "b", "b", none, none⟩, ⟨"5", "c", "d", none, none⟩]

theorem backEdges_breakCycles_ring :
    let ids := ["a", "b", "c", "a"]
    backEdges ids ring = [2, 3] ∧ (∀ v, ¬ TransGen (Connects ids ring [2, 3]) v v) ∧
      ReflTransGen (Connects ids ring [2, 3]) "a" "c" := by
  intro ids
  have found : backEdges ids ring = [2, 3] := by cbv
  obtain ⟨acyclic, closes, -⟩ := backEdges_breakCycles ids ring
  rw [found] at acyclic closes
  obtain ⟨e, he, -, reach⟩ := closes 2 List.mem_cons_self
  cases he
  exact ⟨found, acyclic, reach⟩

end Graph

end SchemaGraph.Layout
