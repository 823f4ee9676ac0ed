import SchemaGraph.Layout.Rank
import SchemaGraph.Proofs.Partial

/-!
# What a search is done with

A search is done with a vertex when it leaves the path. Each edge out of such a vertex closes a
cycle or leads to a vertex that the search was done with before. So every edge that closes no
cycle leads to a vertex that is done earlier than its source, and those edges have no cycle.
-/

namespace SchemaGraph.Layout

/-- Vertices that a search is done with, the latest first. -/
def IsDone (out : String → List (Nat × String)) (back : List Nat) : List String → Prop
  | [] => True
  | v :: done => (∀ e ∈ out v, e.1 ∈ back ∨ e.2 ∈ done) ∧ IsDone out back done

/-- What is known of the edges that were looked at on a path: each of them closes a cycle, or leads
to a vertex that is done or to the one above it on the path. -/
def IsLookedAt (out : String → List (Nat × String)) (back : List Nat) (done : List String) :
    Option String → List Frame → Prop
  | _, [] => True
  | above, f :: path =>
    (∀ e ∈ out f.vertex, e ∈ f.pending ∨ e.1 ∈ back ∨ e.2 ∈ done ∨ above = some e.2) ∧
      IsLookedAt out back done (some f.vertex) path

variable {out : String → List (Nat × String)} {back back' : List Nat} {done done' : List String}

theorem IsDone.mono (h : IsDone out back done) (more : back ⊆ back') : IsDone out back' done := by
  induction done with
  | nil => trivial
  | cons v done ih => exact ⟨fun e he => (h.1 e he).imp_left (more ·), ih h.2⟩

theorem IsLookedAt.mono {path : List Frame} {above : Option String}
    (h : IsLookedAt out back done above path) (moreBack : back ⊆ back') (moreDone : done ⊆ done') :
    IsLookedAt out back' done' above path := by
  induction path generalizing above with
  | nil => trivial
  | cons f path ih =>
      refine ⟨fun e he => ?_, ih h.2⟩
      exact (h.1 e he).imp_right fun seen =>
        seen.imp (moreBack ·) fun known => known.imp_left (moreDone ·)

/-- When the vertex above a path is done, so are the edges that lead to it. -/
theorem IsLookedAt.pop {path : List Frame} {v : String}
    (h : IsLookedAt out back done (some v) path) : IsLookedAt out back (v :: done) none path := by
  cases path with
  | nil => trivial
  | cons f path =>
      refine ⟨fun e he => ?_, h.2.mono (List.Subset.refl _) (List.subset_cons_self _ _)⟩
      refine (h.1 e he).imp_right fun seen => seen.imp_right fun known => .inl ?_
      rcases known with earlier | above
      · exact List.mem_cons_of_mem _ earlier
      · rw [Option.some.inj above]
        exact List.mem_cons_self

/-- An edge that closes no cycle leads to a vertex that was done before its source. -/
theorem IsDone.idxOf_lt (h : IsDone out back done) {v : String} (hv : v ∈ done)
    {e : Nat × String} (he : e ∈ out v) (open' : e.1 ∉ back) :
    done.reverse.idxOf e.2 < done.reverse.idxOf v := by
  induction done with
  | nil => cases hv
  | cons u done ih =>
      rw [List.reverse_cons]
      by_cases earlier : v ∈ done
      · have before := ih h.2 earlier
        have target : e.2 ∈ done.reverse :=
          List.idxOf_lt_length_iff.mp (Nat.lt_of_lt_of_le before List.idxOf_le_length)
        rwa [List.idxOf_append_of_mem target,
          List.idxOf_append_of_mem (List.mem_reverse.mpr earlier)]
      · obtain rfl : v = u := (List.mem_cons.mp hv).resolve_right earlier
        have target : e.2 ∈ done.reverse :=
          List.mem_reverse.mpr ((h.1 e he).resolve_left open')
        have last : v ∉ done.reverse := fun mem => earlier (List.mem_reverse.mp mem)
        rw [List.idxOf_append_of_mem target, List.idxOf_append_of_notMem last]
        exact Nat.lt_of_lt_of_le (List.idxOf_lt_length_iff.mpr target) (Nat.le_add_right _ _)

/-- A search only takes vertices away from the unseen ones. -/
theorem search_unseen_sublist (unseen : List String) (path : List Frame) (back : List Nat) :
    (search out unseen path back).1.Sublist unseen := by
  fun_induction search out unseen path back with
  | case1 => exact List.Sublist.refl _
  | case2 => assumption
  | case3 => assumption
  | case4 unseen back v i w pending path onPath isUnseen ih =>
      exact ih.trans List.erase_sublist
  | case5 => assumption

section Search

variable {ids : List String} (known : ∀ v, ∀ e ∈ out v, e.2 ∈ ids)

include known

/-- Whatever a search is in the middle of, it comes to an end at which it is done with all vertices
that it has seen. -/
theorem exists_isDone_search {unseen : List String} {path : List Frame}
    (finished : IsDone out back done) (looked : IsLookedAt out back done none path)
    (covered : ∀ v ∈ ids, v ∈ unseen ∨ onPath path v ∨ v ∈ done) :
    ∃ done', IsDone out (search out unseen path back).2 done' ∧
      ∀ v ∈ ids, v ∈ (search out unseen path back).1 ∨ v ∈ done' := by
  fun_induction search out unseen path back generalizing done with
  | case1 unseen back =>
      exact ⟨done, finished, fun v hv => by simpa [onPath] using covered v hv⟩
  | case2 unseen back v path ih =>
      -- The vertex leaves the path, and all edges out of it have been looked at.
      have here : ∀ e ∈ out v, e.1 ∈ back ∨ e.2 ∈ done := by simpa using looked.1
      have finished : IsDone out back (v :: done) := ⟨here, finished⟩
      refine ih finished looked.2.pop fun u hu => ?_
      rcases covered u hu with isUnseen | isOnPath | isDone
      · exact .inl isUnseen
      · rcases Bool.or_eq_true_iff.mp isOnPath with same | below
        · rw [← beq_iff_eq.mp same]
          exact .inr (.inr List.mem_cons_self)
        · exact .inr (.inl below)
      · exact .inr (.inr (List.mem_cons_of_mem _ isDone))
  | case3 unseen back v i w pending path isOnPath ih =>
      -- The edge closes a cycle.
      have more : back ⊆ i :: back := List.subset_cons_self _ _
      refine ih (finished.mono more) ⟨fun e he => ?_, looked.2.mono more (List.Subset.refl _)⟩
        covered
      rcases looked.1 e he with isPending | seen
      · rcases List.mem_cons.mp isPending with rfl | isPending
        · exact .inr (.inl List.mem_cons_self)
        · exact .inl isPending
      · exact .inr (seen.imp_left (more ·))
  | case4 unseen back v i w pending path notOnPath isUnseen ih =>
      -- The edge leads on, and the path gets longer.
      refine ih finished ⟨fun e he => .inl he, fun e he => ?_, looked.2⟩ fun u hu => ?_
      · rcases looked.1 e he with isPending | seen | known | above
        · rcases List.mem_cons.mp isPending with rfl | isPending
          · exact .inr (.inr (.inr rfl))
          · exact .inl isPending
        · exact .inr (.inl seen)
        · exact .inr (.inr (.inl known))
        · cases above
      · by_cases same : u = w
        · exact .inr (.inl (by simp [onPath, same]))
        · rcases covered u hu with isUnseen | isOnPath | isDone
          · exact .inl ((List.mem_erase_of_ne same).mpr isUnseen)
          · exact .inr (.inl (Bool.or_eq_true_iff.mpr (.inr isOnPath)))
          · exact .inr (.inr isDone)
  | case5 unseen back v i w pending path notOnPath isSeen ih =>
      -- The edge leads to a vertex that is done.
      refine ih finished ⟨fun e he => ?_, looked.2⟩ covered
      rcases looked.1 e he with isPending | seen
      · rcases List.mem_cons.mp isPending with rfl | isPending
        · refine .inr (.inr (.inl ?_))
          rcases covered w (known v (i, w) he) with isUnseen | isOnPath | isDone
          · exact absurd isUnseen isSeen
          · exact absurd isOnPath notOnPath
          · exact isDone
        · exact .inl isPending
      · exact .inr seen

/-- The search from one root after another is done with every vertex that is no longer unseen. -/
theorem exists_isDone_searchFrom {s : List String × List Nat} (finished : IsDone out s.2 done)
    (covered : ∀ v ∈ ids, v ∈ s.1 ∨ v ∈ done) (root : String) :
    ∃ done', IsDone out (searchFrom out s root).2 done' ∧
      ∀ v ∈ ids, v ∈ (searchFrom out s root).1 ∨ v ∈ done' := by
  unfold searchFrom
  split
  · refine exists_isDone_search known finished ⟨fun e he => .inl he, trivial⟩ fun v hv => ?_
    by_cases same : v = root
    · exact .inr (.inl (by simp [onPath, same]))
    · exact (covered v hv).imp (List.mem_erase_of_ne same).mpr .inr
  · exact ⟨done, finished, covered⟩

theorem exists_isDone_foldl (roots : List String) {s : List String × List Nat}
    (finished : IsDone out s.2 done) (covered : ∀ v ∈ ids, v ∈ s.1 ∨ v ∈ done) :
    ∃ done', IsDone out (roots.foldl (searchFrom out) s).2 done' ∧
      ∀ v ∈ ids, v ∈ (roots.foldl (searchFrom out) s).1 ∨ v ∈ done' := by
  induction roots generalizing s done with
  | nil => exact ⟨done, finished, covered⟩
  | cons root roots ih =>
      obtain ⟨done', finished', covered'⟩ :=
        exists_isDone_searchFrom known finished covered root
      exact ih finished' covered'

end Search

theorem searchFrom_unseen_sublist (s : List String × List Nat) (root : String) :
    (searchFrom out s root).1.Sublist s.1 := by
  unfold searchFrom
  split
  · exact (search_unseen_sublist _ _ _).trans List.erase_sublist
  · exact List.Sublist.refl _

theorem foldl_unseen_sublist (roots : List String) (s : List String × List Nat) :
    (roots.foldl (searchFrom out) s).1.Sublist s.1 := by
  induction roots generalizing s with
  | nil => exact List.Sublist.refl _
  | cons root roots ih => exact (ih _).trans (searchFrom_unseen_sublist s root)

/-- No root of a search is unseen in the end. -/
theorem notMem_unseen_of_root {roots : List String} {s : List String × List Nat}
    (distinct : s.1.Nodup) {root : String} (h : root ∈ roots) :
    root ∉ (roots.foldl (searchFrom out) s).1 := by
  induction roots generalizing s with
  | nil => cases h
  | cons r roots ih =>
      rw [List.foldl_cons]
      have fewer : (searchFrom out s r).1.Sublist s.1 := searchFrom_unseen_sublist s r
      rcases List.mem_cons.mp h with rfl | later
      · intro left
        have left := (foldl_unseen_sublist roots _).subset left
        unfold searchFrom at left
        split at left
        · exact distinct.not_mem_erase ((search_unseen_sublist _ _ _).subset left)
        · contradiction
      · exact ih (distinct.sublist fewer) later

variable {ids : List String} {edges : List Edge}

theorem known_of_mem_outgoing {v : String} {e : Nat × String} (h : e ∈ outgoing ids edges v) :
    e.2 ∈ ids := by
  obtain ⟨⟨f, i⟩, -, kept⟩ := List.mem_filterMap.mp h
  obtain ⟨known, same⟩ := Option.ite_none_right_eq_some.mp kept
  cases same
  simp only [Bool.and_eq_true, Edge.isKnown, List.contains_iff_mem] at known
  exact known.2.2

theorem known_of_mem_forwardEdges {e : Edge}
    (h : e ∈ forwardEdges ids edges) : e.source ∈ ids ∧ e.target ∈ ids := by
  obtain ⟨⟨f, i⟩, -, kept⟩ := List.mem_filterMap.mp h
  obtain ⟨known, same⟩ := Option.ite_none_right_eq_some.mp kept
  cases same
  simp only [Bool.and_eq_true, Edge.isKnown, List.contains_iff_mem] at known
  exact known.2

/-- A forward edge is one of those out of its source, and closes no cycle. -/
theorem exists_outgoing_of_mem_forwardEdges {e : Edge} (h : e ∈ forwardEdges ids edges) :
    ∃ i, (i, e.target) ∈ outgoing ids edges e.source ∧
      i ∉ (ids.foldl (searchFrom (outgoing ids edges)) (ids.eraseDups, [])).2 := by
  obtain ⟨⟨f, i⟩, at', kept⟩ := List.mem_filterMap.mp h
  obtain ⟨kept, same⟩ := Option.ite_none_right_eq_some.mp kept
  cases same
  obtain ⟨notBack, known⟩ := Bool.and_eq_true_iff.mp kept
  refine ⟨i, List.mem_filterMap.mpr ⟨(e, i), at', by simp [known]⟩, fun found => ?_⟩
  have inRange : i < edges.length := by
    have place := List.mem_zipIdx at'
    omega
  have back : i ∈ backEdges ids edges := List.mem_filter.mpr
    ⟨List.mem_range.mpr inRange, List.contains_iff_mem.mpr found⟩
  simp [back] at notBack

/-- Forward edges lead upwards, so there is no cycle among them. -/
theorem exists_level (ids : List String) (edges : List Edge) :
    ∃ level : String → Nat, ∀ e ∈ forwardEdges ids edges, level e.source < level e.target := by
  let start : List String × List Nat := (ids.eraseDups, [])
  have finished : IsDone (outgoing ids edges) start.2 [] := trivial
  obtain ⟨done, finished, covered⟩ := exists_isDone_foldl
    (fun v e he => known_of_mem_outgoing he) ids finished
    fun v hv => .inl (List.mem_eraseDups.mpr hv)
  refine ⟨fun v => done.length - done.reverse.idxOf v, fun e he => ?_⟩
  obtain ⟨i, out, open'⟩ := exists_outgoing_of_mem_forwardEdges he
  have source : e.source ∈ ids := (known_of_mem_forwardEdges he).1
  have seen : e.source ∉ (ids.foldl (searchFrom (outgoing ids edges)) start).1 :=
    notMem_unseen_of_root (nodup_eraseDups ids) source
  have earlier := finished.idxOf_lt ((covered _ source).resolve_left seen) out open'
  have inside := List.idxOf_le_length (a := e.source) (l := done.reverse)
  rw [List.length_reverse] at inside
  dsimp only at earlier ⊢
  omega

end SchemaGraph.Layout
