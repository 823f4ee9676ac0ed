import Mathlib.Data.List.Dedup
import SchemaGraph.Layout.Rank
import SchemaGraph.Proofs.Layout.Search

/-!
# What ranking keeps

At any time the edges into waiting vertices are those whose sources have not been taken. A vertex
that was taken, or is in the queue, is the target of none of them, so its rank is final. A rank is
either zero or one more than that of a vertex that was taken, so with a rank all smaller ones are in
use.

This needs distinct ids, as otherwise a vertex is taken twice. With repeated ids a rank can be too
low, but still no smaller one is left out, because the edges that are followed have no cycle.
-/

namespace SchemaGraph.Layout

variable {ids : List String} {forward : List Edge} {v w : String}

theorem targetsFrom_eq :
    targetsFrom forward v = (forward.filter (·.source == v)).map (·.target) := by
  induction forward with
  | nil => rfl
  | cons e forward ih =>
      rw [targetsFrom] at ih ⊢
      rw [List.filterMap_cons, List.filter_cons, ih]
      split <;> simp_all

theorem mem_targetsFrom_iff :
    w ∈ targetsFrom forward v ↔ ∃ e ∈ forward, e.source = v ∧ e.target = w := by
  simp [targetsFrom_eq, and_assoc]

/-- No forward edge leads from a vertex to itself. -/
theorem notMem_targetsFrom (edges : List Edge) (v : String) :
    v ∉ targetsFrom (forwardEdges ids edges) v := by
  intro loops
  obtain ⟨level, upwards⟩ := exists_level ids edges
  obtain ⟨e, he, source, target⟩ := mem_targetsFrom_iff.mp loops
  have rises := upwards e he
  rw [source, target] at rises
  exact Nat.lt_irrefl _ rises

theorem targetsFrom_subset (edges : List Edge) (v : String) :
    targetsFrom (forwardEdges ids edges) v ⊆ ids := by
  intro w hw
  obtain ⟨e, he, -, rfl⟩ := mem_targetsFrom_iff.mp hw
  exact (known_of_mem_forwardEdges he).2

namespace Ranking

variable {s : Ranking} {r : Nat} {ws rest : List String}

theorem taken_foldl_arrive : (ws.foldl (arrive r) s).taken = s.taken := by
  induction ws generalizing s with
  | nil => rfl
  | cons w ws ih =>
      rw [List.foldl_cons, ih]
      rfl

theorem rank_foldl_arrive : (ws.foldl (arrive r) s).rank v =
    if v ∈ ws then max (s.rank v) r else s.rank v := by
  induction ws generalizing s with
  | nil => rfl
  | cons w ws ih =>
      rw [List.foldl_cons, ih]
      by_cases here : v = w
      · subst here
        simp only [arrive, List.mem_cons, true_or, if_true, beq_self_eq_true]
        split <;> omega
      · simp [arrive, here]

/-- Following edges uses up their part of the waiting targets. -/
theorem waiting_foldl_arrive (h : s.waiting.Perm (ws ++ rest)) :
    (ws.foldl (arrive r) s).waiting.Perm rest := by
  induction ws generalizing s with
  | nil => exact h
  | cons w ws ih =>
      refine ih (s := s.arrive r w) ?_
      have followed := h.erase w
      rwa [List.cons_append, List.erase_cons_head] at followed

/-- A target joins the queue once no edges into it are left. -/
theorem queue_foldl_arrive (h : s.waiting.Perm (ws ++ rest)) :
    (ws.foldl (arrive r) s).queue = s.queue ++ ws.dedup.filter fun w => w ∉ rest := by
  induction ws generalizing s with
  | nil => simp
  | cons w ws ih =>
      have followed : (s.waiting.erase w).Perm (ws ++ rest) := by
        have followed := h.erase w
        rwa [List.cons_append, List.erase_cons_head] at followed
      have waited : w ∈ s.waiting := h.mem_iff.mpr (by simp)
      have left : w ∈ s.waiting.erase w ↔ w ∈ ws ∨ w ∈ rest := by
        rw [followed.mem_iff, List.mem_append]
      rw [List.foldl_cons, ih (s := s.arrive r w) followed, arrive]
      by_cases again : w ∈ ws
      · simp [left, again, List.dedup_cons_of_mem again]
      · by_cases later : w ∈ rest
        · simp [left, later, List.dedup_cons_of_notMem again]
        · simp [waited, left, again, later, List.dedup_cons_of_notMem again]

/-- The edges that are still to be followed when some vertices have been taken. -/
def remaining (forward : List Edge) (taken : List String) : List String :=
  (forward.filter fun e => e.source ∉ taken).map (·.target)

/-- Without a vertex, there remain the edges out of it and the edges that will remain after it. -/
theorem remaining_perm {taken : List String} (fresh : v ∉ taken) :
    (remaining forward taken).Perm
      (targetsFrom forward v ++ remaining forward (v :: taken)) := by
  have out : (forward.filter fun e => e.source ∉ taken).filter (·.source == v) =
      forward.filter (·.source == v) := by
    rw [List.filter_filter]
    refine List.filter_congr fun e _ => ?_
    by_cases here : e.source = v <;> simp [here, fresh]
  have others : (forward.filter fun e => e.source ∉ taken).filter (!·.source == v) =
      forward.filter fun e => e.source ∉ v :: taken := by
    rw [List.filter_filter]
    refine List.filter_congr fun e _ => ?_
    by_cases here : e.source = v <;> simp [here]
  have parted := List.filter_append_perm (·.source == v) (forward.filter fun e => e.source ∉ taken)
  rw [out, others] at parted
  rw [targetsFrom_eq, remaining, remaining, ← List.map_append]
  exact parted.symm.map _

/-- What holds of a ranking whenever a vertex is to be taken. -/
structure IsSound (ids : List String) (forward : List Edge) (s : Ranking) : Prop where
  waiting : s.waiting.Perm (remaining forward s.taken)
  distinct : (s.taken ++ s.queue).Nodup
  reached : ∀ v, v ∈ s.taken ++ s.queue ↔ v ∈ ids ∧ v ∉ s.waiting
  attained : ∀ w, s.rank w = 0 ∨
    ∃ e ∈ forward, e.target = w ∧ e.source ∈ s.taken ∧ s.rank w = s.rank e.source + 1
  above : ∀ e ∈ forward, e.source ∈ s.taken → s.rank e.source < s.rank e.target

/-- The ranking when a vertex has been taken and the edges out of it have been followed. -/
def next (forward : List Edge) (s : Ranking) (v : String) (queue : List String) : Ranking :=
  (targetsFrom forward v).foldl (arrive (s.rank v + 1)) { s with queue, taken := v :: s.taken }

variable {queue : List String}

theorem next_taken : (s.next forward v queue).taken = v :: s.taken := taken_foldl_arrive

theorem next_rank : (s.next forward v queue).rank w =
    if w ∈ targetsFrom forward v then max (s.rank w) (s.rank v + 1) else s.rank w :=
  rank_foldl_arrive

namespace IsSound

section Next

variable (h : s.IsSound ids forward) (hq : s.queue = v :: queue)

include h hq

theorem waiting_perm :
    s.waiting.Perm (targetsFrom forward v ++ remaining forward (v :: s.taken)) := by
  have distinct := h.distinct
  rw [hq, List.nodup_append] at distinct
  have fresh : v ∉ s.taken := fun taken => distinct.2.2 v taken v List.mem_cons_self rfl
  exact h.waiting.trans (remaining_perm fresh)

theorem next_waiting :
    (s.next forward v queue).waiting.Perm (remaining forward (v :: s.taken)) :=
  waiting_foldl_arrive (s := { s with queue, taken := v :: s.taken }) (h.waiting_perm hq)

theorem next_queue : (s.next forward v queue).queue = queue ++
    (targetsFrom forward v).dedup.filter fun w => w ∉ remaining forward (v :: s.taken) :=
  queue_foldl_arrive (s := { s with queue, taken := v :: s.taken }) (h.waiting_perm hq)

theorem mem_waiting (hw : w ∈ targetsFrom forward v) : w ∈ s.waiting :=
  (h.waiting_perm hq).mem_iff.mpr (List.mem_append_left _ hw)

/-- No edge from the vertex leads to one that was taken, or is in the queue, as itself. -/
theorem not_target (hw : w ∈ s.taken ++ s.queue) : w ∉ targetsFrom forward v :=
  fun target => ((h.reached w).mp hw).2 (h.mem_waiting hq target)

/-- So the ranks of the vertices that were taken are final. -/
theorem next_rank_of_taken (hw : w ∈ v :: s.taken) :
    (s.next forward v queue).rank w = s.rank w := by
  rw [next_rank, if_neg]
  refine h.not_target hq ?_
  rw [hq]
  exact List.perm_middle.mem_iff.mpr (List.mem_append_left queue hw)

theorem next_distinct :
    ((s.next forward v queue).taken ++ (s.next forward v queue).queue).Nodup := by
  have distinct := h.distinct
  rw [hq] at distinct
  rw [next_taken, h.next_queue hq, ← List.append_assoc, List.nodup_append]
  refine ⟨List.perm_middle.nodup_iff.mp distinct, (List.nodup_dedup _).filter _, ?_⟩
  rintro u hu w hw rfl
  obtain ⟨target, -⟩ := List.mem_filter.mp hw
  refine h.not_target hq ?_ (List.mem_dedup.mp target)
  rw [hq]
  exact List.perm_middle.mem_iff.mpr hu

theorem next_reached (known : ∀ e ∈ forward, e.target ∈ ids) (u : String) :
    u ∈ (s.next forward v queue).taken ++ (s.next forward v queue).queue ↔
      u ∈ ids ∧ u ∉ (s.next forward v queue).waiting := by
  have before := h.reached u
  rw [hq, List.perm_middle.mem_iff, (h.waiting_perm hq).mem_iff, List.mem_append] at before
  rw [next_taken, h.next_queue hq, (h.next_waiting hq).mem_iff, ← List.append_assoc,
    List.mem_append, List.cons_append, before, List.mem_filter, List.mem_dedup,
    decide_eq_true_eq]
  have isKnown : u ∈ targetsFrom forward v → u ∈ ids := by
    intro target
    obtain ⟨e, he, -, rfl⟩ := mem_targetsFrom_iff.mp target
    exact known e he
  tauto

theorem next_attained (w : String) : (s.next forward v queue).rank w = 0 ∨
    ∃ e ∈ forward, e.target = w ∧ e.source ∈ (s.next forward v queue).taken ∧
      (s.next forward v queue).rank w = (s.next forward v queue).rank e.source + 1 := by
  rw [next_taken]
  -- Either the edge that decided the rank before still does, or one from the vertex does now.
  by_cases raised : w ∈ targetsFrom forward v ∧ s.rank w ≤ s.rank v + 1
  · obtain ⟨e, he, source, target⟩ := mem_targetsFrom_iff.mp raised.1
    refine .inr ⟨e, he, target, by simp [source], ?_⟩
    rw [source, h.next_rank_of_taken hq List.mem_cons_self, next_rank, if_pos raised.1,
      Nat.max_eq_right raised.2]
  · have same : (s.next forward v queue).rank w = s.rank w := by
      rw [next_rank]
      split
      · rename_i target
        exact Nat.max_eq_left (by have := not_and.mp raised target; omega)
      · rfl
    rw [same]
    refine (h.attained w).imp id ?_
    rintro ⟨e, he, target, taken, rank⟩
    refine ⟨e, he, target, List.mem_cons_of_mem _ taken, ?_⟩
    rw [h.next_rank_of_taken hq (List.mem_cons_of_mem _ taken), rank]

theorem next_above (e : Edge) (he : e ∈ forward)
    (taken : e.source ∈ (s.next forward v queue).taken) :
    (s.next forward v queue).rank e.source < (s.next forward v queue).rank e.target := by
  rw [next_taken] at taken
  rw [h.next_rank_of_taken hq taken, next_rank]
  rcases List.mem_cons.mp taken with source | taken
  · have target : e.target ∈ targetsFrom forward v := mem_targetsFrom_iff.mpr ⟨e, he, source, rfl⟩
    rw [if_pos target, source]
    omega
  · have before := h.above e he taken
    split <;> omega

/-- Taking a vertex keeps the ranking sound. -/
protected theorem next (known : ∀ e ∈ forward, e.target ∈ ids) :
    (s.next forward v queue).IsSound ids forward := by
  refine ⟨?_, h.next_distinct hq, h.next_reached hq known, h.next_attained hq, h.next_above hq⟩
  rw [next_taken]
  exact h.next_waiting hq

end Next

/-- And so does taking vertices until the queue is empty. -/
theorem run (h : s.IsSound ids forward) (known : ∀ e ∈ forward, e.target ∈ ids) :
    (Ranking.run (targetsFrom forward) s).IsSound ids forward := by
  fun_induction Ranking.run (targetsFrom forward) s with
  | case1 s hq => exact h
  | case2 s v queue hq ih => exact ih (h.next hq known)

theorem start (distinct : ids.Nodup) : IsSound ids forward
    { rank := fun _ => 0
      waiting := forward.map (·.target)
      queue := ids.filter fun v => !(forward.map (·.target)).contains v
      taken := [] } := by
  refine ⟨?_, distinct.filter _, ?_, fun _ => .inl rfl, fun _ _ taken => by cases taken⟩
  · simp [remaining]
  · intro v
    simp [List.mem_filter]

end IsSound

theorem isSound (distinct : ids.Nodup) (edges : List Edge) :
    (ranking ids edges).IsSound ids (forwardEdges ids edges) :=
  (IsSound.start distinct).run fun _ he => (known_of_mem_forwardEdges he).2

/-- A rank other than zero comes from an edge. Its source may have been raised since then, if some
vertex was taken twice. -/
def IsAttained (forward : List Edge) (s : Ranking) : Prop :=
  ∀ w, s.rank w = 0 ∨ ∃ e ∈ forward, e.target = w ∧ s.rank w ≤ s.rank e.source + 1

theorem rank_le_next : s.rank w ≤ (s.next forward v queue).rank w := by
  rw [next_rank]
  split <;> omega

theorem IsAttained.next (h : s.IsAttained forward) :
    (s.next forward v queue).IsAttained forward := by
  intro w
  -- Either the edge that decided the rank before still does, or one from the vertex does now.
  by_cases raised : w ∈ targetsFrom forward v ∧ s.rank w ≤ s.rank v + 1
  · obtain ⟨e, he, source, target⟩ := mem_targetsFrom_iff.mp raised.1
    refine .inr ⟨e, he, target, ?_⟩
    have kept : s.rank v ≤ (s.next forward v queue).rank v := rank_le_next
    rw [source, next_rank, if_pos raised.1]
    omega
  · have same : (s.next forward v queue).rank w = s.rank w := by
      rw [next_rank]
      split
      · rename_i target
        exact Nat.max_eq_left (by have := not_and.mp raised target; omega)
      · rfl
    rw [same]
    refine (h w).imp id ?_
    rintro ⟨e, he, target, rank⟩
    exact ⟨e, he, target, Nat.le_trans rank (Nat.succ_le_succ rank_le_next)⟩

theorem IsAttained.run (h : s.IsAttained forward) :
    (Ranking.run (targetsFrom forward) s).IsAttained forward := by
  fun_induction Ranking.run (targetsFrom forward) s with
  | case1 s hq => exact h
  | case2 s v queue hq ih => exact ih h.next

theorem isAttained (ids : List String) (edges : List Edge) :
    (ranking ids edges).IsAttained (forwardEdges ids edges) :=
  IsAttained.run fun _ => .inl rfl

/-- All ranks below that of a vertex are in use, also if ids are repeated. -/
theorem exists_rank_eq {edges : List Edge} {v : String} (hv : v ∈ ids) {k : Nat}
    (hk : k ≤ (ranking ids edges).rank v) : ∃ u ∈ ids, (ranking ids edges).rank u = k := by
  obtain ⟨level, upwards⟩ := exists_level ids edges
  induction hl : level v using Nat.strongRecOn generalizing v with
  | ind l ih =>
      by_cases top : (ranking ids edges).rank v = k
      · exact ⟨v, hv, top⟩
      · rcases isAttained ids edges v with zero | ⟨e, he, rfl, rank⟩
        · omega
        · exact ih _ (hl ▸ upwards e he) (known_of_mem_forwardEdges he).1 (by omega) rfl

end Ranking
end SchemaGraph.Layout
