import SchemaGraph.Proofs.Layout.Lookups
import SchemaGraph.Proofs.Layout.Ranking
import SchemaGraph.Proofs.Partial

/-!
# Ranking by counts

A vertex that is taken twice makes the edges out of it be followed twice, and then the counts of
edges still to be followed drop below zero. A count is compared with zero only, and a vertex joins
the queue when its count reaches zero from above. So the counts do what the list of waiting targets
does, in which nothing is left to be removed by then. All vertices that are looked up are vertices
of the graph, so the loop comes to an end without failing, also if ids are repeated.
-/

namespace SchemaGraph.Layout

variable {ids : List String}

/-- A ranking in tables, with the number of edges still to be followed into each vertex. -/
structure Tally where
  rank : Keyed Nat
  entering : Keyed Int
  queue : List String

namespace Tally

/-- Follow an edge out of the vertex that is taken. -/
def follow? (v : String) (t : Tally) (w : String) : Option Tally := do
  let raised := max (← t.rank w) ((← t.rank v) + 1)
  let rank ← t.rank.revise? w fun _ => raised
  let entering ← t.entering.revise? w (· - 1)
  let left ← entering w
  return { rank, entering, queue := if left = 0 then t.queue ++ [w] else t.queue }

/-- Take a vertex from the queue and follow the edges out of it. -/
def take? (out : Keyed (List String)) (t : Tally) : Option (Tally ⊕ Tally) :=
  match t.queue with
  | [] => some (.inl t)
  | v :: queue => do
    let targets ← out v
    let t ← targets.foldlM (follow? v) { t with queue }
    return .inr t

variable {t : Tally} {s : Ranking} {v w : String}

/-- A tally agrees with a ranking. Where edges were followed more than once, the count is negative
and none is waiting. -/
structure AgreesWith (ids : List String) (t : Tally) (s : Ranking) : Prop where
  rank : t.rank = .fill ids s.rank
  entering : ∃ n : String → Int, t.entering = .fill ids n ∧ ∀ v, (n v).toNat = s.waiting.count v
  queue : t.queue = s.queue
  vertices : s.queue ⊆ ids

/-- The last edge into a vertex is the one by which its count reaches zero. -/
theorem sub_one_eq_zero_iff {waiting : List String} {n : Int} (h : n.toNat = waiting.count w) :
    n - 1 = 0 ↔ w ∈ waiting ∧ w ∉ waiting.erase w := by
  rw [← List.count_pos_iff, ← List.count_eq_zero, List.count_erase_self]
  omega

theorem count_erase_eq {waiting : List String} {n : String → Int}
    (h : ∀ u, (n u).toNat = waiting.count u) (u : String) :
    (if u == w then n u - 1 else n u).toNat = (waiting.erase w).count u := by
  have before := h u
  by_cases here : u = w
  · subst here
    rw [if_pos (beq_self_eq_true u), List.count_erase_self]
    omega
  · rw [if_neg (by simpa using here), List.count_erase_of_ne here, before]

/-- Following an edge finds what it looks up, and the rank of the vertex that is taken stays. -/
theorem AgreesWith.follow (h : t.AgreesWith ids s) (hv : v ∈ ids) (hw : w ∈ ids) (other : v ≠ w)
    {r : Nat} (above : s.rank v + 1 = r) :
    ∃ t', t.follow? v w = some t' ∧ t'.AgreesWith ids (s.arrive r w) ∧
      (s.arrive r w).rank v + 1 = r := by
  obtain ⟨n, entering, counts⟩ := h.entering
  let rank : Keyed Nat := .fill ids (s.arrive r w).rank
  let less : Keyed Int := .fill ids fun u => if u == w then n u - 1 else n u
  have raised : t.rank.revise? w (fun _ => max (s.rank w) r) = some rank := by
    rw [h.rank]
    exact Keyed.revise?_fill hw _
  have counted : t.entering.revise? w (· - 1) = some less := by
    rw [entering]
    exact Keyed.revise?_fill hw _
  have left : less w = some (n w - 1) := by
    refine (Keyed.fill_of_mem hw).trans ?_
    rw [if_pos (beq_self_eq_true w)]
  have joined : (if n w - 1 = 0 then t.queue ++ [w] else t.queue) = (s.arrive r w).queue := by
    simp only [sub_one_eq_zero_iff (counts w), h.queue]
    rfl
  have found (u : String) (hu : u ∈ ids) : t.rank u = some (s.rank u) := by
    rw [h.rank, Keyed.fill_of_mem hu]
  refine ⟨⟨rank, less, (s.arrive r w).queue⟩, ?_,
    ⟨rfl, ⟨_, rfl, count_erase_eq counts⟩, rfl, ?_⟩, ?_⟩
  · simp only [follow?, found w hw, found v hv, above, raised, counted, left, joined,
      Option.bind_eq_bind, Option.bind_some, Option.pure_def]
  · intro u hu
    simp only [Ranking.arrive] at hu
    split at hu
    · rcases List.mem_append.mp hu with queued | joins
      · exact h.vertices queued
      · rwa [List.mem_singleton.mp joins]
    · exact h.vertices hu
  · simpa [Ranking.arrive, other] using above

theorem AgreesWith.foldlM_follow (h : t.AgreesWith ids s) (hv : v ∈ ids) {ws : List String}
    (hws : ws ⊆ ids) (others : v ∉ ws) {r : Nat} (above : s.rank v + 1 = r) :
    ∃ t', ws.foldlM (follow? v) t = some t' ∧
      t'.AgreesWith ids (ws.foldl (Ranking.arrive r) s) := by
  induction ws generalizing t s with
  | nil => exact ⟨t, rfl, h⟩
  | cons w ws ih =>
      obtain ⟨hw, hws⟩ := List.cons_subset.mp hws
      obtain ⟨other, others⟩ := List.ne_and_not_mem_of_not_mem_cons others
      obtain ⟨t', followed, h, above⟩ := h.follow hv hw other above
      rw [List.foldlM_cons, followed]
      exact ih h hws others above

/-- Taking vertices looks up vertices of the graph only, as often as they are taken. -/
theorem AgreesWith.loop_take (h : t.AgreesWith ids s) (edges : List Edge) :
    ∃ t', loop (take? (.fill ids (targetsFrom (forwardEdges ids edges)))) t = Part.some t' ∧
      t'.AgreesWith ids (s.run (targetsFrom (forwardEdges ids edges))) := by
  fun_induction Ranking.run (targetsFrom (forwardEdges ids edges)) s generalizing t with
  | case1 s hq => exact ⟨t, loop_stop (by rw [take?, h.queue, hq]), h⟩
  | case2 s v queue hq ih =>
      obtain ⟨hv, vertices⟩ := List.cons_subset.mp (hq ▸ h.vertices)
      have taken : AgreesWith ids { t with queue } { s with queue, taken := v :: s.taken } :=
        ⟨h.rank, h.entering, rfl, vertices⟩
      obtain ⟨t', followed, h'⟩ := taken.foldlM_follow hv
        (targetsFrom_subset edges v) (notMem_targetsFrom edges v) rfl
      have turn : take? (.fill ids (targetsFrom (forwardEdges ids edges))) t = some (.inr t') := by
        simp only [take?, h.queue, hq, Keyed.fill_of_mem hv, Option.bind_eq_bind,
          Option.bind_some, followed, Option.pure_def]
      rw [loop_next turn]
      exact ih h'

theorem AgreesWith.start (ids : List String) (waiting : List String) :
    AgreesWith ids
      { rank := .fill ids fun _ => 0
        entering := .fill ids fun v => waiting.count v
        queue := ids.filter fun v => !waiting.contains v }
      { rank := fun _ => 0
        waiting
        queue := ids.filter fun v => !waiting.contains v
        taken := [] } :=
  ⟨rfl, ⟨_, rfl, fun _ => Int.toNat_natCast _⟩, rfl, List.filter_subset_self _⟩

end Tally

/-- The edges out of each vertex, and the ranking before any vertex is taken. -/
def startRanking? (ids : List String) (forward : List Edge) :
    Option (Keyed (List String) × Tally) := do
  let out ← Keyed.collect? ids (·.source) (·.target) forward
  let entering ← Keyed.count? ids (·.target) forward
  let counts ← ids.mapM fun v => return (v, ← entering v)
  let queue := counts.filterMap fun (v, n) => if n = 0 then some v else none
  return (out, { rank := .fill ids fun _ => 0, entering, queue })

/-- The ranks of the vertices of a graph, with all that is looked up on the way. -/
def ranks? (ids : List String) (edges : List Edge) : Part (Keyed Nat) := do
  let forward ← forwardEdges? ids edges
  let (out, t) ← Part.ofOption (startRanking? ids forward)
  let t ← loop (Tally.take? out) t
  return t.rank

/-- The vertices whose counts are zero are those that no edge enters. -/
theorem filterMap_counts_eq (ids waiting : List String) :
    (ids.map fun v => (v, (waiting.count v : Int))).filterMap
        (fun (v, n) => if n = 0 then some v else none) =
      ids.filter fun v => !waiting.contains v := by
  rw [List.filterMap_map, ← List.filterMap_eq_filter]
  refine List.filterMap_congr fun v _ => ?_
  by_cases entered : v ∈ waiting
  · simp [entered, List.count_eq_zero, Option.guard]
  · simp [entered, List.count_eq_zero.mpr entered, Option.guard]

theorem startRanking?_eq {forward : List Edge}
    (known : ∀ e ∈ forward, e.source ∈ ids ∧ e.target ∈ ids) :
    startRanking? ids forward = some (.fill ids (targetsFrom forward),
      { rank := .fill ids fun _ => 0
        entering := .fill ids fun v => ((forward.map (·.target)).count v : Int)
        queue := ids.filter fun v => !(forward.map (·.target)).contains v }) := by
  have collected : Keyed.collect? ids (·.source) (·.target) forward =
      some (.fill ids (targetsFrom forward)) :=
    Keyed.collect?_eq _ fun _ he => (known _ he).1
  have counted : Keyed.count? ids (·.target) forward =
      some (.fill ids fun v => ((forward.map (·.target)).count v : Int)) :=
    Keyed.count?_eq fun _ he => (known _ he).2
  rw [startRanking?, collected, counted]
  dsimp only [Option.bind_eq_bind, Option.bind_some]
  rw [mapM_eq_some_map (g := fun v => (v, ((forward.map (·.target)).count v : Int)))]
  · rw [Option.bind_some, filterMap_counts_eq]
    rfl
  · intro v hv
    rw [Keyed.fill_of_mem hv]
    rfl

/-- Nothing that ranking looks up is missing, and it ends with the ranks of the vertices. -/
theorem ranks?_eq (ids : List String) (edges : List Edge) :
    ranks? ids edges = Part.some (.fill ids (ranking ids edges).rank) := by
  obtain ⟨t, taken, agrees⟩ :=
    (Tally.AgreesWith.start ids ((forwardEdges ids edges).map (·.target))).loop_take edges
  simp only [ranks?, forwardEdges?_eq, startRanking?_eq fun _ he => known_of_mem_forwardEdges he,
    taken, Part.coe_some, Part.bind_eq_bind, Part.bind_some, Part.pure_eq_some]
  exact congrArg Part.some agrees.rank

end SchemaGraph.Layout
