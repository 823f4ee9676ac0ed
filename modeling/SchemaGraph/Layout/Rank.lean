import SchemaGraph.Layout.Basic

/-!
# Back edges and ranks

The rank of a vertex says how many layers stand to the left of it. Edges that close a cycle have no
say in it, so they are found first.

## Breaking cycles

Edges that close a cycle must not constrain the ranks. They are found by a depth-first search that
takes vertices and edges in the order given: an edge is a back edge if its target is on the path
from the root of the search to its source, which includes an edge from a vertex to itself.

The search keeps its path explicitly, the deepest vertex first. A vertex is unseen, on the path, or
done, and only unseen vertices are entered, so either the unseen ones become fewer or the edges
still to be looked at do.
-/

namespace SchemaGraph.Layout

/-- A vertex of the path, with the edges out of it that are still to be looked at: their numbers
and targets. -/
structure Frame where
  vertex : String
  pending : List (Nat × String)

/-- Whether both ends of an edge are among the vertices. -/
def Edge.isKnown (ids : List String) (e : Edge) : Bool :=
  ids.contains e.source && ids.contains e.target

/-- The edges out of a vertex, with their numbers. -/
def outgoing (ids : List String) (edges : List Edge) (v : String) : List (Nat × String) :=
  edges.zipIdx.filterMap fun (e, i) =>
    if e.source == v && e.isKnown ids then some (i, e.target) else none

def onPath (path : List Frame) (v : String) : Bool := path.any (·.vertex == v)

/-- What is still to be done on a path: its vertices and their pending edges. -/
def work : List Frame → Nat
  | [] => 0
  | f :: path => f.pending.length + 1 + work path

/-- Search from the top of the path on. Gives the vertices still unseen, and the back edges found,
the latest first. -/
def search (out : String → List (Nat × String)) (unseen : List String) (path : List Frame)
    (back : List Nat) : List String × List Nat :=
  match path with
  | [] => (unseen, back)
  | ⟨_, []⟩ :: path => search out unseen path back
  | ⟨v, (i, w) :: pending⟩ :: path =>
    if onPath (⟨v, pending⟩ :: path) w then search out unseen (⟨v, pending⟩ :: path) (i :: back)
    else if w ∈ unseen then
      search out (unseen.erase w) (⟨w, out w⟩ :: ⟨v, pending⟩ :: path) back
    else search out unseen (⟨v, pending⟩ :: path) back
termination_by (unseen.length, work path)
decreasing_by
  · apply Prod.Lex.right; simp [work]
  · apply Prod.Lex.right; simp [work]
  · rename_i h
    apply Prod.Lex.left
    have := List.length_pos_of_mem h
    rw [List.length_erase_of_mem h]
    omega
  · apply Prod.Lex.right; simp [work]

/-- Search from a vertex unless it has been seen. -/
def searchFrom (out : String → List (Nat × String)) (s : List String × List Nat) (root : String) :
    List String × List Nat :=
  if root ∈ s.1 then search out (s.1.erase root) [⟨root, out root⟩] s.2 else s

/-- The numbers of the edges that close a cycle, in order. -/
def backEdges (ids : List String) (edges : List Edge) : List Nat :=
  let found := (ids.foldl (searchFrom (outgoing ids edges)) (ids.eraseDups, [])).2
  (List.range edges.length).filter found.contains

/-- The edges between vertices that close no cycle. -/
def forwardEdges (ids : List String) (edges : List Edge) : List Edge :=
  let back := backEdges ids edges
  edges.zipIdx.filterMap fun (e, i) =>
    if !back.contains i && e.isKnown ids then some e else none

end SchemaGraph.Layout

/-!
## Ranks

The rank of a vertex is the length of the longest path of forward edges that ends at it. Vertices
are taken from a queue, first those that no forward edge enters. Taking a vertex follows the edges
out of it, which raises the ranks of their targets, and a target joins the queue when the last edge
into it has been followed.
-/

namespace SchemaGraph.Layout

structure Ranking where
  rank : String → Nat
  /-- The targets of the edges still to be followed, as often as there are such edges. -/
  waiting : List String
  queue : List String
  /-- The vertices taken so far, the latest first. -/
  taken : List String

namespace Ranking

/-- Follow an edge whose target has to have at least a given rank. -/
def arrive (r : Nat) (s : Ranking) (w : String) : Ranking :=
  let raised := max (s.rank w) r
  let rest := s.waiting.erase w
  { s with
    rank := fun v => if v == w then raised else s.rank v
    waiting := rest
    queue := if w ∈ s.waiting ∧ w ∉ rest then s.queue ++ [w] else s.queue }

theorem arrive_size (r : Nat) (s : Ranking) (w : String) :
    (s.arrive r w).queue.length + (s.arrive r w).waiting.length ≤
      s.queue.length + s.waiting.length := by
  simp only [arrive]
  split
  · rename_i h
    have := List.length_pos_of_mem h.1
    simp [List.length_erase_of_mem h.1]
    omega
  · have := List.length_erase_le (a := w) (l := s.waiting)
    omega

theorem foldl_arrive_size (r : Nat) (s : Ranking) (ws : List String) :
    (ws.foldl (arrive r) s).queue.length + (ws.foldl (arrive r) s).waiting.length ≤
      s.queue.length + s.waiting.length := by
  induction ws generalizing s with
  | nil => exact Nat.le_refl _
  | cons w ws ih => exact Nat.le_trans (ih _) (arrive_size r s w)

/-- Take vertices until the queue is empty. -/
def run (out : String → List String) (s : Ranking) : Ranking :=
  match h : s.queue with
  | [] => s
  | v :: queue =>
    run out ((out v).foldl (arrive (s.rank v + 1)) { s with queue, taken := v :: s.taken })
termination_by s.queue.length + s.waiting.length
decreasing_by
  refine Nat.lt_of_le_of_lt (foldl_arrive_size _ _ _) ?_
  simp [h]

end Ranking

def targetsFrom (edges : List Edge) (v : String) : List String :=
  edges.filterMap fun e => if e.source == v then some e.target else none

/-- The ranking with all its edges followed. -/
def ranking (ids : List String) (edges : List Edge) : Ranking :=
  let forward := forwardEdges ids edges
  let waiting := forward.map (·.target)
  Ranking.run (targetsFrom forward)
    { rank := fun _ => 0, waiting, queue := ids.filter fun v => !waiting.contains v, taken := [] }

/-- The vertices with their ranks, in the order given. -/
def rankedVertices (ids : List String) (edges : List Edge) : List (String × Nat) :=
  let final := ranking ids edges
  ids.map fun v => (v, final.rank v)

/-- The ranks of the vertices, each vertex once. -/
def ranks (ids : List String) (edges : List Edge) : List (String × Nat) :=
  (rankedVertices ids edges).eraseDups

end SchemaGraph.Layout
