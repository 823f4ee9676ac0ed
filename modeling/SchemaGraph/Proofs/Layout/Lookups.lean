import Mathlib.Data.PFun
import SchemaGraph.Proofs.Layout.Search

/-!
# Tables in which a lookup can fail

A table has entries for some vertices, and looking up another one fails. The tables of a graph get
an entry for each of its vertices before anything else, and items are then entered for ends of edges
that are known to be vertices, so this does not fail.

The search for cycles looks up the edges out of each vertex that it enters. It starts from vertices
and follows edges between vertices, so it does not fail either, and it finds what it finds without
tables. As only vertices that have not been seen are entered, it comes to an end. That it does so is
no part of its definition here: a loop that fails, or goes on without end, has no result.
-/

namespace SchemaGraph.Layout

variable {α β : Type}

/-- A table with entries for some vertices. -/
abbrev Keyed (β : Type) := String → Option β

namespace Keyed

variable {ids : List String} {f : String → β} {v : String}

/-- The table with an entry for each vertex of a list. -/
def fill (ids : List String) (f : String → β) : Keyed β := fun v =>
  if v ∈ ids then some (f v) else none

/-- Change the entry of a vertex, if it has one. -/
def revise? (t : Keyed β) (v : String) (g : β → β) : Option (Keyed β) := do
  let entry ← t v
  return fun u => if u == v then some (g entry) else t u

/-- Change the entries of some vertices one after the other, each for an item of a list. -/
def enter? (key : α → String) (g : α → β → β) (as : List α) (t : Keyed β) : Option (Keyed β) :=
  as.foldlM (fun t a => t.revise? (key a) (g a)) t

theorem fill_of_mem (hv : v ∈ ids) : fill ids f v = some (f v) := if_pos hv

theorem revise?_fill (hv : v ∈ ids) (g : β → β) :
    (fill ids f).revise? v g = some (fill ids fun u => if u == v then g (f u) else f u) := by
  rw [revise?, fill_of_mem hv]
  refine congrArg some (funext fun u => ?_)
  by_cases here : u = v
  · simp [here, fill, hv]
  · simp [here, fill]

/-- Nothing fails if all items are for vertices with entries. -/
theorem enter?_fill {key : α → String} (g : α → β → β) {as : List α} (h : ∀ a ∈ as, key a ∈ ids) :
    enter? key g as (fill ids f) =
      some (fill ids fun v => (as.filter (key · == v)).foldl (fun b a => g a b) (f v)) := by
  induction as generalizing f with
  | nil => rfl
  | cons a as ih =>
      rw [enter?, List.foldlM_cons, revise?_fill (h a List.mem_cons_self)]
      refine (ih fun b hb => h b (List.mem_cons_of_mem _ hb)).trans ?_
      refine congrArg some (congrArg (fill ids) (funext fun v => ?_))
      by_cases here : key a = v
      · simp [here]
      · simp [here, Ne.symm here]

/-- Items collected at their keys, in order. -/
def collect? (ids : List String) (key : α → String) (item : α → β) (as : List α) :
    Option (Keyed (List β)) :=
  enter? key (fun a items => items ++ [item a]) as (fill ids fun _ => [])

/-- Items counted at their keys. -/
def count? (ids : List String) (key : α → String) (as : List α) : Option (Keyed Int) :=
  enter? key (fun _ n => n + 1) as (fill ids fun _ => 0)

theorem collect?_eq {key : α → String} (item : α → β) {as : List α} (h : ∀ a ∈ as, key a ∈ ids) :
    collect? ids key item as = some (fill ids fun v =>
      as.filterMap fun a => if key a == v then some (item a) else none) := by
  have collected (items : List β) (bs : List α) :
      bs.foldl (fun items a => items ++ [item a]) items = items ++ bs.map item := by
    induction bs generalizing items with
    | nil => simp
    | cons b bs ih => simp [ih]
  rw [collect?, enter?_fill _ h]
  refine congrArg some (congrArg (fill ids) (funext fun v => ?_))
  rw [collected, List.nil_append, ← List.filterMap_eq_map, List.filterMap_filter]
  rfl

theorem count?_eq {key : α → String} {as : List α} (h : ∀ a ∈ as, key a ∈ ids) :
    count? ids key as = some (fill ids fun v => ((as.map key).count v : Int)) := by
  have counted (n : Int) (bs : List α) : bs.foldl (fun n _ => n + 1) n = n + bs.length := by
    induction bs generalizing n with
    | nil => simp
    | cons b bs ih => rw [List.foldl_cons, ih, List.length_cons]; omega
  rw [count?, enter?_fill _ h]
  refine congrArg some (congrArg (fill ids) (funext fun v => ?_))
  rw [counted, Int.zero_add, List.count_eq_countP, List.countP_map, List.countP_eq_length_filter]
  rfl

end Keyed

section Loop

variable {σ ρ : Type} {turn : σ → Option (ρ ⊕ σ)} {s s' : σ} {r : ρ}

/-- Take turns until one of them has a result. There is none if a turn fails, or without an end. -/
def loop (turn : σ → Option (ρ ⊕ σ)) : σ →. ρ := PFun.fix fun s => Part.ofOption (turn s)

theorem loop_stop (h : turn s = some (.inl r)) : loop turn s = Part.some r :=
  Part.eq_some_iff.mpr (PFun.fix_stop (Part.mem_ofOption.mpr h))

theorem loop_next (h : turn s = some (.inr s')) : loop turn s = loop turn s' :=
  PFun.fix_fwd_eq (Part.mem_ofOption.mpr h)

end Loop

/-- A search under way: the vertices seen, the path, and the back edges found. -/
structure Searching where
  seen : List String
  path : List Frame
  back : List Nat

/-- Look at the edge at the top of the path, with a table of the edges out of each vertex. A vertex
that has not been seen is looked up and entered. -/
def look? (out : Keyed (List (Nat × String))) (s : Searching) :
    Option ((List String × List Nat) ⊕ Searching) :=
  match s.path with
  | [] => some (.inl (s.seen, s.back))
  | ⟨_, []⟩ :: path => some (.inr { s with path })
  | ⟨v, (i, w) :: pending⟩ :: path =>
    let path := ⟨v, pending⟩ :: path
    if onPath path w then some (.inr { s with path, back := i :: s.back })
    else if w ∈ s.seen then some (.inr { s with path })
    else do
      let leaving ← out w
      return .inr { s with seen := w :: s.seen, path := ⟨w, leaving⟩ :: path }

/-- Search from a vertex unless it has been seen. -/
def searchFrom? (out : Keyed (List (Nat × String))) (s : List String × List Nat) (root : String) :
    Part (List String × List Nat) :=
  if root ∈ s.1 then Part.some s
  else do
    let leaving ← Part.ofOption (out root)
    loop (look? out) ⟨root :: s.1, [⟨root, leaving⟩], s.2⟩

/-- The numbers of the edges that close a cycle, with all that is looked up on the way. -/
def backEdges? (ids : List String) (edges : List Edge) : Part (List Nat) := do
  let known := edges.zipIdx.filter fun (e, _) => e.isKnown ids
  let out ← Part.ofOption
    (Keyed.collect? ids (fun (e, _) => e.source) (fun (e, i) => (i, e.target)) known)
  let (_, found) ← ids.foldlM (searchFrom? out) ([], [])
  return (List.range edges.length).filter found.contains

def forwardEdges? (ids : List String) (edges : List Edge) : Part (List Edge) := do
  let back ← backEdges? ids edges
  return edges.zipIdx.filterMap fun (e, i) =>
    if !back.contains i && e.isKnown ids then some e else none

section Search

variable {ids : List String} {edges : List Edge} {out : String → List (Nat × String)}
  {seen unseen : List String} {path : List Frame} {back : List Nat}

/-- Of the vertices of a graph, those are seen that are not unseen. -/
structure AreMarked (ids seen unseen : List String) : Prop where
  distinct : unseen.Nodup
  mem_seen_iff : ∀ v ∈ ids, v ∈ seen ↔ v ∉ unseen

theorem AreMarked.enter (h : AreMarked ids seen unseen) (w : String) :
    AreMarked ids (w :: seen) (unseen.erase w) := by
  refine ⟨h.distinct.erase w, fun v hv => ?_⟩
  rw [List.mem_cons, h.distinct.mem_erase_iff, h.mem_seen_iff v hv]
  tauto

/-- Whether the edges that a path has still to look at lead to vertices of the graph. -/
def LeadsInto (ids : List String) (path : List Frame) : Prop :=
  ∀ f ∈ path, ∀ e ∈ f.pending, e.2 ∈ ids

theorem LeadsInto.pass {v : String} {e : Nat × String} {pending : List (Nat × String)}
    (h : LeadsInto ids (⟨v, e :: pending⟩ :: path)) :
    e.2 ∈ ids ∧ LeadsInto ids (⟨v, pending⟩ :: path) := by
  obtain ⟨top, below⟩ := List.forall_mem_cons.mp h
  obtain ⟨first, rest⟩ := List.forall_mem_cons.mp top
  exact ⟨first, List.forall_mem_cons.mpr ⟨rest, below⟩⟩

/-- A search only looks up vertices of the graph, so it comes to an end. -/
theorem exists_loop_look?_eq (known : ∀ v, ∀ e ∈ out v, e.2 ∈ ids) (into : LeadsInto ids path)
    (marked : AreMarked ids seen unseen) :
    ∃ seen', loop (look? (.fill ids out)) ⟨seen, path, back⟩ =
        Part.some (seen', (search out unseen path back).2) ∧
      AreMarked ids seen' (search out unseen path back).1 := by
  fun_induction search out unseen path back generalizing seen with
  | case1 unseen back => exact ⟨seen, loop_stop rfl, marked⟩
  | case2 unseen back v path ih =>
      rw [loop_next rfl]
      exact ih (fun f hf => into f (List.mem_cons_of_mem _ hf)) marked
  | case3 unseen back v i w pending path isOnPath ih =>
      have turn : look? (.fill ids out) ⟨seen, ⟨v, (i, w) :: pending⟩ :: path, back⟩ =
          some (.inr ⟨seen, ⟨v, pending⟩ :: path, i :: back⟩) := if_pos isOnPath
      rw [loop_next turn]
      exact ih into.pass.2 marked
  | case4 unseen back v i w pending path notOnPath isUnseen ih =>
      obtain ⟨isVertex, into⟩ := into.pass
      have notSeen : w ∉ seen := fun isSeen =>
        (marked.mem_seen_iff w isVertex).mp isSeen isUnseen
      have turn : look? (.fill ids out) ⟨seen, ⟨v, (i, w) :: pending⟩ :: path, back⟩ =
          some (.inr ⟨w :: seen, ⟨w, out w⟩ :: ⟨v, pending⟩ :: path, back⟩) := by
        simp only [look?, if_neg notOnPath, if_neg notSeen, Keyed.fill_of_mem isVertex]
        rfl
      rw [loop_next turn]
      exact ih (List.forall_mem_cons.mpr ⟨known w, into⟩) (marked.enter w)
  | case5 unseen back v i w pending path notOnPath notUnseen ih =>
      obtain ⟨isVertex, into⟩ := into.pass
      have isSeen : w ∈ seen := (marked.mem_seen_iff w isVertex).mpr notUnseen
      have turn : look? (.fill ids out) ⟨seen, ⟨v, (i, w) :: pending⟩ :: path, back⟩ =
          some (.inr ⟨seen, ⟨v, pending⟩ :: path, back⟩) := by
        simp only [look?, if_neg notOnPath, if_pos isSeen]
      rw [loop_next turn]
      exact ih into marked

theorem exists_searchFrom?_eq (known : ∀ v, ∀ e ∈ out v, e.2 ∈ ids)
    (marked : AreMarked ids seen unseen) (back : List Nat) {root : String}
    (isVertex : root ∈ ids) :
    ∃ seen', searchFrom? (.fill ids out) (seen, back) root =
        Part.some (seen', (searchFrom out (unseen, back) root).2) ∧
      AreMarked ids seen' (searchFrom out (unseen, back) root).1 := by
  unfold searchFrom? searchFrom
  by_cases isUnseen : root ∈ unseen
  · have notSeen : root ∉ seen := fun isSeen =>
      (marked.mem_seen_iff root isVertex).mp isSeen isUnseen
    rw [if_pos isUnseen, if_neg notSeen, Keyed.fill_of_mem isVertex, Part.coe_some,
      Part.bind_eq_bind, Part.bind_some]
    refine exists_loop_look?_eq known ?_ (marked.enter root)
    exact List.forall_mem_singleton.mpr (known root)
  · have isSeen : root ∈ seen := (marked.mem_seen_iff root isVertex).mpr isUnseen
    rw [if_neg isUnseen, if_pos isSeen]
    exact ⟨seen, rfl, marked⟩

theorem exists_foldlM_searchFrom?_eq (known : ∀ v, ∀ e ∈ out v, e.2 ∈ ids)
    (marked : AreMarked ids seen unseen) (back : List Nat) {roots : List String}
    (vertices : roots ⊆ ids) :
    ∃ seen', roots.foldlM (searchFrom? (.fill ids out)) (seen, back) =
      Part.some (seen', (roots.foldl (searchFrom out) (unseen, back)).2) := by
  induction roots generalizing seen unseen back with
  | nil => exact ⟨seen, rfl⟩
  | cons root roots ih =>
      obtain ⟨isVertex, vertices⟩ := List.cons_subset.mp vertices
      obtain ⟨seen', searched, marked⟩ := exists_searchFrom?_eq known marked back isVertex
      rw [List.foldlM_cons, searched, Part.bind_eq_bind, Part.bind_some]
      exact ih marked _ vertices

/-- Nothing that the search for cycles looks up is missing. -/
theorem forwardEdges?_eq (ids : List String) (edges : List Edge) :
    forwardEdges? ids edges = Part.some (forwardEdges ids edges) := by
  have entered : Keyed.collect? ids (fun (e, _) => e.source) (fun (e, i) => (i, e.target))
      (edges.zipIdx.filter fun (e, _) => e.isKnown ids) =
        some (.fill ids (outgoing ids edges)) := by
    rw [Keyed.collect?_eq]
    · refine congrArg some (congrArg (Keyed.fill ids) (funext fun v => ?_))
      rw [List.filterMap_filter, outgoing]
      refine List.filterMap_congr fun (e, i) _ => ?_
      by_cases isKnown : e.isKnown ids = true <;> simp [isKnown]
    · intro (e, i) he
      obtain ⟨-, isKnown⟩ := List.mem_filter.mp he
      simp only [Edge.isKnown, Bool.and_eq_true, List.contains_iff_mem] at isKnown
      exact isKnown.1
  have start : AreMarked ids [] ids.eraseDups :=
    ⟨nodup_eraseDups ids, fun v hv => by simp [hv]⟩
  have known : ∀ v, ∀ e ∈ outgoing ids edges v, e.2 ∈ ids := fun _ _ he =>
    known_of_mem_outgoing he
  obtain ⟨seen, found⟩ :=
    exists_foldlM_searchFrom?_eq known start [] (List.Subset.refl ids)
  simp only [forwardEdges?, backEdges?, entered, found, Part.coe_some, Part.bind_eq_bind,
    Part.bind_some, Part.pure_eq_some]
  rfl

end Search

end SchemaGraph.Layout
