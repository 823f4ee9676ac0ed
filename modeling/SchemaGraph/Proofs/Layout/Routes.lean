import SchemaGraph.Proofs.Layout.Columns
import SchemaGraph.Proofs.Layout.LongestPath

/-!
# Routes show which edges close a cycle

A route is chosen by where the two boxes stand. An edge that closes a cycle leads back to its source
or to a lower rank, so its target does not stand to the right of its source, and every other edge
leads to a higher rank, whose boxes begin beyond the gap between ranks. So a graph is drawn from
left to right, but for those edges whose routes make a detour.
-/

namespace SchemaGraph.Layout

variable {K : Type} [Field K] [LinearOrder K]

/-- A row of a box lies within it. An edge that has no row meets the box in the middle. -/
def Node.HasRow (s : Settings K) (n : Node K) (row : Option Int) : Prop :=
  ∀ k : Int, row = some k → 0 ≤ k ∧ s.headerHeight + (k + 1) * s.rowHeight ≤ n.height

namespace Route

/-- A route is that of an edge between two boxes: it leaves its source on the right and enters its
target on the left, in horizontal and vertical segments. -/
structure Joins (s : Settings K) (e : Edge) (source target : Node K) (route : Route K) : Prop where
  edge : route.edge = e.id
  leaves : ∃ p, route.points.head? = some p ∧ p.x = source.right ∧
    (source.HasRow s e.sourceRow → source.position.y ≤ p.y ∧ p.y ≤ source.bottom)
  enters : ∃ p, route.points.getLast? = some p ∧ p.x = target.position.x ∧
    (target.HasRow s e.targetRow → target.position.y ≤ p.y ∧ p.y ≤ target.bottom)
  segments : route.points.IsChain fun p q => p.x = q.x ∨ p.y = q.y

/-- A route with three segments, to a box beyond the gap between ranks. -/
structure IsStraight (s : Settings K) (source target : Node K) (route : Route K) : Prop where
  points : route.points.length = 4
  ahead : source.right + s.rankSep ≤ target.position.x

/-- A route with five segments, the third of which runs below both boxes. -/
structure IsDetour (source target : Node K) (route : Route K) : Prop where
  points : route.points.length = 6
  below : ∀ p ∈ (route.points.drop 2).take 2, source.bottom ≤ p.y ∧ target.bottom ≤ p.y

end Route

variable {s : Settings K} {e : Edge} {source target : Node K} {start finish : Position K}

theorem straightRoute_isOrthogonal :
    (straightRoute e.id start finish).points.IsChain fun p q => p.x = q.x ∨ p.y = q.y := by
  simp [straightRoute]

theorem detourRoute_isOrthogonal :
    (detourRoute s e.id source target start finish).points.IsChain
      fun p q => p.x = q.x ∨ p.y = q.y := by
  simp [detourRoute]

/-- A route leaves and enters its boxes at their anchors, and where they stand decides which route
it is. -/
theorem exists_of_routeBetween? {route : Route K}
    (h : routeBetween? s e source target = some route) :
    ∃ y y', source.anchor? s e.sourceRow = some y ∧ target.anchor? s e.targetRow = some y' ∧
      route = if Scalar.less source.right target.position.x then
          straightRoute e.id ⟨source.right, y⟩ ⟨target.position.x, y'⟩
        else detourRoute s e.id source target ⟨source.right, y⟩ ⟨target.position.x, y'⟩ := by
  obtain ⟨y, hy, h⟩ := Option.bind_eq_some_iff.mp h
  obtain ⟨y', hy', h⟩ := Option.bind_eq_some_iff.mp h
  cases h
  exact ⟨y, y', hy, hy', rfl⟩

variable [IsStrictOrderedRing K]

/-- A row of a box, and the middle of a box, are between its top and its bottom. -/
theorem Node.anchor?_within (header : 0 ≤ s.headerHeight) (rows : 0 ≤ s.rowHeight) {n : Node K}
    (height : 0 ≤ n.height) {row : Option Int} {y : K} (h : n.anchor? s row = some y)
    (inside : n.HasRow s row) : n.position.y ≤ y ∧ y ≤ n.bottom := by
  cases row with
  | none =>
      cases h
      simp only [Scalar.half_eq, bottom]
      constructor <;> linarith
  | some k =>
      cases h
      obtain ⟨first, last⟩ := inside k rfl
      have above : 0 ≤ (k : K) * s.rowHeight := mul_nonneg (Int.cast_nonneg first) rows
      simp only [Scalar.half_eq, bottom]
      constructor <;> linarith

theorem detourRoute_isDetour (nodeGap : 0 ≤ s.nodeSep) :
    (detourRoute s e.id source target start finish).IsDetour source target := by
  refine ⟨rfl, ?_⟩
  intro p hp
  have run : p.y = max source.bottom target.bottom + s.nodeSep / 2 := by
    simp only [detourRoute, Scalar.larger_eq_max, Scalar.half_eq, List.drop_succ_cons,
      List.drop_zero, List.take_succ_cons, List.take_zero, List.mem_cons, List.not_mem_nil,
      or_false] at hp
    rcases hp with rfl | rfl <;> rfl
  have left := le_max_left source.bottom target.bottom
  have right := le_max_right source.bottom target.bottom
  rw [run]
  constructor <;> linarith

theorem routeBetween?_joins (header : 0 ≤ s.headerHeight) (rows : 0 ≤ s.rowHeight)
    (sourceHeight : 0 ≤ source.height) (targetHeight : 0 ≤ target.height) {route : Route K}
    (h : routeBetween? s e source target = some route) : route.Joins s e source target := by
  obtain ⟨y, y', hy, hy', rfl⟩ := exists_of_routeBetween? h
  have within := Node.anchor?_within header rows sourceHeight hy
  have within' := Node.anchor?_within header rows targetHeight hy'
  split
  · exact ⟨rfl, ⟨_, rfl, rfl, within⟩, ⟨_, rfl, rfl, within'⟩, straightRoute_isOrthogonal⟩
  · exact ⟨rfl, ⟨_, rfl, rfl, within⟩, ⟨_, rfl, rfl, within'⟩, detourRoute_isOrthogonal⟩

theorem routeBetween?_isStraight (rankGap : 0 < s.rankSep) {route : Route K}
    (h : routeBetween? s e source target = some route)
    (ahead : source.right + s.rankSep ≤ target.position.x) :
    route.IsStraight s source target := by
  obtain ⟨y, y', -, -, rfl⟩ := exists_of_routeBetween? h
  have less : Scalar.less source.right target.position.x = true := decide_eq_true (by linarith)
  rw [if_pos less]
  exact ⟨rfl, ahead⟩

theorem routeBetween?_isDetour (nodeGap : 0 ≤ s.nodeSep) {route : Route K}
    (h : routeBetween? s e source target = some route)
    (behind : target.position.x ≤ source.right) : route.IsDetour source target := by
  obtain ⟨y, y', -, -, rfl⟩ := exists_of_routeBetween? h
  have notLess : ¬ Scalar.less source.right target.position.x = true := fun less =>
    not_lt.mpr behind (of_decide_eq_true less)
  rw [if_neg notLess]
  exact detourRoute_isDetour nodeGap

/-- The route of an edge between placed boxes: straight ahead, unless the edge closes a cycle. -/
def IsRouted (s : Settings K) (ids : List String) (edges : List Edge) (placed : List (Node K))
    (p : Edge × Nat) (route : Route K) : Prop :=
  ∃ source ∈ placed, ∃ target ∈ placed, source.id = p.1.source ∧ target.id = p.1.target ∧
    route.Joins s p.1 source target ∧
    (p.2 ∉ backEdges ids edges → route.IsStraight s source target) ∧
    (p.2 ∈ backEdges ids edges → route.IsDetour source target)

section Layout

variable {nodes : List (Node K)} (distinct : (nodes.map (·.id)).Nodup)
  (sizes : ∀ n ∈ nodes, 0 ≤ n.width ∧ 0 ≤ n.height) (nodeGap : 0 ≤ s.nodeSep)
  (rankGap : 0 < s.rankSep) (header : 0 ≤ s.headerHeight) (rows : 0 ≤ s.rowHeight)

include distinct sizes nodeGap rankGap header rows

theorem isRouted_of_place? {edges : List Edge} {r : Result K} (h : place? s nodes edges = some r)
    (outline : r.nodes.map Node.outline = nodes.map Node.outline) {i : Nat} {e : Edge}
    (he : edges[i]? = some e) (known : e.isKnown (nodes.map (·.id)) = true)
    {source target : Node K} (hs : Node.ofId? r.nodes e.source = some source)
    (ht : Node.ofId? r.nodes e.target = some target) {route : Route K}
    (drawn : routeBetween? s e source target = some route) :
    IsRouted s (nodes.map (·.id)) edges r.nodes (e, i) route := by
  have memS := Node.mem_of_ofId? hs
  have memT := Node.mem_of_ofId? ht
  have idS := Node.id_of_ofId? hs
  have idT := Node.id_of_ofId? ht
  have size : ∀ n ∈ r.nodes, 0 ≤ n.width ∧ 0 ≤ n.height := by
    intro n hn
    obtain ⟨m, hm, -, width, height⟩ := Node.exists_of_outline outline hn
    rw [← width, ← height]
    exact sizes m hm
  obtain ⟨widthS, heightS⟩ := size source memS
  obtain ⟨widthT, heightT⟩ := size target memT
  refine ⟨source, memS, target, memT, idS, idT,
    routeBetween?_joins header rows heightS heightT drawn, ?_, ?_⟩
  · intro isForward
    have rises := Ranking.rank_lt_of_notMem_backEdges distinct isForward he known
    rw [← idS, ← idT] at rises
    exact routeBetween?_isStraight rankGap drawn
      (right_le_of_rank_lt nodeGap rankGap.le h sizes memS memT rises)
  · intro closes
    refine routeBetween?_isDetour nodeGap drawn ?_
    rcases Ranking.rank_lt_of_mem_backEdges distinct closes he with loop | falls
    · rw [loop, hs] at ht
      cases ht
      simp only [Node.right]
      linarith
    · rw [← idS, ← idT] at falls
      have before := right_le_of_rank_lt nodeGap rankGap.le h sizes memT memS falls
      simp only [Node.right] at before ⊢
      linarith

/-- In a layout, the edges between vertices have routes, in their order. The route of an edge is
straight exactly if the edge closes no cycle, and else makes a detour. -/
theorem layout_routes (edges : List Edge) :
    ∃ r, layout? s nodes edges = some r ∧
      r.nodes.map Node.outline = nodes.map Node.outline ∧
      List.Forall₂ (IsRouted s (nodes.map (·.id)) edges r.nodes)
        (edges.zipIdx.filter fun p => p.1.isKnown (nodes.map (·.id))) r.routes := by
  by_cases empty : nodes = []
  · subst empty
    have unknown : (edges.zipIdx.filter fun p => p.1.isKnown []) = [] :=
      List.filter_eq_nil_iff.mpr fun p _ => by simp [Edge.isKnown]
    refine ⟨_, rfl, rfl, ?_⟩
    rw [List.map_nil, unknown]
    exact .nil
  · obtain ⟨r, laid, tidy⟩ := layout?_isTidy nodeGap rankGap.le empty distinct sizes edges
    refine ⟨r, laid, tidy.outline, ?_⟩
    rw [layout?_of_ne_nil empty] at laid
    obtain ⟨_, _, _, _, _, _, placed, routed⟩ := exists_of_place? laid
    have named := Node.ids_of_picked placed
    have drawn := mapM_eq_some_iff.mp routed
    rw [← edges.zipIdx_map_fst 0, List.filterMap_map] at drawn
    have isKnown : (fun p : Edge × Nat => p.1.isKnown (nodes.map (·.id))) =
        fun p => (ends? r.nodes p.1).isSome := funext fun p => (isSome_ends? named p.1).symm
    rw [isKnown]
    have members : ∀ p ∈ edges.zipIdx.filter fun p => (ends? r.nodes p.1).isSome,
        edges[p.2]? = some p.1 ∧ p.1.isKnown (nodes.map (·.id)) = true := by
      intro p hp
      obtain ⟨listed, kept⟩ := List.mem_filter.mp hp
      exact ⟨List.mem_zipIdx_iff_getElem?.mp listed, by rwa [← isSome_ends? named]⟩
    refine ((List.forall₂_and_left _ _).mpr ⟨members, forall₂_of_filterMap drawn⟩).imp ?_
    rintro ⟨e, i⟩ route ⟨⟨he, known⟩, ends, found, drawn⟩
    obtain ⟨source, hs, found⟩ := Option.bind_eq_some_iff.mp found
    obtain ⟨target, ht, found⟩ := Option.bind_eq_some_iff.mp found
    cases found
    exact isRouted_of_place? distinct sizes nodeGap rankGap header rows laid tidy.outline he known
      hs ht drawn

end Layout

theorem layout_routes_circle :
    let s : Settings ℚ := ⟨260, 45, 36, 20, 120, 80, 0, 40⟩
    let ids := circle.1.map (·.id)
    (ids.Nodup ∧ (∀ n ∈ circle.1, 0 ≤ n.width ∧ 0 ≤ n.height) ∧ 0 ≤ s.nodeSep ∧
      0 < s.rankSep ∧ 0 ≤ s.headerHeight ∧ 0 ≤ s.rowHeight) ∧
    backEdges ids circle.2 = [2, 3] ∧
    ∃ r, layout? s circle.1 circle.2 = some r ∧
      List.Forall₂ (IsRouted s ids circle.2 r.nodes) (circle.2.zipIdx.take 4) r.routes := by
  intro s ids
  have distinct : ids.Nodup := by decide
  have sizes : ∀ n ∈ circle.1, 0 ≤ n.width ∧ 0 ≤ n.height := by decide
  have gaps : 0 ≤ s.nodeSep ∧ 0 < s.rankSep ∧ 0 ≤ s.headerHeight ∧ 0 ≤ s.rowHeight := by decide
  have closing : backEdges ids circle.2 = [2, 3] := by cbv
  have known : (circle.2.zipIdx.filter fun p => p.1.isKnown ids) = circle.2.zipIdx.take 4 := by
    decide
  obtain ⟨nodeGap, rankGap, header, rows⟩ := gaps
  obtain ⟨r, laid, -, routed⟩ :=
    layout_routes distinct sizes nodeGap rankGap header rows circle.2
  rw [known] at routed
  exact ⟨⟨distinct, sizes, nodeGap, rankGap, header, rows⟩, closing, r, laid, routed⟩

end SchemaGraph.Layout
