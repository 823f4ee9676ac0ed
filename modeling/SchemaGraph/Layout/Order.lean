import SchemaGraph.Layout.Rank

/-!
# The order within a rank

The vertices of a rank form a layer. The first layer keeps the order given, and each later one is
sorted by the mean place of the predecessors that have one, in exact fractions. Equal means keep
the order given. A vertex without a placed predecessor is sorted by its own place in that order.
-/

namespace SchemaGraph.Layout

/-- A mean as a sum and the number of its summands. -/
structure Mean where
  sum : Nat
  count : Nat
  deriving Repr, DecidableEq

namespace Mean

def less (a b : Mean) : Bool := a.sum * b.count < b.sum * a.count

def same (a b : Mean) : Bool := a.sum * b.count == b.sum * a.count

end Mean

/-- The last place of a vertex in a list. -/
def lastIndex (ids : List String) (v : String) : Nat :=
  ids.length - 1 - ids.reverse.idxOf v

/-- The place of a vertex in its layer, for the layers sorted so far. -/
abbrev Slots := String → Option Nat

def Slots.put (slots : Slots) (layer : List String) : Slots := fun v =>
  if layer.contains v then some (lastIndex layer v) else slots v

/-- The mean place of the placed predecessors. -/
def barycenter (sources : List String) (slots : Slots) (index : Nat) : Mean :=
  match sources.filterMap slots with
  | [] => ⟨index, 1⟩
  | placed => ⟨placed.foldl (· + ·) 0, placed.length⟩

def sourcesInto (edges : List Edge) (v : String) : List String :=
  edges.filterMap fun e => if e.target == v then some e.source else none

/-- By barycenter, then by the order given. -/
def precedes (ids : List String) (forward : List Edge) (slots : Slots) (v w : String) : Bool :=
  let a := barycenter (sourcesInto forward v) slots (lastIndex ids v)
  let b := barycenter (sourcesInto forward w) slots (lastIndex ids w)
  a.less b || (a.same b && lastIndex ids v ≤ lastIndex ids w)

def sortLayers (ids : List String) (forward : List Edge) : Slots → List (List String) →
    List (List String)
  | _, [] => []
  | slots, layer :: rest =>
    let sorted := layer.mergeSort (precedes ids forward slots)
    sorted :: sortLayers ids forward (slots.put sorted) rest

/-- Sort all layers but the first. -/
def orderLayers (ids : List String) (edges : List Edge) : List (List String) → List (List String)
  | [] => []
  | first :: rest =>
    first :: sortLayers ids (forwardEdges ids edges) (Slots.put (fun _ => none) first) rest

/-- For each rank below a bound, the vertices that have it. -/
def layersBelow (bound : Nat) (ranked : List (String × Nat)) : List (List String) :=
  (List.range bound).map fun r => ranked.filterMap fun (v, i) => if i == r then some v else none

def rankBound (ranked : List (String × Nat)) : Nat :=
  (ranked.map fun (_, r) => r + 1).foldl max 0

/-- The layers of a graph, from left to right. -/
def layers (ids : List String) (edges : List Edge) : List (List String) :=
  let ranked := rankedVertices ids edges
  orderLayers ids edges (layersBelow (rankBound ranked) ranked)

/-- The layer that a given rank means. Negative ranks count from the last layer back. -/
def layerIndex? (bound : Nat) (rank : Int) : Option Nat :=
  let r := if rank < 0 then rank + bound else rank
  if 0 ≤ r && r < bound then some r.toNat else none

inductive LayerFault where
  | unranked (id : String)
  | noLayer (rank : Int)

/-- The layers for ranks that come from elsewhere: a vertex may lack one, or have one outside. -/
def layersGiven (ids : List String) (edges : List Edge) (given : List (String × Int)) :
    Except LayerFault (List (List String)) := do
  let bound := ((given.map fun (g : String × Int) => g.2 + 1).foldl max 0).toNat
  let ranked ← ids.mapM fun v =>
    match given.lookup v with
    | none => .error (.unranked v)
    | some r =>
      match layerIndex? bound r with
      | none => .error (.noLayer r)
      | some i => .ok (v, i)
  return orderLayers ids edges (layersBelow bound ranked)

end SchemaGraph.Layout
