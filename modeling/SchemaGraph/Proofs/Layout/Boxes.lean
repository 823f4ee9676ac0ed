import Mathlib.Algebra.BigOperators.Group.List.Basic
import Mathlib.Algebra.Order.BigOperators.Group.List
import Mathlib.Algebra.Order.Field.Basic
import Mathlib.Order.CompletePartialOrder
import Mathlib.Order.Interval.Set.Disjoint
import Mathlib.Tactic.Linarith
import Mathlib.Tactic.Ring
import SchemaGraph.Layout.Basic
import SchemaGraph.Layout.Placement

/-!
# Boxes on exact coordinates

On exact coordinates nothing is rounded, and boxes are laid out without an overlap.

## Exact coordinates

The numbers of an ordered field are coordinates with which nothing is rounded. With them halving is
halving, the largest number of a list is its maximum, and the total of a list is its sum.
-/

namespace SchemaGraph.Scalar

variable {K : Type} [Field K] [LinearOrder K]

instance (priority := low) ofLinearOrderedField : Scalar K where
  ofInt n := n
  ofInt? n := some n
  less a b := decide (a < b)
  isZero a := decide (a = 0)

@[simp] theorem ofInt_eq (n : Int) : (ofInt n : K) = n := rfl

@[simp] theorem half_eq (a : K) : half a = a / 2 := by
  simp [half]

@[simp] theorem total_eq (as : List K) : total as = as.sum := by
  rw [List.sum_eq_foldl, total, ofInt_eq, Int.cast_zero]

theorem larger_eq_max (a b : K) : larger a b = max a b := by
  unfold larger
  split
  · rename_i less
    exact (max_eq_right (of_decide_eq_true less).le).symm
  · rename_i notLess
    exact (max_eq_left (not_lt.mp fun less => notLess (decide_eq_true less))).symm

theorem largest?_eq (as : List K) : largest? as = as.max? := by
  cases as with
  | nil => rfl
  | cons a as =>
      have same : (larger : K → K → K) = max := funext fun a => funext (larger_eq_max a)
      rw [largest?, List.max?_cons', same]

theorem exists_largest? {as : List K} (h : as ≠ []) :
    ∃ a, largest? as = some a ∧ a ∈ as ∧ ∀ b ∈ as, b ≤ a := by
  rw [largest?_eq]
  obtain ⟨a, ha⟩ := Option.ne_none_iff_exists'.mp fun none => h (List.max?_eq_none_iff.mp none)
  exact ⟨a, ha, List.max?_eq_some_iff.mp ha⟩

end SchemaGraph.Scalar

/-!
## Boxes that do not overlap

A stack fills a stretch of its column from the top down, and the columns fill the layout from left
to right. So of two boxes the one that was set first ends where the other one begins, or before,
either downwards or to the right. Sizes and gaps must not be negative.
-/

namespace SchemaGraph.Layout

namespace Node

/-- What the layout leaves of a box: all but its position. -/
def outline {α : Type} (n : Node α) : String × α × α := (n.id, n.width, n.height)

variable {K : Type} [Field K] [LinearOrder K]

/-- The points inside a box. -/
def interior (n : Node K) : Set (K × K) :=
  Set.Ioo n.position.x n.right ×ˢ Set.Ioo n.position.y n.bottom

/-- A box ends above the other one or to the left of it. -/
def Before (a b : Node K) : Prop := a.bottom ≤ b.position.y ∨ a.right ≤ b.position.x

theorem Before.disjoint {a b : Node K} (h : a.Before b) : Disjoint a.interior b.interior := by
  rw [interior, interior, Set.disjoint_prod]
  rcases h with above | left
  · exact .inr (Set.disjoint_left.mpr fun y ha hb => not_lt.mpr above (hb.1.trans ha.2))
  · exact .inl (Set.disjoint_left.mpr fun x ha hb => not_lt.mpr left (hb.1.trans ha.2))

/-- A box lies in a rectangle. -/
structure IsWithin (left right top bottom : K) (n : Node K) : Prop where
  left : left ≤ n.position.x
  right : n.right ≤ right
  top : top ≤ n.position.y
  bottom : n.bottom ≤ bottom

theorem IsWithin.mono {left left' right right' top top' bottom bottom' : K} {n : Node K}
    (h : n.IsWithin left right top bottom) (hl : left' ≤ left) (hr : right ≤ right')
    (ht : top' ≤ top) (hb : bottom ≤ bottom') : n.IsWithin left' right' top' bottom' :=
  ⟨hl.trans h.left, h.right.trans hr, ht.trans h.top, h.bottom.trans hb⟩

end Node

theorem stack_outline {α : Type} [Scalar α] (s : Settings α) (centerX top : α)
    (ns : List (Node α)) : (stack s centerX top ns).map Node.outline = ns.map Node.outline := by
  induction ns generalizing top with
  | nil => rfl
  | cons n ns ih =>
      rw [stack, List.map_cons, List.map_cons, ih]
      rfl

theorem placeColumns_outline {α : Type} [Scalar α] (s : Settings α) (tallest left : α)
    (cs : List (Column α)) : (placeColumns s tallest left cs).map Node.outline =
      (cs.flatMap (·.nodes)).map Node.outline := by
  induction cs generalizing left with
  | nil => rfl
  | cons c cs ih => rw [placeColumns, List.map_append, stack_outline, ih, List.flatMap_cons,
      List.map_append]

variable {K : Type} [Field K] [LinearOrder K]

/-- Some lengths with a gap between each two of them. There is one gap less than there are
lengths. -/
def extent (gap : K) (lengths : List K) : K := lengths.sum + gap * (lengths.length - 1)

theorem extent_cons (gap a : K) (as : List K) :
    extent gap (a :: as) = a + gap + extent gap as := by
  simp only [extent, List.sum_cons, List.length_cons, Nat.cast_succ]
  ring

/-- A column is as wide as its widest box and as high as its boxes with the gaps between them. -/
structure Column.IsFit (s : Settings K) (c : Column K) : Prop where
  widths : ∀ n ∈ c.nodes, n.width ≤ c.width
  heights : ∀ n ∈ c.nodes, 0 ≤ n.height
  width : 0 ≤ c.width
  height : c.height = extent s.nodeSep (c.nodes.map (·.height))

theorem exists_column? (s : Settings K) {ns : List (Node K)} (h : ns ≠ [])
    (sizes : ∀ n ∈ ns, 0 ≤ n.width ∧ 0 ≤ n.height) :
    ∃ c, column? s ns = some c ∧ c.nodes = ns ∧ c.IsFit s := by
  have given : ns.map (·.width) ≠ [] := by simpa using h
  obtain ⟨w, hw, widest, widths⟩ := Scalar.exists_largest? given
  refine ⟨⟨ns, w, extent s.nodeSep (ns.map (·.height))⟩, ?_, rfl, ?_⟩
  · simp [column?, hw, extent]
  · refine ⟨List.forall_mem_map.mp widths, fun n hn => (sizes n hn).2, ?_, rfl⟩
    obtain ⟨n, hn, rfl⟩ := List.mem_map.mp widest
    exact (sizes n hn).1

variable [IsStrictOrderedRing K]

theorem le_extent {gap a : K} {as : List K} (hg : 0 ≤ gap) (h : ∀ b ∈ as, 0 ≤ b) :
    a ≤ extent gap (a :: as) := by
  have rest : 0 ≤ as.sum := List.sum_nonneg h
  have gaps : 0 ≤ gap * as.length := mul_nonneg hg (Nat.cast_nonneg _)
  simp only [extent, List.sum_cons, List.length_cons, Nat.cast_succ, add_sub_cancel_right]
  linarith

section Stack

variable {s : Settings K} {ns : List (Node K)}

theorem stack_horizontal {w : K} (widths : ∀ n ∈ ns, n.width ≤ w) (centerX top : K) :
    ∀ n ∈ stack s centerX top ns,
      centerX - w / 2 ≤ n.position.x ∧ n.right ≤ centerX + w / 2 := by
  induction ns generalizing top with
  | nil =>
      intro n hn
      cases hn
  | cons m ns ih =>
      obtain ⟨width, widths⟩ := List.forall_mem_cons.mp widths
      intro n hn
      rcases List.mem_cons.mp hn with rfl | hn
      · constructor <;> simp only [Node.right, Scalar.half_eq] <;> linarith
      · exact ih widths _ n hn

theorem stack_vertical (gap : 0 ≤ s.nodeSep) (heights : ∀ n ∈ ns, 0 ≤ n.height)
    (centerX top : K) : ∀ n ∈ stack s centerX top ns, top ≤ n.position.y ∧
      n.bottom ≤ top + extent s.nodeSep (ns.map (·.height)) := by
  induction ns generalizing top with
  | nil =>
      intro n hn
      cases hn
  | cons m ns ih =>
      obtain ⟨height, heights⟩ := List.forall_mem_cons.mp heights
      intro n hn
      rw [List.map_cons]
      rcases List.mem_cons.mp hn with rfl | hn
      · have first := le_extent (a := m.height) gap (List.forall_mem_map.mpr heights)
        constructor <;> simp only [Node.bottom, Scalar.half_eq] <;> linarith
      · obtain ⟨above, below⟩ := ih heights _ n hn
        rw [extent_cons]
        exact ⟨by linarith, by linarith⟩

/-- Each box of a stack ends before the ones below it begin. -/
theorem stack_pairwise (gap : 0 ≤ s.nodeSep) (heights : ∀ n ∈ ns, 0 ≤ n.height)
    (centerX top : K) : (stack s centerX top ns).Pairwise Node.Before := by
  induction ns generalizing top with
  | nil => exact .nil
  | cons m ns ih =>
      obtain ⟨height, heights⟩ := List.forall_mem_cons.mp heights
      refine .cons ?_ (ih heights _)
      intro n hn
      obtain ⟨below, -⟩ := stack_vertical gap heights _ _ n hn
      refine .inl ?_
      simp only [Node.bottom, Scalar.half_eq]
      linarith

end Stack

section Columns

variable {s : Settings K} {tallest : K} {cs : List (Column K)} (nodeGap : 0 ≤ s.nodeSep)
  (rankGap : 0 ≤ s.rankSep) (fit : ∀ c ∈ cs, c.IsFit s) (lower : ∀ c ∈ cs, c.height ≤ tallest)

include nodeGap

theorem column_within {c : Column K} (fit : c.IsFit s) (lower : c.height ≤ tallest) (left : K) :
    ∀ n ∈ stack s (left + Scalar.half c.width) (s.margin + Scalar.half (tallest - c.height))
        c.nodes,
      n.IsWithin left (left + c.width) s.margin (s.margin + tallest) := by
  intro n hn
  obtain ⟨fromLeft, toRight⟩ := stack_horizontal fit.widths _ _ n hn
  obtain ⟨fromTop, toBottom⟩ := stack_vertical nodeGap fit.heights _ _ n hn
  rw [← fit.height] at toBottom
  simp only [Scalar.half_eq] at fromLeft toRight fromTop toBottom
  constructor <;> linarith

include rankGap fit lower

theorem placeColumns_within (left : K) : ∀ n ∈ placeColumns s tallest left cs,
    n.IsWithin left (left + extent s.rankSep (cs.map (·.width))) s.margin
      (s.margin + tallest) := by
  induction cs generalizing left with
  | nil =>
      intro n hn
      cases hn
  | cons c cs ih =>
      obtain ⟨here, fit⟩ := List.forall_mem_cons.mp fit
      obtain ⟨high, lower⟩ := List.forall_mem_cons.mp lower
      intro n hn
      rw [List.map_cons]
      rcases List.mem_append.mp hn with hn | hn
      · have first := le_extent (a := c.width) rankGap
          (List.forall_mem_map.mpr fun c hc => (fit c hc).width)
        exact (column_within nodeGap here high left n hn).mono le_rfl (by linarith) le_rfl le_rfl
      · have rest := ih fit lower _ n hn
        have width := here.width
        rw [extent_cons]
        exact rest.mono (by linarith) (by linarith) le_rfl le_rfl

/-- Boxes of one column follow each other downwards, and boxes of two columns to the right. -/
theorem placeColumns_pairwise (left : K) :
    (placeColumns s tallest left cs).Pairwise Node.Before := by
  induction cs generalizing left with
  | nil => exact .nil
  | cons c cs ih =>
      obtain ⟨here, fit⟩ := List.forall_mem_cons.mp fit
      obtain ⟨high, lower⟩ := List.forall_mem_cons.mp lower
      rw [placeColumns, List.pairwise_append]
      refine ⟨stack_pairwise nodeGap here.heights _ _, ih fit lower _, ?_⟩
      intro a ha b hb
      have ends := (column_within nodeGap here high left a ha).right
      have begins := (placeColumns_within nodeGap rankGap fit lower _ b hb).left
      exact .inr (by linarith)

end Columns

end SchemaGraph.Layout
