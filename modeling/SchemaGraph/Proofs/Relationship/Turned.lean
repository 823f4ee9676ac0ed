import SchemaGraph.Proofs.Relationship.Mark
import SchemaGraph.Proofs.Relationship.Rules

/-!
# Edges that are turned around

An edge that is written onto its child column is still found to have that column as its child. But
other edges may end at the column as well. One that has it as its child loses the reference that may
have made it so, and one that has it as its parent finds a foreign key there now, which may even
reference the child. In both cases the rules may choose the other end.
-/

namespace SchemaGraph

variable {α : Type} {tables : List (Table α)}

namespace Resolved

variable {k : Resolved} {p : Place}

theorem End.IsIn.mark {e : End} (h : e.IsIn tables) (k : Resolved) : e.IsIn (k.mark tables) := by
  obtain ⟨t, c, hp, table, column⟩ := h.holds
  obtain ⟨ht, hc⟩ := holds_mark_iff.mpr ⟨t, c, hp, rfl, rfl⟩
  exact ⟨_, ht, table, _, hc, (k.markAt_name _ _).trans column⟩

theorem exists_holds_mark_iff :
    (∃ t c, p.Holds (k.mark tables) t c) ↔ ∃ t c, p.Holds tables t c := by
  simp only [holds_mark_iff]
  constructor
  · rintro ⟨_, _, t, c, hp, -, -⟩
    exact ⟨t, c, hp⟩
  · rintro ⟨t, c, hp⟩
    exact ⟨_, _, t, c, hp, rfl, rfl⟩

/-- Flags that writing leaves alone are where they were. -/
theorem has_mark_iff {flag : Column → Bool} (same : ∀ c, flag (k.markAt p c) = flag c) :
    p.Has (k.mark tables) flag ↔ p.Has tables flag := by
  constructor
  · rintro ⟨t', c', hp', flagged⟩
    obtain ⟨t, c, hp, rfl, rfl⟩ := holds_mark_iff.mp hp'
    exact ⟨t, c, hp, (same c).symm.trans flagged⟩
  · rintro ⟨t, c, hp, flagged⟩
    exact ⟨_, _, holds_mark_iff.mpr ⟨t, c, hp, rfl, rfl⟩, (same c).trans flagged⟩

theorem isKey_mark_iff : IsKey (k.mark tables) p ↔ IsKey tables p :=
  has_mark_iff (k.markAt_isPrimaryKey p)

theorem isForeign_mark_child (child : k.child.IsIn tables) :
    IsForeign (k.mark tables) k.child.place := by
  obtain ⟨t, c, hp, -, -⟩ := child.holds
  refine ⟨_, _, holds_mark_iff.mpr ⟨t, c, hp, rfl, rfl⟩, ?_⟩
  rw [markAt_child]
  rfl

theorem isForeign_mark_iff_of_ne (other : p ≠ k.child.place) :
    IsForeign (k.mark tables) p ↔ IsForeign tables p :=
  has_mark_iff fun c => congrArg _ (markAt_of_ne other c)

/-- Foreign keys stay foreign keys. -/
theorem isForeign_mark (child : k.child.IsIn tables) (h : IsForeign tables p) :
    IsForeign (k.mark tables) p := by
  by_cases here : p = k.child.place
  · exact here ▸ isForeign_mark_child child
  · exact (isForeign_mark_iff_of_ne here).mpr h

end Resolved

namespace Relationship

variable {r new : Relationship} {p q : Place} {k k' m : Resolved}

/-- Writing an edge takes no end away from any edge. -/
theorem exists_resolve?_mark_iff :
    (∃ k, r.resolve? (m.mark tables) = some k) ↔ ∃ k, r.resolve? tables = some k := by
  simp only [exists_resolve?_iff_holds, Resolved.exists_holds_mark_iff]

theorem favors_mark_iff : r.Favors (m.mark tables) p q ↔ r.Favors tables p q := by
  simp only [Favors, Resolved.isKey_mark_iff]

/-- Once it is written onto its child column, an edge still has that column as its child: if the
parent references the child, they referenced each other before, and both were foreign keys. -/
theorem resolve?_mark_self (resolves : r.resolve? tables = some k) :
    ∃ k', r.resolve? (k.mark tables) = some k' ∧ k'.child = k.child ∧ k'.parent = k.parent := by
  obtain ⟨child, parent⟩ := ends_of_resolve? resolves
  obtain ⟨k', resolves'⟩ := exists_resolve?_mark_iff.mpr ⟨k, resolves⟩
  obtain ⟨child', parent'⟩ := ends_of_resolve? resolves'
  have joins := joins_of_resolve? resolves
  have joins' := joins_of_resolve? resolves'
  have sameChild : k'.child.place = k.child.place := by
    by_cases loop : k.child.place = k.parent.place
    · exact child_eq_of_loop resolves' (by rwa [← loop] at joins)
    · rw [child_eq_iff_chooses resolves' joins loop]
      have chosen := (child_eq_iff_chooses resolves joins loop).mp rfl
      have points : k.written.Names tables k.parent.place := Resolved.names_written_parent parent
      unfold Chooses at chosen ⊢
      rw [Resolved.refersTo_mark_child_iff child, Resolved.refersTo_mark_iff_of_ne (Ne.symm loop),
        Resolved.isForeign_mark_iff_of_ne (Ne.symm loop), favors_mark_iff]
      by_cases back : RefersTo tables k.parent.place k.child.place
      · obtain ⟨-, keys⟩ := (decides_iff_and back).mp chosen
        obtain ⟨-, favored⟩ := (decides_iff_and back.isForeign).mp keys
        exact (decides_iff_and back).mpr ⟨points, (decides_iff_and back.isForeign).mpr
          ⟨Resolved.isForeign_mark_child child, favored⟩⟩
      · exact .inl ⟨points, back⟩
  have sameParent : k'.parent.place = k.parent.place := joins.other_eq (sameChild ▸ joins')
  exact ⟨k', resolves', child'.eq_of_place (child.mark k) sameChild,
    parent'.eq_of_place (parent.mark k) sameParent⟩

/-- Another edge, once it is written, turns around an edge whose child, at the first place, is a
foreign key. It may be written onto the child, which then does not reference the parent any more,
while the parent references the child, or is a foreign key and favored. Or it may be written onto
the parent, and makes it alone reference the child, or it leaves that undecided and the parent is
favored. -/
def IsTurnedBy (r : Relationship) (tables : List (Table α)) (m : Resolved) (p q : Place) : Prop :=
  p ≠ q ∧
    ((m.child.place = p ∧ ¬ m.written.Names tables q ∧
        (RefersTo tables q p ∨ (IsForeign tables q ∧ r.Favors tables q p))) ∨
      (m.child.place = q ∧
        Decides (m.written.Names tables p) (RefersTo tables p q) (r.Favors tables q p)))

section OtherEdge

/-- An edge that does not end at the written column is left as it is. -/
theorem chooses_mark_iff_of_ne (atFirst : p ≠ m.child.place) (atSecond : q ≠ m.child.place) :
    r.Chooses (m.mark tables) p q ↔ r.Chooses tables p q := by
  simp only [Chooses, Resolved.refersTo_mark_iff_of_ne atFirst,
    Resolved.refersTo_mark_iff_of_ne atSecond, Resolved.isForeign_mark_iff_of_ne atFirst,
    Resolved.isForeign_mark_iff_of_ne atSecond, favors_mark_iff]

variable (child : m.child.IsIn tables) (other : p ≠ m.child.place)

include child other

/-- The parent of an edge that is written over at its child. -/
theorem chooses_mark_child_iff (before : ¬ r.Chooses tables p m.child.place)
    (foreign : IsForeign tables m.child.place) :
    r.Chooses (m.mark tables) p m.child.place ↔ ¬ m.written.Names tables p ∧
      (RefersTo tables p m.child.place ∨
        (IsForeign tables p ∧ r.Favors tables p m.child.place)) := by
  unfold Chooses at *
  rw [decides_iff_and foreign] at before
  rw [Resolved.refersTo_mark_iff_of_ne other, Resolved.refersTo_mark_child_iff child,
    decides_iff_and (Resolved.isForeign_mark_child child),
    Resolved.isForeign_mark_iff_of_ne other, favors_mark_iff]
  exact decides_iff_of_not before

/-- The parent of an edge that is itself written over. -/
theorem child_chooses_mark_iff (foreign : IsForeign tables p) :
    r.Chooses (m.mark tables) m.child.place p ↔ Decides (m.written.Names tables p)
      (RefersTo tables p m.child.place) (r.Favors tables m.child.place p) := by
  unfold Chooses
  rw [Resolved.refersTo_mark_iff_of_ne other, Resolved.refersTo_mark_child_iff child,
    decides_iff_and ((Resolved.isForeign_mark_iff_of_ne other).mpr foreign),
    and_iff_right (Resolved.isForeign_mark_child child), favors_mark_iff]

end OtherEdge

/-- An edge whose child is a foreign key keeps its child unless it is turned around. -/
theorem child_mark_eq_iff (resolves : r.resolve? tables = some k)
    (foreign : IsForeign tables k.child.place) (child : m.child.IsIn tables)
    (resolves' : r.resolve? (m.mark tables) = some k') :
    k'.child.place = k.child.place ↔ ¬ r.IsTurnedBy tables m k.child.place k.parent.place := by
  have joins := joins_of_resolve? resolves
  have chosen := child_eq_iff_chooses (p := k.child.place) resolves joins
  generalize k.child.place = p at *
  generalize k.parent.place = q at *
  unfold IsTurnedBy
  by_cases apart : p = q
  · subst apart
    simp [child_eq_of_loop resolves' joins]
  have before : ¬ r.Chooses tables q p :=
    (not_chooses_iff joins.symm (Ne.symm apart)).mpr ((chosen apart).mp rfl)
  rw [child_eq_iff_chooses resolves' joins apart, ← not_chooses_iff joins.symm (Ne.symm apart),
    not_iff_not, and_iff_right apart]
  by_cases atChild : m.child.place = p
  · subst atChild
    rw [chooses_mark_child_iff child (Ne.symm apart) before foreign]
    simp [apart]
  by_cases atParent : m.child.place = q
  · subst atParent
    rw [child_chooses_mark_iff child apart foreign]
    simp [atChild]
  · rw [chooses_mark_iff_of_ne (Ne.symm atParent) (Ne.symm atChild)]
    simp [before, atChild, atParent]

/-- The child of an edge is a foreign key after another edge is written, if it was one before. -/
theorem isForeign_child_mark (resolves : r.resolve? tables = some k)
    (foreign : IsForeign tables k.child.place) (child : m.child.IsIn tables)
    (resolves' : r.resolve? (m.mark tables) = some k') :
    IsForeign (m.mark tables) k'.child.place := by
  have joins := joins_of_resolve? resolves
  have joins' := joins_of_resolve? resolves'
  have kept : IsForeign (m.mark tables) k.child.place := Resolved.isForeign_mark child foreign
  by_cases same : k'.child.place = k.child.place
  · rwa [same]
  · -- The child that was given up is a foreign key, and only another one is chosen over it.
    have given : k'.parent.place = k.child.place :=
      ((joins.eq_or_swapped joins').resolve_left fun h => same h.1).2
    have chosen : r.Chooses (m.mark tables) k'.child.place k'.parent.place :=
      (child_eq_iff_chooses resolves' joins' (given ▸ same)).mp rfl
    rw [given] at chosen
    rcases chosen with ⟨refers, -⟩ | ⟨-, keys⟩
    · exact refers.isForeign
    · exact ((decides_iff_and kept).mp keys).1

end Relationship

end SchemaGraph
