import Mathlib.Tactic.Tauto
import SchemaGraph.Proofs.Relationship.Between

/-!
# Which of two places is the child

The rules that find the child of an edge are asked one after another. Each looks for something that
one end of the edge alone may have: a reference to the other end, the part of a foreign key, not
being a primary key. At last the drawn direction decides. Here this is said about the places of the
two ends, so that it can be compared in different states of the columns, and seen from either end.
-/

namespace SchemaGraph

variable {α : Type} {tables : List (Table α)} {p q : Place}

/-- The first one alone has what a rule looks for, or the rule does not tell the two apart and the
rest decides for the first one. -/
def Decides (first second rest : Prop) : Prop := (first ∧ ¬ second) ∨ ((first ↔ second) ∧ rest)

theorem not_decides_iff {a b c : Prop} : ¬ Decides a b c ↔ Decides b a (¬ c) := by
  unfold Decides
  tauto

theorem decides_iff_and {a b c : Prop} (h : b) : Decides a b c ↔ a ∧ c := by
  unfold Decides
  tauto

/-- If the first one was passed over, a change of the second one makes up for it only if the second
one then lacks what the rule looks for. -/
theorem decides_iff_of_not {a b b' c : Prop} (before : ¬ Decides a b c) :
    Decides a b' c ↔ ¬ b' ∧ (a ∨ c) := by
  unfold Decides at *
  tauto

/-- There is a column at a place, and it has a flag. -/
def Place.Has (p : Place) (tables : List (Table α)) (flag : Column → Bool) : Prop :=
  ∃ t c, p.Holds tables t c ∧ flag c = true

theorem Place.Holds.has_iff {t : Table α} {c : Column} (h : p.Holds tables t c)
    {flag : Column → Bool} : p.Has tables flag ↔ flag c = true := by
  refine ⟨?_, fun flagged => ⟨t, c, h, flagged⟩⟩
  rintro ⟨u, d, h', flagged⟩
  rwa [(h.unique h').2]

/-- The column at a place acts as a foreign key. -/
def IsForeign (tables : List (Table α)) (p : Place) : Prop := p.Has tables Column.actsAsForeignKey

/-- The column at a place is a primary key. -/
def IsKey (tables : List (Table α)) (p : Place) : Prop := p.Has tables Column.isPrimaryKey

theorem RefersTo.isForeign (h : RefersTo tables p q) : IsForeign tables p := by
  obtain ⟨t, c, u, d, hp, -, points⟩ := h
  exact ⟨t, c, hp, Column.actsAsForeignKey_of_pointsAt points⟩

namespace Relationship

variable {r : Relationship} {k : Resolved}

/-- The primary keys, or at last the drawn direction, speak for one place as the child rather than
another one. -/
def Favors (r : Relationship) (tables : List (Table α)) (p q : Place) : Prop :=
  Decides (IsKey tables q) (IsKey tables p) (r.sourcePlace = p)

/-- All rules together speak for one place as the child rather than another one. -/
def Chooses (r : Relationship) (tables : List (Table α)) (p q : Place) : Prop :=
  Decides (RefersTo tables p q) (RefersTo tables q p)
    (Decides (IsForeign tables p) (IsForeign tables q) (r.Favors tables p q))

/-- Of the two ends of an edge, the rules speak for exactly one. -/
theorem not_chooses_iff (joins : r.Joins p q) (apart : p ≠ q) :
    ¬ r.Chooses tables p q ↔ r.Chooses tables q p := by
  have drawn : ¬ r.sourcePlace = p ↔ r.sourcePlace = q := by
    rcases joins with ⟨rfl, rfl⟩ | ⟨rfl, rfl⟩
    · simp [apart]
    · simp [apart.symm]
  simp only [Chooses, Favors, not_decides_iff, drawn]

/-- The source of an edge is the child if the rules speak for it. -/
theorem Between.sourceIsChild_iff_chooses (e : r.Between tables) :
    e.sourceIsChild = true ↔ r.Chooses tables r.sourcePlace r.targetPlace := by
  unfold Chooses Favors Decides
  rw [RefersTo.pointsAt_iff e.atSource e.atTarget, RefersTo.pointsAt_iff e.atTarget e.atSource,
    IsForeign, IsForeign, IsKey, IsKey, e.atSource.has_iff, e.atTarget.has_iff,
    e.atSource.has_iff, e.atTarget.has_iff]
  unfold sourceIsChild pointing? sourceByKeys Column.pointing? Column.sourceByKeys
  cases e.sourceColumn.pointsAt (some e.target.name) e.targetColumn <;>
    cases e.targetColumn.pointsAt (some e.source.name) e.sourceColumn <;>
    cases e.sourceColumn.actsAsForeignKey <;> cases e.targetColumn.actsAsForeignKey <;>
    cases e.sourceColumn.isPrimaryKey <;> cases e.targetColumn.isPrimaryKey <;> simp

/-- The child of an edge between two columns is the one that the rules speak for. -/
theorem child_eq_iff_chooses (resolves : r.resolve? tables = some k) (joins : r.Joins p q)
    (apart : p ≠ q) : k.child.place = p ↔ r.Chooses tables p q := by
  obtain ⟨e, rfl⟩ := exists_between_of_resolve? resolves
  have places := e.places_resolved
  have source : e.sourceIsChild = true ↔ r.Chooses tables r.sourcePlace r.targetPlace :=
    e.sourceIsChild_iff_chooses
  rcases joins with ⟨rfl, rfl⟩ | ⟨rfl, rfl⟩
  · rw [← source]
    cases h : e.sourceIsChild <;> simp_all [apart.symm]
  · rw [← not_chooses_iff (.inl ⟨rfl, rfl⟩) apart.symm, ← source]
    cases h : e.sourceIsChild <;> simp_all [apart.symm]

end Relationship

end SchemaGraph
