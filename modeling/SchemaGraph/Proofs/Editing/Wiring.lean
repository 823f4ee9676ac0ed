import SchemaGraph.Proofs.Editing.Connect
import SchemaGraph.Proofs.Relationship.Turned

/-!
# Connections and the foreign keys before them

A connection is resolved and then written onto its child column. It keeps that child, whatever the
columns looked like before. A column has room for one reference, though, and may be at the end of
many edges, so a connection may take away what decided about an edge that was there before. After
connections only, every child is a foreign key, and there are just two ways in which an edge comes
to have its child at the other end.
-/

namespace SchemaGraph.Editing

open Relationship

variable {α : Type} {s s' : State α} {d : RelationshipDraft} {supply : Supply}

/-- A connection adds an edge, and writes it onto its child column if it has one. -/
theorem exists_of_connectColumns (success : ((connectColumns d s).runOn supply).1 = .ok s') :
    ∃ new : Relationship, s'.relationships = s.relationships ++ [new] ∧
      (new.resolve? s.tables = none ∧ s'.tables = s.tables ∨
        ∃ m, new.resolve? s.tables = some m ∧ s'.tables = m.mark s.tables) := by
  obtain ⟨new, -, -, -, rfl⟩ := connectColumns_ensures d s supply s' success
  refine ⟨new, rfl, ?_⟩
  cases resolves : new.resolve? s.tables with
  | none => exact .inl ⟨rfl, by simp only [markAll, List.foldl_cons, List.foldl_nil, resolves]⟩
  | some m =>
      exact .inr ⟨m, rfl, by simp only [markAll, List.foldl_cons, List.foldl_nil, resolves]⟩

/-- A connection that resolves does so in the schema that it makes, and with the same child and the
same parent. The child is a foreign key there and references the parent by name. -/
theorem connectColumns_settles (success : ((connectColumns d s).runOn supply).1 = .ok s') :
    ∃ new : Relationship, s'.relationships = s.relationships ++ [new] ∧
      ∀ k, new.resolve? s.tables = some k → ∃ k', new.resolve? s'.tables = some k' ∧
        k'.child = k.child ∧ k'.parent = k.parent ∧
        ∃ t c, k'.child.place.Holds s'.tables t c ∧ c.isForeignKey = true ∧
          c.references = some ⟨k'.parentTable, k'.parentColumn⟩ := by
  obtain ⟨new, added, outcome⟩ := exists_of_connectColumns success
  refine ⟨new, added, fun k resolves => ?_⟩
  obtain ⟨none, -⟩ | ⟨m, resolves', marked⟩ := outcome
  · cases none.symm.trans resolves
  obtain rfl : k = m := Option.some.inj (resolves.symm.trans resolves')
  obtain ⟨k', again, child, parent⟩ := resolve?_mark_self resolves
  obtain ⟨t, c, held, -, -⟩ := (ends_of_resolve? resolves).1.holds
  rw [marked]
  have table : k'.parentTable = k.parentTable := congrArg Resolved.End.table parent
  have column : k'.parentColumn = k.parentColumn := congrArg Resolved.End.column parent
  refine ⟨k', again, child, parent, ?_⟩
  rw [child, table, column]
  refine ⟨_, _, Resolved.holds_mark_iff.mpr ⟨t, c, held, rfl, rfl⟩, ?_⟩
  rw [k.markAt_child]
  exact ⟨rfl, rfl⟩

/-- The order is the child, though the edge was drawn from the customer. -/
theorem connectColumns_settles_orders :
    let s := unlinked (State.orders Position.origin)
    let s' : State Float :=
      { s with relationships := [orderPlaced], tables := markAll s.tables [orderPlaced] }
    ((connectColumns (drawn orderPlaced) s).runOn ⟨toString, 0⟩).1 = .ok s' ∧
      ∃ k', orderPlaced.resolve? s'.tables = some k' ∧ k'.signature = ["t2", "c2", "t1", "c1"] ∧
        ∃ t c, k'.child.place.Holds s'.tables t c ∧ c.references = some ⟨"customers", "id"⟩ := by
  intro s s'
  have success : ((connectColumns (drawn orderPlaced) s).runOn ⟨toString, 0⟩).1 = .ok s' := by rfl
  obtain ⟨new, added, settles⟩ := connectColumns_settles success
  obtain rfl : orderPlaced = new := List.singleton_injective added
  obtain ⟨k', again, child, parent, t, c, held, -, references⟩ := settles _ rfl
  have table : k'.parentTable = "customers" := congrArg Resolved.End.table parent
  have column : k'.parentColumn = "id" := congrArg Resolved.End.column parent
  refine ⟨success, k', again, ?_, t, c, held, by rw [references, table, column]⟩
  rw [Resolved.signature_eq_pair, child, parent]
  rfl

/-- Connecting columns one pair after another leads from one schema to another. -/
inductive Wired (s : State α) : State α → Prop
  | start : Wired s s
  | connect {s' s'' : State α} (d : RelationshipDraft) (supply : Supply) (before : Wired s s')
      (success : ((connectColumns d s').runOn supply).1 = .ok s'') : Wired s s''

/-- The child of every edge is a foreign key. -/
def ChildrenForeign (s : State α) : Prop :=
  ∀ r ∈ s.relationships, ∀ k, r.resolve? s.tables = some k → IsForeign s.tables k.child.place

theorem ChildrenForeign.connect (h : ChildrenForeign s)
    (success : ((connectColumns d s).runOn supply).1 = .ok s') : ChildrenForeign s' := by
  obtain ⟨new, added, outcome⟩ := exists_of_connectColumns success
  intro r hr k' resolves'
  rw [added, List.mem_append, List.mem_singleton] at hr
  obtain ⟨none, same⟩ | ⟨m, resolves, marked⟩ := outcome
  · rw [same] at resolves' ⊢
    rcases hr with hr | rfl
    · exact h r hr k' resolves'
    · cases none.symm.trans resolves'
  · have child := (ends_of_resolve? resolves).1
    rw [marked] at resolves' ⊢
    rcases hr with hr | rfl
    · obtain ⟨k, before⟩ := exists_resolve?_mark_iff.mp ⟨k', resolves'⟩
      exact isForeign_child_mark before (h r hr k before) child resolves'
    · obtain ⟨k, again, sameChild, -⟩ := resolve?_mark_self resolves
      obtain rfl : k' = k := Option.some.inj (resolves'.symm.trans again)
      rw [sameChild]
      exact Resolved.isForeign_mark_child child

theorem Wired.childrenForeign (h : Wired s s') (noEdges : s.relationships = []) :
    ChildrenForeign s' := by
  induction h with
  | start =>
      intro r hr
      rw [noEdges] at hr
      cases hr
  | connect d supply _ success ih => exact ih.connect success

/-- After connections only, a further one leaves the edges that were there as they are, apart from
those that it turns around: these have their child and their parent swapped. -/
theorem Wired.keeps_signature_iff {s₀ : State α} (h : Wired s₀ s) (noEdges : s₀.relationships = [])
    (success : ((connectColumns d s).runOn supply).1 = .ok s') :
    ∃ new : Relationship, s'.relationships = s.relationships ++ [new] ∧ ∀ r ∈ s.relationships,
      (r.resolve? s.tables = none → r.resolve? s'.tables = none) ∧
      ∀ k, r.resolve? s.tables = some k → ∃ k', r.resolve? s'.tables = some k' ∧
        (k'.signature = k.signature ∨ k'.signature = k.parent.place.pair k.child.place) ∧
        (k'.signature = k.signature ↔ ¬ ∃ m, new.resolve? s.tables = some m ∧
          r.IsTurnedBy s.tables m k.child.place k.parent.place) := by
  obtain ⟨new, added, outcome⟩ := exists_of_connectColumns success
  refine ⟨new, added, fun r hr => ?_⟩
  obtain ⟨none, same⟩ | ⟨m, resolves, marked⟩ := outcome
  · rw [same]
    refine ⟨id, fun k before => ⟨k, before, .inl rfl, iff_of_true rfl ?_⟩⟩
    rintro ⟨m, resolves, -⟩
    cases none.symm.trans resolves
  · have child := (ends_of_resolve? resolves).1
    rw [marked]
    refine ⟨fun none => ?_, fun k before => ?_⟩
    · refine Option.eq_none_iff_forall_ne_some.mpr fun k' after => ?_
      obtain ⟨k, before⟩ := exists_resolve?_mark_iff.mp ⟨k', after⟩
      cases none.symm.trans before
    · obtain ⟨k', after⟩ := exists_resolve?_mark_iff.mpr ⟨k, before⟩
      refine ⟨k', after, signature_eq_or_swapped before after, ?_⟩
      rw [signature_eq_iff_child_eq before after,
        child_mark_eq_iff before (h.childrenForeign noEdges r hr k before) child after, resolves]
      simp only [Option.some.injEq, exists_eq_left']

/-- Visits name what was shown, a badge or a pass. -/
def visits (shown : ColumnReference) (edges : List Relationship) : State Float where
  tables := [
    { id := "v", name := "visits", position := Position.origin
      columns := [
        { id := "v1", name := "shown", isForeignKey := true, references := some shown }] },
    { id := "b", name := "badges", position := Position.origin
      columns := [{ id := "b1", name := "code", isForeignKey := true }] },
    { id := "p", name := "passes", position := Position.origin
      columns := [{ id := "p1", name := "number" }] }]
  relationships := edges

/-- Drawn from the badge, but the visit names it. -/
def badgeShown : Relationship :=
  { id := "e1", source := "b", sourceColumn := "b1", target := "v", targetColumn := "v1" }

def passShown : Relationship :=
  { id := "e2", source := "v", sourceColumn := "v1", target := "p", targetColumn := "p1" }

-- The drafts carry an id, so none is drawn.
theorem connect_badgeShown (supply : Supply) :
    ((connectColumns (drawn badgeShown) (visits ⟨"badges", "code"⟩ [])).runOn supply).1 =
      .ok (visits ⟨"badges", "code"⟩ [badgeShown]) := by rfl

theorem connect_passShown (supply : Supply) :
    ((connectColumns (drawn passShown) (visits ⟨"badges", "code"⟩ [badgeShown])).runOn supply).1 =
      .ok (visits ⟨"passes", "number"⟩ [badgeShown, passShown]) := by rfl

theorem wired_badgeShown :
    Wired (visits ⟨"badges", "code"⟩ []) (visits ⟨"badges", "code"⟩ [badgeShown]) :=
  .connect _ ⟨toString, 0⟩ .start (connect_badgeShown _)

theorem Wired.keeps_signature_iff_visits :
    let s := visits ⟨"badges", "code"⟩ [badgeShown]
    Wired (visits ⟨"badges", "code"⟩ []) s ∧ (visits ⟨"badges", "code"⟩ []).relationships = [] ∧
      ∃ k m, badgeShown.resolve? s.tables = some k ∧ passShown.resolve? s.tables = some m ∧
        badgeShown.IsTurnedBy s.tables m k.child.place k.parent.place := by
  intro s
  obtain ⟨new, added, keeps⟩ :=
    wired_badgeShown.keeps_signature_iff rfl (connect_passShown ⟨toString, 1⟩)
  obtain rfl : passShown = new := by simpa [visits] using added
  obtain ⟨-, keeps⟩ := keeps badgeShown List.mem_cons_self
  obtain ⟨k', after, -, iff⟩ := keeps _ rfl
  refine ⟨wired_badgeShown, rfl, _, _, rfl, rfl, ?_⟩
  have turned : k'.signature = ["b", "b1", "v", "v1"] := by
    cases after
    rfl
  by_contra unturned
  have same := iff.mpr (by
    rintro ⟨m, resolves, h⟩
    cases resolves
    exact unturned h)
  rw [turned] at same
  exact absurd same (by decide)

/-- The visit comes to name the pass, and nothing but the drawn direction is left to say which of
visit and badge is the child. -/
theorem not_keeps_signature_visits :
    ∃ s₀ s s' : State Float, ∃ (d : RelationshipDraft) (supply : Supply),
      Wired s₀ s ∧ s₀.relationships = [] ∧ ((connectColumns d s).runOn supply).1 = .ok s' ∧
        ∃ r ∈ s.relationships,
          (r.resolve? s.tables).map Resolved.signature = some ["v", "v1", "b", "b1"] ∧
          (r.resolve? s'.tables).map Resolved.signature = some ["b", "b1", "v", "v1"] :=
  ⟨_, _, _, _, ⟨toString, 1⟩, wired_badgeShown, rfl, connect_passShown _, badgeShown,
    List.mem_cons_self, rfl, rfl⟩

end SchemaGraph.Editing
