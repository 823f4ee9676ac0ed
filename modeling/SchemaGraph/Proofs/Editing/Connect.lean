import SchemaGraph.Proofs.Editing.Linked
import SchemaGraph.Proofs.Relationship.Mark

/-!
# Schemas put together by connecting columns

Connecting two columns draws an edge and writes it onto its child column. If every child is a column
that holds no reference yet, then after any number of connections the edges draw the references and
no two columns reference each other. So it makes no difference whether the edges that were drawn are
kept or the edges are derived from the references afterwards.
-/

namespace SchemaGraph.Editing

open Relationship

variable {α : Type} {s s' : State α} {r : Relationship} {k : Resolved}

/-- The column that an edge makes the child holds no reference. -/
def ChildIsFree (s : State α) (r : Relationship) : Prop :=
  ∀ k ∈ r.resolve? s.tables, ∀ t ∈ s.tables, t.id = k.childTableId →
    ∀ c ∈ t.columns, c.id = k.childColumnId → c.references = none

instance (s : State α) (r : Relationship) : Decidable (ChildIsFree s r) :=
  inferInstanceAs (Decidable (∀ k ∈ r.resolve? s.tables, _))

/-- Connecting columns one pair after another leads from one schema to another. Every call succeeds,
and the edge that it adds makes a column the child that holds no reference so far. -/
inductive Connected (s : State α) : State α → Prop
  | start : Connected s s
  | connect {s' s'' : State α} (d : RelationshipDraft) (supply : Supply) (r : Relationship)
      (before : Connected s s') (success : ((connectColumns d s').runOn supply).1 = .ok s'')
      (added : s''.relationships = s'.relationships ++ [r]) (free : ChildIsFree s' r) :
      Connected s s''

/-- The edges of a schema and the references on its columns say the same. -/
structure Mirrored (s : State α) : Prop where
  distinct : Table.Distinct s.tables
  plain : Table.HavePlainIds s.tables
  met : Table.AllMet s.tables
  oneWay : Table.OneWay s.tables
  draw : Draw s.tables s.relationships

theorem Mirrored.of_unreferenced (distinct : Table.Distinct s.tables)
    (plain : Table.HavePlainIds s.tables)
    (unreferenced : ∀ t ∈ s.tables, ∀ c ∈ t.columns, c.references = none)
    (noEdges : s.relationships = []) : Mirrored s := by
  have none_refers (p q : Place) : ¬ RefersTo s.tables p q := by
    rintro ⟨t, c, u, d, hp, -, points⟩
    obtain ⟨ref, href, -⟩ := Column.pointsAt_iff.mp points
    rw [unreferenced t hp.mem.1 c hp.mem.2] at href
    cases href
  refine ⟨distinct, plain, ?_, ?_, ?_, ?_⟩
  · intro p t c hp references
    exact absurd (unreferenced t hp.mem.1 c hp.mem.2) references
  · intro p q refers
    exact absurd refers (none_refers p q)
  · intro p q refers
    exact absurd refers (none_refers p q)
  · rw [noEdges]
    intro r hr
    cases hr

theorem Mirrored.signatures_eq (h : Mirrored s) :
    signatures s.tables s.relationships = signatures s.tables (derive s.tables) :=
  h.draw.signatures_eq (draw_derive h.distinct h.plain h.met) h.oneWay

section Step

variable (resolves : r.resolve? s.tables = some k) (free : ChildIsFree s r)

include resolves free

theorem not_refersTo_of_free (q : Place) : ¬ RefersTo s.tables k.child.place q := by
  rintro ⟨t, c, u, d, hp, -, points⟩
  obtain ⟨ref, href, -⟩ := Column.pointsAt_iff.mp points
  have none := free k resolves t hp.mem.1 (congrArg Place.table hp.eq) c hp.mem.2
    (congrArg Place.column hp.eq)
  rw [none] at href
  cases href

/-- Had the parent referenced the child, it would be the child itself. -/
theorem eq_of_parent_refersTo (refers : RefersTo s.tables k.parent.place k.child.place) :
    k.parent.place = k.child.place := by
  have joins := (joins_of_resolve? resolves).symm
  obtain ⟨e, resolves', child, -⟩ := resolve?_of_refersTo (r := r) joins refers
    fun back => absurd back (not_refersTo_of_free resolves free _)
  obtain rfl : k = e := Option.some.inj (resolves.symm.trans resolves')
  exact child.symm

/-- A connection to a child without a reference keeps edges and references in step. -/
theorem Mirrored.connect (h : Mirrored s) :
    Mirrored { s with relationships := s.relationships ++ [r], tables := k.mark s.tables } := by
  obtain ⟨child, parent⟩ := ends_of_resolve? resolves
  have refersTo (p q : Place) :=
    Resolved.refersTo_mark_iff (p := p) (q := q) h.distinct child parent
  have unreferenced := not_refersTo_of_free resolves free
  refine ⟨Resolved.distinct_mark h.distinct k, Resolved.havePlainIds_mark h.plain k, ?_, ?_, ?_, ?_⟩
  · intro p t' c' hp' references
    obtain ⟨t, c, hp, rfl, rfl⟩ := Resolved.holds_mark_iff.mp hp'
    by_cases here : p = k.child.place
    · exact ⟨k.parent.place, (refersTo _ _).mpr (.inl ⟨here, rfl⟩)⟩
    · rw [Resolved.markAt, if_neg here] at references
      obtain ⟨q, refers⟩ := h.met p t c hp references
      exact ⟨q, (refersTo _ _).mpr (.inr ⟨here, refers⟩)⟩
  · intro p q there back
    rcases (refersTo p q).mp there with ⟨rfl, rfl⟩ | ⟨hp, there⟩
    · rcases (refersTo _ _).mp back with ⟨same, -⟩ | ⟨-, back⟩
      · exact same.symm
      · exact (eq_of_parent_refersTo resolves free back).symm
    · rcases (refersTo _ _).mp back with ⟨rfl, rfl⟩ | ⟨-, back⟩
      · exact eq_of_parent_refersTo resolves free there
      · exact h.oneWay p q there back
  · intro p q refers
    rcases (refersTo p q).mp refers with ⟨rfl, rfl⟩ | ⟨-, refers⟩
    · exact ⟨r, List.mem_append_right _ (List.mem_singleton_self r), joins_of_resolve? resolves⟩
    · obtain ⟨q', hq', joins⟩ := h.draw.drawn p q refers
      exact ⟨q', List.mem_append_left _ hq', joins⟩
  · intro r' hr'
    rcases List.mem_append.mp hr' with hr' | hr'
    · obtain ⟨p, q, refers, joins⟩ := h.draw.meant r' hr'
      refine ⟨p, q, (refersTo p q).mpr (.inr ⟨?_, refers⟩), joins⟩
      rintro rfl
      exact unreferenced q refers
    · obtain rfl := List.mem_singleton.mp hr'
      exact ⟨_, _, (refersTo _ _).mpr (.inl ⟨rfl, rfl⟩), joins_of_resolve? resolves⟩

end Step

theorem Connected.mirrored (h : Connected s s') (start : Mirrored s) : Mirrored s' := by
  induction h with
  | start => exact start
  | connect d supply r _ success added free ih =>
      obtain ⟨r', -, source, target, rfl⟩ := connectColumns_ensures d _ supply _ success
      obtain rfl : r' = r := by simpa using added
      have anchored := (isAnchored_iff ih.distinct.tableIds).mpr ⟨source, target⟩
      obtain ⟨k, resolves⟩ := exists_resolve?_iff.mpr anchored
      have marked := ih.connect resolves free
      simpa only [markAll, List.foldl_cons, List.foldl_nil, resolves] using marked

/-- Tables without references are put together by connecting columns, each child being a column that
holds no reference yet. Then the edges that were drawn and the edges that the references give
resolve to the same foreign keys. -/
theorem Connected.signatures_derive (h : Connected s s') (distinct : Table.Distinct s.tables)
    (plain : Table.HavePlainIds s.tables)
    (unreferenced : ∀ t ∈ s.tables, ∀ c ∈ t.columns, c.references = none)
    (noEdges : s.relationships = []) :
    signatures s'.tables s'.relationships = signatures s'.tables (derive s'.tables) :=
  (h.mirrored (.of_unreferenced distinct plain unreferenced noEdges)).signatures_eq

/-- A schema without its relationships and references; the flags of the columns stay. -/
def unlinked (s : State α) : State α :=
  { s with
    tables := s.tables.map fun t =>
      { t with columns := t.columns.map fun c => { c with references := none } }
    relationships := [] }

/-- A relationship as it is drawn on the canvas, where handles name the columns. -/
def drawn (r : Relationship) : RelationshipDraft where
  id := .str r.id
  source := .str r.source
  sourceColumn := .str r.sourceHandle
  target := .str r.target
  targetColumn := .str r.targetHandle

/-- Drawn from its parent to its child. -/
def orderPlaced : Relationship :=
  { id := "e1", source := "t1", sourceColumn := "c1", target := "t2", targetColumn := "c2" }

/-- Drawn inside one table. -/
def orderReplaced : Relationship :=
  { id := "e2", source := "t2", sourceColumn := "c3", target := "t2", targetColumn := "c1" }

theorem signatures_derive_orders :
    let s := unlinked (State.orders Position.origin)
    ∃ s', Connected s s' ∧ s'.relationships = [orderPlaced, orderReplaced] ∧
      signatures s'.tables s'.relationships = signatures s'.tables (derive s'.tables) := by
  intro s
  let after (rs : List Relationship) : State Float :=
    { s with relationships := rs, tables := markAll s.tables rs }
  -- Both drafts carry an id, so none is drawn.
  have first (supply : Supply) : ((connectColumns (drawn orderPlaced) s).runOn supply).1 =
      .ok (after [orderPlaced]) := by rfl
  have second (supply : Supply) :
      ((connectColumns (drawn orderReplaced) (after [orderPlaced])).runOn supply).1 =
        .ok (after [orderPlaced, orderReplaced]) := by rfl
  have run : Connected s (after [orderPlaced, orderReplaced]) :=
    (Connected.start.connect _ ⟨toString, 0⟩ orderPlaced (first _) rfl (by decide)).connect _
      ⟨toString, 1⟩ orderReplaced (second _) rfl (by decide)
  have distinct : Table.Distinct s.tables := ⟨by decide, by decide, by decide, by decide⟩
  have plain : Table.HavePlainIds s.tables := by decide
  exact ⟨_, run, rfl, run.signatures_derive distinct plain (by decide) rfl⟩

end SchemaGraph.Editing
