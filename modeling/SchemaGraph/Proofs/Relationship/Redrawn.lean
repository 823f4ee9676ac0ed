import SchemaGraph.Diagram
import SchemaGraph.Editing.Load
import SchemaGraph.Proofs.Ddl.ForeignKeys
import SchemaGraph.Proofs.Relationship.Selected

/-!
# Edges drawn the other way

The rules that find the child look at both ends in the same way, so it does not matter to them from
which end an edge was drawn. Only where no rule tells the ends apart does the drawn direction count.
Scripts, layouts and diagrams see an edge through what it resolves to, and are therefore the same
after some of the edges that a rule decides have been drawn the other way.
-/

namespace SchemaGraph

variable {α : Type} {tables : List (Table α)}

/-- A rule that decides finds the same child from either end. -/
theorem Column.orient_comm {source target : Column} {sourceTable targetTable : Option String}
    (decided : (orient source target sourceTable targetTable).rule ≠ .drawnDirection) :
    orient target source targetTable sourceTable =
      ⟨!(orient source target sourceTable targetTable).childIsSource,
        (orient source target sourceTable targetTable).rule⟩ := by
  have other {a b : Bool} (differ : (a != b) = true) : b = !a := by
    cases a <;> cases b <;> first | rfl | cases differ
  unfold orient at decided ⊢
  rw [bne_comm (a := target.pointsAt sourceTable source),
    bne_comm (a := target.actsAsForeignKey), bne_comm (a := target.isPrimaryKey)]
  by_cases pointer : (source.pointsAt targetTable target !=
      target.pointsAt sourceTable source) = true
  · rw [if_pos pointer, if_pos pointer, ← other pointer]
  · rw [if_neg pointer, if_neg pointer]
    rw [if_neg pointer] at decided
    by_cases foreign : (source.actsAsForeignKey != target.actsAsForeignKey) = true
    · rw [if_pos foreign, if_pos foreign, ← other foreign]
    · rw [if_neg foreign, if_neg foreign]
      rw [if_neg foreign] at decided
      by_cases primary : (source.isPrimaryKey != target.isPrimaryKey) = true
      · rw [if_pos primary, if_pos primary, ← other primary]
      · rw [if_neg primary] at decided
        exact absurd rfl decided

namespace Relationship

variable {r r' : Relationship} {d : Resolved} {rs rs' : List Relationship}

/-- The edge between the same columns that was drawn from the other end. -/
def reversed (r : Relationship) : Relationship :=
  { r with
    source := r.target
    target := r.source
    sourceColumn := r.targetColumn
    targetColumn := r.sourceColumn }

theorem resolveBetween_reversed {t u : Table α} {c d : Column}
    (decided : (r.resolveBetween t c u d).rule ≠ .drawnDirection) :
    r.reversed.resolveBetween u d t c = r.resolveBetween t c u d := by
  have rule : (r.resolveBetween t c u d).rule =
      (Column.orient c d (some t.name) (some u.name)).rule := by
    dsimp only [resolveBetween]
    split <;> rfl
  rw [rule] at decided
  have other := Column.orient_comm decided
  dsimp only [resolveBetween]
  rw [other]
  cases (Column.orient c d (some t.name) (some u.name)).childIsSource <;> rfl

theorem resolve?_reversed (h : r.resolve? tables = some d) (decided : d.rule ≠ .drawnDirection) :
    r.reversed.resolve? tables = some d := by
  obtain ⟨source, target, sourceColumn, targetColumn, hs, ht, hsc, htc, rfl⟩ :=
    resolve?_eq_some_iff.mp h
  exact resolve?_eq_some_iff.mpr ⟨target, source, targetColumn, sourceColumn, ht, hs, htc, hsc,
    resolveBetween_reversed decided⟩

/-- An edge is left as it was drawn, or it is drawn the other way if a rule decides its child. -/
inductive Redrawn (tables : List (Table α)) (r : Relationship) : Relationship → Prop
  | same : Redrawn tables r r
  | reversed {d : Resolved} (resolves : r.resolve? tables = some d)
    (decided : d.rule ≠ .drawnDirection) : Redrawn tables r r.reversed

namespace Redrawn

theorem resolve?_eq (h : Redrawn tables r r') : r'.resolve? tables = r.resolve? tables := by
  cases h with
  | same => rfl
  | reversed resolves decided => rw [resolves, resolve?_reversed resolves decided]

/-- The edge lies between the same tables. -/
theorem isWithin_eq (h : Redrawn tables r r') (ids : List String) :
    (ids.contains r'.source && ids.contains r'.target) =
      (ids.contains r.source && ids.contains r.target) := by
  cases h with
  | same => rfl
  | reversed => exact Bool.and_comm _ _

theorem resolve?_select_eq (h : Redrawn tables r r') (selection : Option (List String)) :
    r'.resolve? (Table.select selection tables) = r.resolve? (Table.select selection tables) := by
  rw [resolve?_select, resolve?_select, h.resolve?_eq, h.isWithin_eq]

theorem named_eq (h : Redrawn tables r r') : (r'.id, r'.label) = (r.id, r.label) := by
  cases h <;> rfl

end Redrawn

/-- Edges that resolve to the same, one by one, do so together. -/
theorem resolveAll_congr
    (same : List.Forall₂ (fun r r' => resolve? tables r' = resolve? tables r) rs rs') :
    resolveAll tables rs' = resolveAll tables rs :=
  (filterMap_eq_filterMap (same.imp fun _ _ h => h.symm)).symm

end Relationship

open Relationship

variable {s : State α} {rs : List Relationship}

theorem Ddl.compile_redrawn (h : List.Forall₂ (Redrawn s.tables) s.relationships rs) (o : Options)
    (selection : Option (List String)) :
    compile o (Table.select selection s.tables) rs =
      compile o (Table.select selection s.tables) s.relationships := by
  have resolved := resolveAll_congr (h.imp fun _ _ hr => hr.resolve?_select_eq selection)
  simp only [compile, foreignKeys_eq, resolved]

namespace Diagram

/-- The label of an edge is found by the id of its relationship. -/
theorem labelOf_congr {rs rs' : List Relationship}
    (same : rs'.map (fun r => (r.id, r.label)) = rs.map fun r => (r.id, r.label)) (id : String) :
    labelOf rs' id = labelOf rs id := by
  have byName (rs : List Relationship) : labelOf rs id =
      ((((rs.map fun r => (r.id, r.label)).reverse.find? (·.1 == id)).bind (·.2)).filter
        (· != "")) := by
    rw [labelOf, ← List.map_reverse, List.find?_map, Option.bind_map]
    rfl
  rw [byName, byName, same]

theorem ofState_redrawn (h : List.Forall₂ (Redrawn s.tables) s.relationships rs)
    (selection : Option (List String)) :
    ofState selection { s with relationships := rs } = ofState selection s := by
  let tables := Table.select selection s.tables
  have shown : List.Forall₂ (Redrawn s.tables) (Ddl.within tables s.relationships)
      (Ddl.within tables rs) :=
    forall₂_filter (h.imp fun _ _ hr => ⟨(hr.isWithin_eq _).symm, hr⟩)
  have resolved : resolveAll tables (Ddl.within tables rs) =
      resolveAll tables (Ddl.within tables s.relationships) :=
    resolveAll_congr (shown.imp fun _ _ hr => hr.resolve?_select_eq selection)
  have labels := labelOf_congr
    (map_eq_map_iff.mpr (shown.imp fun _ _ hr => hr.named_eq.symm)).symm
  have edges : (resolveAll tables (Ddl.within tables rs)).map (edgeOf (Ddl.within tables rs)) =
      (resolveAll tables (Ddl.within tables s.relationships)).map
        (edgeOf (Ddl.within tables s.relationships)) := by
    rw [resolved]
    refine List.map_congr_left fun d _ => ?_
    rw [edgeOf, edgeOf, labels]
  exact congrArg (Diagram.mk (tables.map nodeOf)) edges

end Diagram

section Layout

variable [Scalar α]

theorem Layout.graphOf_redrawn (h : List.Forall₂ (Redrawn s.tables) s.relationships rs)
    (settings : Settings α) :
    graphOf settings { s with relationships := rs } = graphOf settings s := by
  have edges : rs.map (edgeOfRelationship s.tables) =
      s.relationships.map (edgeOfRelationship s.tables) := by
    refine (map_eq_map_iff.mpr (h.imp fun r r' hr => ?_)).symm
    cases hr with
    | same => rfl
    | reversed resolves decided =>
        simp only [edgeOfRelationship, resolves, resolve?_reversed resolves decided]
        rfl
  rw [graphOf, graphOf, edges]

/-- The places of the tables are the same, whatever becomes of the layout. -/
theorem Editing.autoLayout_redrawn (h : List.Forall₂ (Redrawn s.tables) s.relationships rs)
    (settings : Except Failure (Layout.Settings α)) :
    autoLayout settings { s with relationships := rs } =
      (autoLayout settings s).map fun placed => { placed with relationships := rs } := by
  have arranged (settings : Layout.Settings α) :
      Layout.arrange? settings { s with relationships := rs } =
        (Layout.arrange? settings s).map fun placed => { placed with relationships := rs } := by
    simp only [Layout.arrange?, Layout.ofState?, Layout.graphOf_redrawn h settings]
    split
    · rfl
    · simp only [Option.bind_eq_bind, Option.map_bind, Function.comp_def, Option.pure_def,
        Option.map_some]
  unfold autoLayout
  dsimp only
  split
  · rfl
  · cases settings with
    | error f => rfl
    | ok settings =>
        change Except.bind (.ok settings) _ = Except.map _ (Except.bind (.ok settings) _)
        simp only [Except.bind, arranged]
        cases Layout.arrange? settings s <;> rfl

/-- Some of the edges whose child a rule decides are drawn the other way. Whatever tables are
selected, the scripts are the same and so are the diagrams, and the graph that is laid out is the
same, so that the tables are given the same places. -/
theorem Relationship.unchanged_of_redrawn (h : List.Forall₂ (Redrawn s.tables) s.relationships rs) :
    let s' : State α := { s with relationships := rs }
    (∀ (o : Ddl.Options) (selection : Option (List String)),
      Ddl.compile o (Table.select selection s.tables) rs =
        Ddl.compile o (Table.select selection s.tables) s.relationships) ∧
    (∀ settings, Layout.graphOf settings s' = Layout.graphOf settings s) ∧
    (∀ settings, Editing.autoLayout settings s' =
      (Editing.autoLayout settings s).map fun placed => { placed with relationships := rs }) ∧
    ∀ selection, Diagram.ofState selection s' = Diagram.ofState selection s :=
  ⟨Ddl.compile_redrawn h, Layout.graphOf_redrawn h, Editing.autoLayout_redrawn h,
    Diagram.ofState_redrawn h⟩

end Layout

/-- Both foreign keys of orders follow references, also the one within a table. -/
theorem Relationship.unchanged_of_redrawn_orders :
    let s := State.orders Position.origin
    let rs := s.relationships.map reversed
    List.Forall₂ (Redrawn s.tables) s.relationships rs ∧ (∀ r ∈ s.relationships, r ∉ rs) ∧
      ∀ o selection, Ddl.compile o (Table.select selection s.tables) rs =
        Ddl.compile o (Table.select selection s.tables) s.relationships := by
  intro s rs
  have byRule : ∀ r ∈ s.relationships,
      (r.resolve? s.tables).any (fun d => d.rule != .drawnDirection) = true := by decide
  have redrawn : List.Forall₂ (Redrawn s.tables) s.relationships rs := by
    refine List.forall₂_map_right_iff.mpr (List.forall₂_same.mpr fun r hr => ?_)
    obtain ⟨d, resolves, decided⟩ := (Option.any_eq_true _ _).mp (byRule r hr)
    exact .reversed resolves (bne_iff_ne.mp decided)
  exact ⟨redrawn, by decide, (unchanged_of_redrawn redrawn).1⟩

end SchemaGraph
