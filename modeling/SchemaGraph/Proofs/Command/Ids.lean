import SchemaGraph.Proofs.Command.Run
import SchemaGraph.Proofs.Editing.Ids

/-!
# Runs and repeated ids

Ids are different in all schemas that a run leads to exactly if they are different where the run
starts and every table that it adds comes with columns of different ids. Where the run starts, the
ids are those of the documents that the schema was loaded from, and nothing checks them.
-/

namespace SchemaGraph

open Editing

/-- The ids of the columns of the table that a command adds, if it does. -/
def Command.columnIds (c : Command) (supply : Supply) : List String :=
  match c with
  | .addTable form => (form.draft.outline.run supply).1.2
  | _ => []

def Submission.columnIds (c : Submission) (supply : Supply) : List String :=
  match c with
  | .record c => c.columnIds supply
  | .document payload =>
    match Command.parse payload with
    | .ok c => c.columnIds supply
    | .error _ => []

namespace Command

/-- Ask for a table with columns of given ids. -/
def addColumns (ids : List String) : Command :=
  .addTable { columns := some (some (ids.map fun id => [("id", .str id)])) }

/-- Ids stay different unless columns with the same id come with a new table. -/
theorem apply_hasDistinctIds_iff {settings : Config.Settings} {c : Command} {s s' : State Float}
    {supply rest : Supply} (h : s.HasDistinctIds)
    (applied : (c.apply settings s).runOn supply = (.ok s', rest)) :
    s'.HasDistinctIds ↔ (c.columnIds supply).Nodup := by
  have keeps (ensures : (c.apply settings s).Ensures State.HasDistinctIds)
      (none : c.columnIds supply = []) : s'.HasDistinctIds ↔ (c.columnIds supply).Nodup := by
    rw [none]
    exact iff_of_true (ensures supply s' (by rw [applied])) List.nodup_nil
  cases c with
  | addTable form => exact addTable_hasDistinctIds_iff h applied
  | renameTable table name =>
      exact keeps (Edit.Ensures.lift fun _ hu => h.of_outline (updateTable_outline hu)) rfl
  | updateTable table form =>
      exact keeps (Edit.Ensures.lift fun _ hu => h.of_outline (updateTable_outline hu)) rfl
  | removeTable table =>
      exact keeps (Edit.Ensures.lift fun _ hr => removeTable_hasDistinctIds h hr) rfl
  | addColumn table form =>
      exact keeps (addColumn_hasDistinctIds settings table form.draft h) rfl
  | updateColumn table column form =>
      exact keeps (Edit.Ensures.lift fun _ hu => h.of_outline (updateColumn_outline hu)) rfl
  | removeColumn table column =>
      exact keeps (Edit.Ensures.lift fun _ hr => removeColumn_hasDistinctIds h hr) rfl
  | addRelationship form =>
      refine keeps ((addRelationship_ensures form.draft s).mono ?_) rfl
      rintro _ ⟨r, -, -, -, rfl⟩
      exact h.of_outline rfl
  | connectColumns form =>
      refine keeps ((connectColumns_ensures form.draft s).mono ?_) rfl
      rintro _ ⟨r, -, -, -, rfl⟩
      exact h.of_outline (Relationship.outline_markAll s.tables [r])
  | updateRelationship relationship form =>
      refine keeps (Edit.Ensures.lift fun _ hu => ?_) rfl
      obtain ⟨_, _, _, _, _, _, rfl⟩ := updateRelationship_ok hu
      exact h.of_outline rfl
  | removeRelationship relationship =>
      refine keeps (Edit.Ensures.lift fun _ hr => ?_) rfl
      obtain ⟨-, rfl⟩ := removeRelationship_ok hr
      exact h.of_outline rfl
  | setDialect dialect => exact keeps (Edit.Ensures.pure (h.of_outline rfl)) rfl
  | autoLayout =>
      exact keeps (Edit.Ensures.lift fun _ ha => h.of_outline (autoLayout_outline ha)) rfl

end Command

theorem Submission.apply_hasDistinctIds_iff {settings : Config.Settings} {c : Submission}
    {s s' : State Float} {supply rest : Supply} (h : s.HasDistinctIds)
    (applied : (c.apply settings s).runOn supply = (.ok s', rest)) :
    s'.HasDistinctIds ↔ (c.columnIds supply).Nodup := by
  cases c with
  | record c => exact Command.apply_hasDistinctIds_iff h applied
  | document payload =>
      cases read : Command.parse payload with
      | error f =>
          rw [Submission.apply, Command.applyDocument, read] at applied
          cases applied
      | ok c =>
          rw [Submission.apply, Command.applyDocument, read] at applied
          rw [Submission.columnIds, read]
          exact Command.apply_hasDistinctIds_iff h applied

namespace Session

/-- The tables that a run adds come with columns of different ids. -/
def AddsDistinctIds (s : Session) : List Submission → Prop
  | [] => True
  | c :: rest =>
    let next := (s.edit (c.apply s.settings)).2
    ((s.edit (c.apply s.settings)).1.isOk → (c.columnIds s.supply).Nodup) ∧
      next.AddsDistinctIds rest

theorem edit_hasDistinctIds_iff (s : Session) (h : s.state.HasDistinctIds) (c : Submission) :
    (s.edit (c.apply s.settings)).2.state.HasDistinctIds ↔
      ((s.edit (c.apply s.settings)).1.isOk → (c.columnIds s.supply).Nodup) := by
  unfold edit
  rcases applied : (c.apply s.settings s.state).runOn s.supply with ⟨_ | state, supply⟩
  · exact iff_of_true h fun refused => by cases refused
  · exact (Submission.apply_hasDistinctIds_iff h applied).trans ⟨fun h _ => h, fun h => h rfl⟩

/-- Once ids are different, they are so along a whole run exactly if the tables that it adds come
with columns of different ids. -/
theorem run_hasDistinctIds_iff (s : Session) (h : s.state.HasDistinctIds)
    (submissions : List Submission) :
    (∀ n, (s.run (submissions.take n)).state.HasDistinctIds) ↔ s.AddsDistinctIds submissions := by
  induction submissions generalizing s with
  | nil =>
      refine iff_of_true (fun n => ?_) trivial
      rw [List.take_nil]
      exact h
  | cons c rest ih =>
      have step := s.edit_hasDistinctIds_iff h c
      constructor
      · intro all
        have next : (s.edit (c.apply s.settings)).2.state.HasDistinctIds := all 1
        exact ⟨step.mp next, (ih _ next).mp fun n => all (n + 1)⟩
      · rintro ⟨first, later⟩ n
        cases n with
        | zero => exact h
        | succ n => exact (ih _ (step.mpr first)).mpr later n

/-- In all schemas that a run leads to, tables have different ids, and so have the columns of each
table, exactly if this is so of the ids that the run starts from, which come from documents or were
drawn, and of the columns of each table that it adds. -/
theorem distinctIds_reached_iff {o : Origin} {s : Session} (loaded : o.load = .ok s.state)
    (submissions : List Submission) :
    (∀ n, (s.run (submissions.take n)).state.HasDistinctIds) ↔
      o.outline.IsDistinct ∧ s.AddsDistinctIds submissions := by
  rw [← Origin.outline_load loaded, ← State.HasDistinctIds.iff_outline]
  constructor
  · intro all
    have start : s.state.HasDistinctIds := all 0
    exact ⟨start, (s.run_hasDistinctIds_iff start submissions).mp all⟩
  · exact fun ⟨start, adds⟩ => (s.run_hasDistinctIds_iff start submissions).mpr adds

theorem distinctIds_reached_iff_parentNodes :
    ∃ state, (Origin.snapshot (.obj (parentNodes "parent"))).load = .ok state ∧
      ∀ n, (({ onOrders with state } : Session).run
        ([.record (.addColumns ["c", "d"])].take n)).state.HasDistinctIds := by
  let o : Origin := .snapshot (.obj (parentNodes "parent"))
  have loaded : o.load = .ok _ := rfl
  refine ⟨_, loaded, (distinctIds_reached_iff (o := o) loaded _).mpr ⟨?_, fun _ => ?_, trivial⟩⟩
  · decide
  · decide

/-- Ids are repeated if the documents of a schema repeat them, and if a new table comes with columns
that do. -/
theorem not_distinctIds_reached_twins :
    let twins : Json := .arr [.obj [("id", .str "t")], .obj [("id", .str "t")]]
    let source : Source := { tables := twins, shouldLayout := .bool false }
    let start : Session := { onOrders with state := {} }
    (∃ s, (Origin.drafts start.settings.layoutSettings source start.supply).load = .ok s ∧
        ¬ s.HasDistinctIds) ∧
      (∃ s, (Origin.snapshot (.obj [("tables", twins)])).load = .ok s ∧ ¬ s.HasDistinctIds) ∧
      ¬ (start.run [.record (.addColumns ["c", "c"])]).state.HasDistinctIds := by
  intro twins source start
  refine ⟨⟨_, rfl, fun h => ?_⟩, ⟨_, rfl, fun h => ?_⟩, fun h => ?_⟩
  · exact absurd h.tables (by decide)
  · exact absurd h.tables (by decide)
  · have empty : start.state.HasDistinctIds := ⟨List.nodup_nil, fun _ ht => by cases ht⟩
    exact absurd ((start.edit_hasDistinctIds_iff empty _).mp h rfl) (by decide)

end Session

end SchemaGraph
