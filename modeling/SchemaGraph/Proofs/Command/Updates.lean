import SchemaGraph.Proofs.Command.Run
import SchemaGraph.Proofs.Editing.Update

/-!
# Updates in schemas that commands lead to

In a schema that commands lead to, every column has a type. So an update of it changes what was
sent, drops references to blank tables from the columns that it puts into normal form, and leaves
everything else as it is. Such references are there if a column was connected to a table with a
blank name, and then they are lost.
-/

namespace SchemaGraph

open Editing

/-- Commands lead to a schema from the empty one, under any settings and with any ids drawn. -/
inductive State.Reachable : State Float → Prop
  | empty : Reachable {}
  | step {s s' : State Float} (reached : Reachable s) (c : Submission) (settings : Config.Settings)
      (supply : Supply) (accepted : ((c.apply settings s).runOn supply).1 = .ok s') : Reachable s'

theorem Session.run_reachable (s : Session) (h : s.state.Reachable)
    (submissions : List Submission) : (s.run submissions).state.Reachable :=
  s.run_keeps (fun settings c _ reached supply _ accepted =>
    .step reached (.record c) settings supply accepted) h submissions

namespace State.Reachable

variable {s s' : State Float}

theorem isTyped (h : s.Reachable) : s.IsTyped := by
  induction h with
  | empty => exact fun _ ht => by cases ht
  | step _ c settings supply accepted typed =>
      exact c.apply_ensures (fun c => c.apply_isTyped settings _ typed) supply _ accepted

/-- A table or a column that is updated keeps the fields that were not sent, up to references to
blank tables, and everything outside of it is kept. -/
theorem update_leaves (h : s.Reachable) {c : Submission} {settings : Config.Settings}
    {supply : Supply} (accepted : ((c.apply settings s).runOn supply).1 = .ok s') :
    (∀ id name, c.command = .ok (.renameTable id name) →
      s.ChangesTable id (TableForm.Leaves { name := some (some name) }) s') ∧
    (∀ id form, c.command = .ok (.updateTable id form) → s.ChangesTable id form.Leaves s') ∧
    (∀ table column form, c.command = .ok (.updateColumn table column form) →
      s.ChangesTable table (Table.ChangesColumn column form.Leaves) s') := by
  refine ⟨fun id name read => ?_, fun id form read => ?_, fun table column form read => ?_⟩
  · rw [Submission.apply_eq read] at accepted
    exact updateTable_leaves h.isTyped accepted
  · rw [Submission.apply_eq read] at accepted
    exact updateTable_leaves h.isTyped accepted
  · rw [Submission.apply_eq read] at accepted
    exact updateColumn_leaves h.isTyped accepted

end State.Reachable

/-- A table that lost its name, and one that was connected to it afterwards. -/
def State.orphans : State Float :=
  let start : Session := { Session.onOrders with state := {} }
  let add (id column : String) : Command :=
    .addTable
      { id := some (some id)
        columns := some (some [[("id", .str column), ("name", .str column)]]) }
  (start.run [.record (add "p" "k"), .record (add "c" "f"), .record (.renameTable "p" " "),
    .record (.connectColumns
      { source := "c", target := "p", sourceColumn := "f", targetColumn := "k" })]).state

theorem State.orphans_reachable : State.orphans.Reachable :=
  Session.run_reachable _ .empty _

theorem State.Reachable.update_leaves_orphans :
    let form : ColumnForm := { isNullable := some (some false) }
    let c : Submission := .record (.updateColumn "c" "f" form)
    State.orphans.Reachable ∧
      ∃ s', ((c.apply Session.onOrders.settings State.orphans).runOn ⟨fun _ => "", 0⟩).1 = .ok s' ∧
        State.orphans.ChangesTable "c" (Table.ChangesColumn "f" form.Leaves) s' := by
  intro form c
  have isOk : ((c.apply Session.onOrders.settings State.orphans).runOn
      ⟨fun _ => "", 0⟩).1.isOk = true := by decide +kernel
  obtain ⟨s', accepted⟩ := exists_of_isOk isOk
  refine ⟨State.orphans_reachable, s', accepted, ?_⟩
  exact (State.orphans_reachable.update_leaves accepted).2.2 "c" "f" form rfl

/-- The reference to the table without a name is lost in any update of the table or the column that
has it, also if nothing is said about references. -/
theorem State.orphans_forgotten :
    let references (s : State Float) : Option (List (Option ColumnReference)) :=
      (s.table? "c").map fun t => t.columns.map (·.references)
    State.orphans.Reachable ∧ references State.orphans = some [some ⟨" ", "k"⟩] ∧
      ∀ c ∈ [Command.renameTable "c" "kids",
          .updateTable "c" { description := some (some "orphaned") },
          .updateColumn "c" "f" { isNullable := some (some false) }],
        ((c.apply Session.onOrders.settings State.orphans).runOn ⟨fun _ => "", 0⟩).1.toOption.map
          references = some (some [none]) :=
  ⟨State.orphans_reachable, by decide, by decide +kernel⟩

end SchemaGraph
