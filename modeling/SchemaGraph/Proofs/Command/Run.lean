import SchemaGraph.Proofs.Editing.Linked
import SchemaGraph.Session

/-!
# Runs of commands

A session is handed commands one after another, as records or as documents that are still to be
read. A command that is refused leaves the schema as it was. What every command keeps is therefore
kept by every run, and this is all that a proof about runs needs to know of them.

The main result is that runs keep a schema linked.
-/

namespace SchemaGraph

/-- A command as it is handed in. -/
inductive Submission where
  | record (c : Command)
  | document (payload : Json)

def Submission.apply (settings : Config.Settings) : Submission → State Float → Edit (State Float)
  | record c, s => c.apply settings s
  | document payload, s => Command.applyDocument settings payload s

/-- The command that is handed in, if it is one. -/
def Submission.command : Submission → Except Failure Command
  | record c => .ok c
  | document payload => Command.parse payload

theorem Submission.apply_eq {c : Submission} {command : Command} (read : c.command = .ok command)
    (settings : Config.Settings) (s : State Float) :
    c.apply settings s = command.apply settings s := by
  cases c with
  | record c =>
      cases read
      rfl
  | document payload =>
      have parsed : Command.parse payload = .ok command := read
      rw [apply, Command.applyDocument, parsed]
      rfl

/-- What is handed in does what a command does, if it does anything. -/
theorem Submission.apply_ensures {settings : Config.Settings} {s : State Float}
    {P : State Float → Prop} (ensures : ∀ c : Command, (c.apply settings s).Ensures P)
    (c : Submission) : (c.apply settings s).Ensures P := by
  cases c with
  | record c => exact ensures c
  | document payload => exact Edit.Ensures.bind_any ensures

namespace Session

/-- Hand in commands one after another. -/
def run (s : Session) : List Submission → Session
  | [] => s
  | c :: rest => (s.edit (c.apply s.settings)).2.run rest

variable {P : State Float → Prop}

/-- A refused edit changes no schema, so a property is kept if successes keep it. -/
theorem edit_keeps (s : Session) {e : State Float → Edit (State Float)} (h : P s.state)
    (keeps : (e s.state).Ensures P) : P (s.edit e).2.state := by
  unfold edit
  rcases he : (e s.state).runOn s.supply with ⟨_ | state, supply⟩
  · exact h
  · exact keeps s.supply state (by rw [he])

theorem run_keeps
    (keeps : ∀ settings (c : Command) state, P state → (c.apply settings state).Ensures P)
    (s : Session) (h : P s.state) (submissions : List Submission) :
    P (s.run submissions).state := by
  induction submissions generalizing s with
  | nil => exact h
  | cons c rest ih =>
      exact ih _ (s.edit_keeps h (c.apply_ensures fun c => keeps s.settings c s.state h))

end Session

namespace Command

open Editing

/-- Every kind of command keeps a schema linked. -/
theorem apply_wellLinked (settings : Config.Settings) (c : Command) (s : State Float)
    (h : s.WellLinked) : (c.apply settings s).Ensures State.WellLinked := by
  cases c with
  | addTable form => exact addTable_wellLinked settings form.draft h
  | renameTable table name => exact Edit.Ensures.lift fun _ hu => updateTable_wellLinked h hu
  | updateTable table form => exact Edit.Ensures.lift fun _ hu => updateTable_wellLinked h hu
  | removeTable table => exact Edit.Ensures.lift fun _ hr => removeTable_wellLinked h hr
  | addColumn table form => exact addColumn_wellLinked settings table form.draft h
  | updateColumn table column form =>
      exact Edit.Ensures.lift fun _ hu => updateColumn_wellLinked h hu
  | removeColumn table column => exact Edit.Ensures.lift fun _ hr => removeColumn_wellLinked h hr
  | addRelationship form => exact addRelationship_wellLinked form.draft h
  | connectColumns form => exact connectColumns_wellLinked form.draft h
  | updateRelationship relationship form =>
      exact Edit.Ensures.lift fun _ hu => updateRelationship_wellLinked h hu
  | removeRelationship relationship =>
      exact Edit.Ensures.lift fun _ hr => removeRelationship_wellLinked h hr
  | setDialect dialect => exact Edit.Ensures.pure (setDialect_wellLinked dialect h)
  | autoLayout => exact Edit.Ensures.lift fun _ ha => autoLayout_wellLinked h ha

end Command

/-- From a linked schema, every run of commands leads to linked schemas only. The ids that are
drawn may be any texts, also ones that are in use. -/
theorem Session.run_wellLinked (s : Session) (h : s.state.WellLinked)
    (submissions : List Submission) : (s.run submissions).state.WellLinked :=
  s.run_keeps Command.apply_wellLinked h submissions

/-- A session on orders whose supply draws the same id over and over. -/
def Session.onOrders : Session :=
  { settings := Config.Settings.ofFile ⟨"config.yaml", .document Config.shipped⟩
    state := State.orders Position.origin
    supply := { idAt := fun _ => "c1" } }

theorem Session.run_wellLinked_onOrders :
    Session.onOrders.state.WellLinked ∧
      (Session.onOrders.run [.record (.addTable {}), .record (.removeColumn "t2" "c3"),
        .document (.obj [("type", .str "remove_table"),
          ("tableId", .str "t1")])]).state.WellLinked :=
  ⟨State.orders_wellLinked _, Session.onOrders.run_wellLinked (State.orders_wellLinked _) _⟩

end SchemaGraph
