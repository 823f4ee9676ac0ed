import SchemaGraph.Proofs.Command.Refused
import SchemaGraph.Proofs.Command.Run
import SchemaGraph.Proofs.Service.Answers

/-!
# The answer to a command

A command that is handed to a project through a request and fails is answered as a bad request if it
was refused, and as an internal error if it was not. The main statement says when either is the
case: under settings without faults, it is the unchecked columns of a new table that make commands
fail without being refused.
-/

namespace SchemaGraph.Service

open Decode

variable {r : Registry} {req : Request} {id : String} {p : Project} {ms : Members}
  {f : Failure}

/-- A request that hands a command to a project. -/
structure Commanded (r : Registry) (req : Request) (id : String) (p : Project) (ms : Members) :
    Prop where
  verb : req.verb = "POST"
  route : ∃ t, Route.reached? Handler.stepLimit (.ofText req.target) = some (.commands id, t)
  body : (Handler.body commandForm req).run r = (.ok ms, r)
  held : r.store.get? id = some p

/-- What is told of a command that was refused, besides what it was refused for. -/
def aboutCommand (id : String) (ms : Members) : Members :=
  [("project_id", .str id), ("command_type", (ms.get? "type").getD .null)]

/-- A command that fails is answered with what the failure gets. -/
theorem Commanded.respond_of_error (h : Commanded r req id p ms)
    (failed : ((Command.applyDocument r.settings (.obj ms) p.state).runOn r.ids).1 = .error f) :
    (respond req r).1 = Handler.reported "apply_command" (aboutCommand id ms) f := by
  have asked : ((Registry.applyCommand id (.obj ms)).run r).1 = .error f := by
    obtain ⟨ids, run⟩ : ∃ ids,
        (Command.applyDocument r.settings (.obj ms) p.state).runOn r.ids = (.error f, ids) :=
      ⟨_, Prod.ext failed rfl⟩
    simp only [Registry.run_applyCommand, Store.stateAfter, h.held, run]
  obtain ⟨t, reached⟩ := h.route
  rw [respond_atRoute h.verb reached, Handler.atRoute, Handler.runCommand, Registry.run_bind,
    h.body]
  simp only [Handler.answered, Registry.run_bind, Handler.run_requireProject h.held,
    Handler.run_attempt, asked, Handler.run_orRespond_error, aboutCommand]

/-- A refusal is answered as a bad request, if it can be told. -/
theorem Commanded.answer_of_refusal {e : OperationError} (h : Commanded r req id p ms)
    (failed : ((Command.applyDocument r.settings (.obj ms) p.state).runOn r.ids).1 =
      .error (.operation e)) :
    (respond req r).1 = .badRequest "apply_command" (aboutCommand id ms) (.operation e) ∧
      (respond req r).1.status =
        if Response.canTell (Failure.report
          (Response.contextOf "apply_command" (aboutCommand id ms) (.operation e)) (.operation e))
        then 400 else 500 := by
  have answer := h.respond_of_error failed
  refine ⟨answer, ?_⟩
  rw [answer]
  exact Response.status_refusal 400 _

theorem Commanded.answer_of_escape (h : Commanded r req id p ms)
    (failed : ((Command.applyDocument r.settings (.obj ms) p.state).runOn r.ids).1 = .error f)
    (escapes : Command.DocumentEscapes ms p.state r.ids f) :
    (respond req r).1 = .internalError := by
  rw [h.respond_of_error failed]
  obtain ⟨c, -, escaped⟩ := escapes
  rcases escaped with ⟨-, faulty | deep⟩ | far <;> rfl

/-- What is told of a kind of command can always be told. -/
theorem canTell_of_shape? {kind : String} {shape : List String × (Members → Checked Command)}
    (known : Command.shape? kind = some shape) : Response.canTell (.str kind) = true := by
  unfold Command.shape? at known
  split at known
  all_goals first | rfl | cases known

/-- A document under whose type there is something that cannot be told is no command. -/
theorem parse_of_not_canTell {kind : Json} (typed : ms.get? "type" = some kind)
    (untold : Response.canTell kind = false) :
    ∃ found, Command.parse (.obj ms) = .error (Command.invalid ms found) := by
  have unknown : kind.asText?.bind Command.shape? = none := by
    cases known : kind.asText?.bind Command.shape? with
    | none => rfl
    | some shape =>
        obtain ⟨name, text, shape⟩ := Option.bind_eq_some_iff.mp known
        cases kind with
        | str s =>
            cases text
            rw [canTell_of_shape? shape] at untold
            cases untold
        | _ => cases text
  have read : Command.ofMembers ms
      = .invalid (.ofFault (.unknownTag "type" kind.text Command.kinds)) := by
    rw [Command.ofMembers, typed]
    simp only [unknown, Checked.fault]
  exact ⟨.ofFault (.unknownTag "type" kind.text Command.kinds), by rw [Command.parse_obj, read]⟩

/-- The report of a command that is none tells of its type. -/
theorem canTell_invalid {kind : Json} {found : Findings} (typed : ms.get? "type" = some kind)
    (told : Response.canTell ((Command.invalid ms found).report
      (Response.contextOf "apply_command" (aboutCommand id ms) (Command.invalid ms found))) =
        true) : Response.canTell kind = true := by
  have mem : ("type", kind) ∈ (Response.contextOf "apply_command" (aboutCommand id ms)
      (Command.invalid ms found)).more := by
    simp [Response.contextOf, Command.invalid, aboutCommand, typed, Members.put]
  exact Response.canTell_of_report told mem

/-- Under settings without faults, a command that fails was refused, and is then answered as a bad
request, or its failure escapes, and is then answered as an internal error. It escapes if a table is
added with a column that is none, and otherwise only from a layout with a row that is out of
reach. But even a refusal is answered as an internal error if its report cannot be told, and so it
is whenever the type of the command cannot. -/
theorem command_refused_or_escapes (configured : Command.AreConfigured r.settings) (p : Project)
    (ms : Members) :
    let outcome := ((Command.applyDocument r.settings (.obj ms) p.state).runOn r.ids).1
    (∀ f, outcome = .error f →
      (f.IsRefusal ∧ ∀ req id, Commanded r req id p ms →
        (respond req r).1 = .badRequest "apply_command" (aboutCommand id ms) f ∧
        (respond req r).1.status =
          if Response.canTell (f.report (Response.contextOf "apply_command" (aboutCommand id ms) f))
          then 400 else 500) ∨
      (Command.DocumentEscapes ms p.state r.ids f ∧ ∀ req id, Commanded r req id p ms →
        (respond req r).1 = .internalError)) ∧
    (∀ form, Command.ofMembers ms = .valid (.addTable form) →
      (p.state.table? (r.ids.idFor form.id.join)).isSome = false →
      (∃ draft ∈ form.drafts, ¬ Column.IsDraft draft) →
      ∃ f, outcome = .error f ∧ Editing.ColumnFails form.drafts f) ∧
    ∀ kind, ms.get? "type" = some kind → Response.canTell kind = false →
      (∃ f, outcome = .error f ∧ f.IsRefusal) ∧ ∀ req id, Commanded r req id p ms →
        (respond req r).1.status = 500 := by
  intro outcome
  refine ⟨fun f failed => ?_, fun form read free bad => ?_, fun kind typed untold => ?_⟩
  · rcases Command.applyDocument_failsOnly configured ms p.state r.ids f failed with
      refused | escapes
    · refine .inl ⟨refused, fun req id h => ?_⟩
      obtain ⟨e, rfl⟩ := refused
      exact h.answer_of_refusal failed
    · exact .inr ⟨escapes, fun req id h => h.answer_of_escape failed escapes⟩
  · obtain ⟨defaults, editing⟩ := configured.editing
    obtain ⟨f, failed, fails⟩ := Editing.addTable_error editing form free bad
    exact ⟨f, (congrArg Prod.fst (Command.runOn_applyDocument read _ _)).trans failed, fails⟩
  · obtain ⟨found, parsed⟩ := parse_of_not_canTell typed untold
    have failed : outcome = .error (Command.invalid ms found) := by
      refine Edit.runOn_bind_error ?_
      rw [parsed]
      rfl
    refine ⟨⟨_, failed, _, rfl⟩, fun req id h => ?_⟩
    refine (h.answer_of_refusal failed).2.trans (if_neg fun told => ?_)
    rw [canTell_invalid typed told] at untold
    cases untold

/-- A registry that holds the orders. -/
def ordersRegistry : Registry :=
  { settings := Session.onOrders.settings
    store := { capacity := 1, projects := [.create "p1" "orders" "noon" Session.onOrders.state] }
    ids := Session.onOrders.supply
    projectIds := { idAt := fun n => "p" ++ toString n }
    clock := { idAt := fun _ => "noon" } }

/-- A command for a table with a column whose name is a number. -/
def numberedColumn : Members :=
  [("type", .str "add_table"), ("columns", .arr [.obj [("name", .int 5)]])]

/-- A command whose type is half of a surrogate pair. -/
def halfTyped : Members := [("type", .str (String.singleton (Char.ofNat 0x10D800)))]

theorem command_escapes_numberedColumn :
    Command.AreConfigured ordersRegistry.settings ∧
      (∃ found, ((Command.applyDocument ordersRegistry.settings (.obj numberedColumn)
        Session.onOrders.state).runOn ordersRegistry.ids).1 = .error (.invalid found)) ∧
      ∀ req id, Commanded ordersRegistry req id
          (.create "p1" "orders" "noon" Session.onOrders.state) halfTyped →
        (respond req ordersRegistry).1.status = 500 := by
  have configured : Command.AreConfigured ordersRegistry.settings := ⟨⟨_, rfl⟩, ⟨_, rfl⟩⟩
  refine ⟨configured, ?_, ?_⟩
  · obtain ⟨f, failed, fails⟩ := (command_refused_or_escapes configured
      (.create "p1" "orders" "noon" Session.onOrders.state) numberedColumn).2.1 _ rfl rfl
        ⟨_, List.mem_cons_self, by rintro ⟨c, h⟩; cases h⟩
    rcases fails with faulty | deep
    · exact ⟨_, failed⟩
    · obtain ⟨draft, mem, isDeep⟩ := deep.exists_bad
      obtain rfl := List.mem_singleton.mp mem
      rcases isDeep with ⟨⟨⟩, -⟩ | ⟨⟨⟩, -, -⟩
  · exact ((command_refused_or_escapes configured
      (.create "p1" "orders" "noon" Session.onOrders.state) halfTyped).2.2 _ rfl (by decide)).2

/-- So not every command that fails was refused. -/
theorem not_command_refused_numberedColumn :
    ¬ ∀ f, ((Command.applyDocument ordersRegistry.settings (.obj numberedColumn)
      Session.onOrders.state).runOn ordersRegistry.ids).1 = .error f → f.IsRefusal := by
  intro refused
  obtain ⟨e, h⟩ := refused _ rfl
  cases h

end SchemaGraph.Service
