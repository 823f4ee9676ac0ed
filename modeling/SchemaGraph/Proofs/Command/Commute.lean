import SchemaGraph.Proofs.Command.Run
import SchemaGraph.Proofs.Editing.Commute
import SchemaGraph.Proofs.Editing.Failing
import SchemaGraph.Proofs.Editing.Typed

/-!
# Commands that commute

Two commands that update different targets may be handed in in either order. Whether they are
accepted and what they lead to is the same, and a command that is refused is refused either way.
None of them draws an id, so the supply is the same as well.
-/

namespace SchemaGraph

open Editing

/-- What a command updates, if it is an update. -/
def Command.target? : Command → Option Target
  | renameTable id _ => some (.table id)
  | updateTable id _ => some (.table id)
  | updateColumn owner id _ => some (.column owner id)
  | updateRelationship id _ => some (.relationship id)
  | setDialect _ => some .dialect
  | _ => none

/-- A command carries out an edit that draws no id, and the edit is an update or is refused
everywhere. -/
structure Command.Performs (c : Command) (p : Target)
    (step : State Float → Except Failure (State Float)) : Prop where
  apply_eq : ∀ settings s, c.apply settings s = liftM (step s)
  update : (∃ u : Update Float, u.target = p ∧ u.IsStored ∧ ∀ s, step s = u.apply s) ∨
    ∀ s s', step s ≠ .ok s'

namespace Command

theorem exists_performs {c : Command} {p : Target} (h : c.target? = some p) :
    ∃ step, c.Performs p step := by
  cases c with
  | renameTable id name =>
      cases h
      exact ⟨_, fun _ _ => rfl, .inl ⟨.table id { name := some name }, rfl, trivial, fun _ => rfl⟩⟩
  | updateTable id form =>
      cases h
      refine ⟨_, fun _ _ => rfl, ?_⟩
      cases valid : form.change with
      | valid change => exact .inl ⟨.table id change, rfl, trivial, fun _ => rfl⟩
      | _ =>
          -- A change that is not valid is refused whatever the schema is.
          refine .inr fun s s' accepted => ?_
          obtain ⟨_, _, -, none, -⟩ := updateTable_ok accepted
          cases none
  | updateColumn owner id form =>
      cases h
      refine ⟨_, fun _ _ => rfl, ?_⟩
      cases valid : form.change with
      | valid change =>
          exact .inl ⟨.column owner id change, rfl, form.change_isStored valid, fun _ => rfl⟩
      | _ =>
          refine .inr fun s s' accepted => ?_
          obtain ⟨_, _, _, -, -, none, -⟩ := updateColumn_ok accepted
          cases none
  | updateRelationship id form =>
      cases h
      refine ⟨_, fun _ _ => rfl, ?_⟩
      cases valid : form.change with
      | valid change => exact .inl ⟨.relationship id change, rfl, trivial, fun _ => rfl⟩
      | _ =>
          refine .inr fun s s' accepted => ?_
          obtain ⟨_, _, -, none, -⟩ := updateRelationship_ok accepted
          cases none
  | setDialect d =>
      cases h
      exact ⟨_, fun _ _ => rfl, .inl ⟨.dialect d, rfl, trivial, fun _ => rfl⟩⟩
  | _ => cases h

namespace Performs

variable {c d : Command} {p q : Target} {f g : State Float → Except Failure (State Float)}

theorem toOption_eq_none (never : ∀ s s', f s ≠ .ok s') (s : State Float) :
    (f s).toOption = none := by
  cases h : f s with
  | error failure => rfl
  | ok s' => exact absurd h (never s s')

theorem independent (hc : c.Performs p f) (hd : d.Performs q g) (ne : p ≠ q) :
    Independent (fun s => (f s).toOption) fun s => (g s).toOption := by
  rcases hc.update with ⟨u, rfl, hu, isU⟩ | never
  · rcases hd.update with ⟨v, rfl, hv, isV⟩ | never
    · obtain rfl : f = fun s => u.apply s := funext isU
      obtain rfl : g = fun s => v.apply s := funext isV
      exact Update.independent hu hv ne
    · exact (Independent.of_none (toOption_eq_none never)).symm
  · exact Independent.of_none (toOption_eq_none never)

end Performs
end Command

namespace Session

/-- An edit that draws no id leaves the supply as it is. -/
theorem edit_lift (s : Session) (f : State Float → Except Failure (State Float)) :
    s.edit (fun state => liftM (f state)) =
      (f s.state, { s with state := attempt (fun state => (f state).toOption) s.state }) := by
  unfold edit attempt
  dsimp only
  rw [Edit.runOn_lift]
  cases f s.state <;> rfl

theorem isOk_eq_isSome {x : Except Failure (State Float)} : x.isOk = x.toOption.isSome := by
  cases x <;> rfl

/-- Two updates of different targets lead to the same schema in either order, and each of them is
accepted exactly if it would be without the other. -/
theorem updates_commute (s : Session) {c d : Submission} {a b : Command} {p q : Target}
    (readC : c.command = .ok a) (readD : d.command = .ok b) (aboutC : a.target? = some p)
    (aboutD : b.target? = some q) (different : p ≠ q) :
    s.run [c, d] = s.run [d, c] ∧
      ((s.run [d]).edit (c.apply s.settings)).1.isOk = (s.edit (c.apply s.settings)).1.isOk ∧
      ((s.run [c]).edit (d.apply s.settings)).1.isOk = (s.edit (d.apply s.settings)).1.isOk := by
  obtain ⟨f, performsC⟩ := Command.exists_performs aboutC
  obtain ⟨g, performsD⟩ := Command.exists_performs aboutD
  have apart := performsC.independent performsD different
  have isF : c.apply s.settings = fun state => liftM (f state) := funext fun state =>
    (Submission.apply_eq readC s.settings state).trans (performsC.apply_eq s.settings state)
  have isG : d.apply s.settings = fun state => liftM (g state) := funext fun state =>
    (Submission.apply_eq readD s.settings state).trans (performsD.apply_eq s.settings state)
  simp only [run, isF, isG, edit_lift, isOk_eq_isSome]
  refine ⟨?_, apart.symm.isSome_attempt s.state, apart.isSome_attempt s.state⟩
  rw [apart.attempt_comm]

/-- A table is shown in another color while one of its columns is given another type. -/
theorem updates_commute_onOrders :
    let table : Submission := .record (.updateTable "t2" { color := some (some "red") })
    let column : Submission := .record (.updateColumn "t2" "c2" { dataType := some (some "UUID") })
    onOrders.run [table, column] = onOrders.run [column, table] ∧
      (onOrders.edit (table.apply onOrders.settings)).1.isOk = true ∧
      ((onOrders.run [table]).edit (column.apply onOrders.settings)).1.isOk = true := by
  intro table column
  obtain ⟨same, -, accepted⟩ := onOrders.updates_commute (c := table) (d := column) rfl rfl
    (p := .table "t2") (q := .column "t2" "c2") rfl rfl (by decide)
  exact ⟨same, by decide +kernel, accepted.trans (by decide +kernel)⟩

end Session
end SchemaGraph
