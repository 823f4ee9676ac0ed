import SchemaGraph.Project
import SchemaGraph.Proofs.Editing.Ensures

/-!
# The steps of a registry

Each step of a registry is described by one equation: what it answers, and the registry that it
leaves. No other proof runs a step.
-/

namespace SchemaGraph.Registry

variable {ε α β : Type}

theorem run_bind (x : ExceptT ε (StateM Registry) α)
    (f : α → ExceptT ε (StateM Registry) β) (r : Registry) :
    (x >>= f).run r =
      match x.run r with
      | (.ok a, r) => (f a).run r
      | (.error e, r) => (.error e, r) := by
  change (ExceptT.bindCont f (x.run r).1) (x.run r).2 = _
  rcases x.run r with ⟨_ | _, _⟩ <;> rfl

theorem run_get_bind (f : Registry → ExceptT ε (StateM Registry) β) (r : Registry) :
    (get >>= f).run r = (f r).run r := rfl

theorem run_edit (e : Edit α) (r : Registry) :
    (edit e).run r = ((e.runOn r.ids).1, { r with ids := (e.runOn r.ids).2 }) := by
  rw [edit, run_get_bind]
  rcases e.runOn r.ids with ⟨f | a, ids⟩
  · rfl
  · rfl

theorem run_create (given : Option String) (name : String) (state : State Float) (r : Registry) :
    (create given name state).run r =
      match r.store.create? (Store.givenId? given) r.projectIds.draw.1 name r.clock.draw.1
          state with
      | some (store, p) =>
        (.ok p, { r with
          store
          clock := r.clock.draw.2
          projectIds :=
            if (Store.givenId? given).isSome then r.projectIds else r.projectIds.draw.2 })
      | none => (.error (.crash .noItem), r) := by
  rw [create, run_get_bind]
  cases made : r.store.create? (Store.givenId? given) r.projectIds.draw.1 name r.clock.draw.1
      state with
  | none =>
      simp only [made]
      rfl
  | some p =>
      simp only [made]
      rfl

theorem run_update (id : String) (state : State Float) (r : Registry) :
    (update id state).run r =
      match r.store.update? id r.clock.draw.1 state with
      | some (store, p) => (.ok (some p), { r with store, clock := r.clock.draw.2 })
      | none => (.ok none, r) := by
  rw [update, run_get_bind]
  cases made : r.store.update? id r.clock.draw.1 state with
  | none =>
      simp only [made]
      rfl
  | some p =>
      simp only [made]
      rfl

theorem run_delete (id : String) (r : Registry) :
    (delete id).run r = (.ok (r.store.has id), { r with store := r.store.delete id }) := rfl

theorem run_applyCommand (id : String) (payload : Json) (r : Registry) :
    (applyCommand id payload).run r =
      match (r.store.stateAfter r.settings id payload).runOn r.ids with
      | (.error f, ids) => (.error f, { r with ids })
      | (.ok state, ids) =>
        match r.store.update? id r.clock.draw.1 state with
        | some (store, p) => (.ok p, { r with store, ids, clock := r.clock.draw.2 })
        | none => (.error (Store.missing id), { r with ids }) := by
  rw [applyCommand, run_get_bind, run_bind, run_edit]
  rcases (r.store.stateAfter r.settings id payload).runOn r.ids with ⟨f | state, ids⟩
  · rfl
  · simp only [run_bind, run_update]
    cases r.store.update? id r.clock.draw.1 state with
    | none => rfl
    | some made => rfl

end SchemaGraph.Registry
