import SchemaGraph.Proofs.Project.Steps
import SchemaGraph.Proofs.Project.Store

/-!
# Calls on a registry

What can be asked of a registry is a call. A call has one of a few effects on the store, and says
whether it failed. Properties of calls are read off the effects, and no other proof opens a call.

Ids of projects are drawn from a supply. A call that draws one is fresh if no project has it.
-/

namespace SchemaGraph

namespace Project

@[simp] theorem create_id (id name time : String) (state : State Float) :
    (create id name time state).id = id := rfl

@[simp] theorem revise_id (p : Project) (time : String) (state : State Float) :
    (p.revise time state).id = p.id := rfl

end Project

namespace Registry

inductive Call where
  | create (given : Option String) (name : String) (state : State Float)
  | command (id : String) (payload : Json)
  | update (id : String) (state : State Float)
  | delete (id : String)

namespace Call

def step : Call → Step Unit
  | create given name state => do
    let _ ← Registry.create given name state
    return ()
  | command id payload => do
    let _ ← applyCommand id payload
    return ()
  | update id state => do
    let _ ← Registry.update id state
    return ()
  | delete id => do
    let _ ← Registry.delete id
    return ()

def outcome (c : Call) (r : Registry) : Except Failure Unit := (c.step.run r).1

def after (c : Call) (r : Registry) : Registry := (c.step.run r).2

/-- The id of the project that would be created. -/
def newId (given : Option String) (r : Registry) : String :=
  (Store.givenId? given).getD r.projectIds.draw.1

/-- Whether an id that the call draws is that of no project. -/
def IsFresh (r : Registry) : Call → Prop
  | create given _ _ => Store.givenId? given = none → r.projectIds.draw.1 ∉ r.store.ids
  | _ => True

/-- What a call answers and makes of the store. -/
inductive Effect (r : Registry) : Call → Except Failure Unit → Store → Prop
  /-- There is room for the project, or it is created again in its place. -/
  | put {given name state} (room : newId given r ∈ r.store.ids ∨ r.store.isFull = false) :
    Effect r (create given name state) (.ok ())
      (r.store.put (.create (newId given r) name r.clock.draw.1 state))
  /-- The first project makes room for the new one. -/
  | evict {given name state first rest} (absent : newId given r ∉ r.store.ids)
      (full : r.store.isFull = true) (projects : r.store.projects = first :: rest) :
    Effect r (create given name state) (.ok ())
      ({ r.store with projects := rest }.put (.create (newId given r) name r.clock.draw.1 state))
  | missing {id payload} (absent : id ∉ r.store.ids) :
    Effect r (command id payload) (.error (Store.missing id)) r.store
  | refused {id payload p f} (held : r.store.get? id = some p)
      (failed : ((Command.applyDocument r.settings payload p.state).runOn r.ids).1 = .error f) :
    Effect r (command id payload) (.error f) r.store
  | revised {id payload p state} (held : r.store.get? id = some p)
      (ran : ((Command.applyDocument r.settings payload p.state).runOn r.ids).1 = .ok state) :
    Effect r (command id payload) (.ok ()) (r.store.rewrite (p.revise r.clock.draw.1 state))
  | ignored {id state} (absent : id ∉ r.store.ids) : Effect r (update id state) (.ok ()) r.store
  | replaced {id state p} (held : r.store.get? id = some p) :
    Effect r (update id state) (.ok ()) (r.store.rewrite (p.revise r.clock.draw.1 state))
  | deleted {id} : Effect r (delete id) (.ok ()) (r.store.delete id)

variable {r : Registry} {c : Call}

theorem run_step_bind {α : Type} (x : Step α) (r : Registry) :
    (do let _ ← x; return () : Step Unit).run r = ((x.run r).1.map fun _ => (), (x.run r).2) := by
  rw [run_bind]
  rcases x.run r with ⟨_ | _, _⟩ <;> rfl

/-- A given id is looked for, and a fresh one need not be. -/
theorem any_has_givenId? {given : Option String} {name : String} {state : State Float}
    (fresh : IsFresh r (create given name state)) :
    (Store.givenId? given).any r.store.has = true ↔ newId given r ∈ r.store.ids := by
  cases asked : Store.givenId? given with
  | none => simpa [newId, asked] using fresh asked
  | some id => simp [newId, asked, Store.has_iff]

/-- In a registry with capacity, a call has one of the effects. -/
theorem effect (room : 1 ≤ r.store.capacity) (fresh : c.IsFresh r) :
    Effect r c (c.outcome r) (c.after r).store := by
  cases c with
  | create given name state =>
      rw [outcome, after, step, run_step_bind, run_create]
      by_cases stays : newId given r ∈ r.store.ids ∨ r.store.isFull = false
      · rw [Store.create?_put (stays.imp_left (any_has_givenId? fresh).mpr)]
        exact .put stays
      · obtain ⟨absent, full⟩ := not_or.mp stays
        have full : r.store.isFull = true := by simpa using full
        cases projects : r.store.projects with
        | nil =>
            rw [Store.isFull, projects] at full
            simp at full
            omega
        | cons first rest =>
            have isNew := Bool.eq_false_iff.mpr (mt (any_has_givenId? fresh).mp absent)
            rw [Store.create?_evict isNew full projects]
            exact .evict absent full projects
  | command id payload =>
      rw [outcome, after, step, run_step_bind, run_applyCommand, Store.stateAfter]
      cases held : r.store.get? id with
      | none => exact .missing (Store.get?_eq_none_iff.mp held)
      | some p =>
          rcases ran : (Command.applyDocument r.settings payload p.state).runOn r.ids with
            ⟨f | state, ids⟩
          · exact .refused held (by rw [ran])
          · simp only [Store.update?_eq, held, Option.map_some]
            exact .revised held (by rw [ran])
  | update id state =>
      rw [outcome, after, step, run_step_bind, run_update, Store.update?_eq]
      cases held : r.store.get? id with
      | none => exact .ignored (Store.get?_eq_none_iff.mp held)
      | some p => exact .replaced held
  | delete id =>
      rw [outcome, after, step, run_step_bind, run_delete]
      exact .deleted

theorem settings_after (c : Call) (r : Registry) : (c.after r).settings = r.settings := by
  cases c with
  | create given name state =>
      rw [after, step, run_step_bind, run_create]
      split <;> rfl
  | command id payload =>
      rw [after, step, run_step_bind, run_applyCommand]
      split
      · rfl
      · split <;> rfl
  | update id state =>
      rw [after, step, run_step_bind, run_update]
      split <;> rfl
  | delete id => rw [after, step, run_step_bind, run_delete]

theorem Effect.capacity {o : Except Failure Unit} {s : Store} (h : Effect r c o s) :
    s.capacity = r.store.capacity := by
  cases h <;> rfl

/-- A call that fails leaves every project and their order as they were. -/
theorem Effect.of_error {f : Failure} {s : Store} (h : Effect r c (.error f) s) :
    s = r.store := by
  cases h <;> rfl

/-- Nothing but a command fails. -/
theorem Effect.ok_of_create {given : Option String} {name : String} {state : State Float}
    {o : Except Failure Unit} {s : Store} (h : Effect r (create given name state) o s) :
    o = .ok () := by
  cases h <;> rfl

/-- Whether a project is created that is not there. -/
def isNew (r : Registry) : Call → Bool
  | create given _ _ => !r.store.has (newId given r)
  | _ => false

/-- Whether a call deletes the project with an id. -/
def deletes (id : String) : Call → Bool
  | delete other => id == other
  | _ => false

/-- The ids of the projects that a call takes out of the store without deleting them. -/
def evicted (r : Registry) (c : Call) : List String :=
  r.store.ids.filter fun id => id ∉ (c.after r).store.ids && !c.deletes id

namespace Effect

variable {o : Except Failure Unit} {s : Store}

theorem distinct (h : Effect r c o s) (distinct : r.store.ids.Nodup) : s.ids.Nodup := by
  cases h with
  | put room => exact Store.nodup_put distinct
  | evict absent full projects =>
      rw [Store.ids, projects] at distinct
      exact Store.nodup_put (List.nodup_cons.mp distinct).2
  | revised held ran => exact Store.nodup_rewrite distinct
  | replaced held => exact Store.nodup_rewrite distinct
  | deleted =>
      rw [Store.ids_delete]
      exact distinct.filter _
  | _ => exact distinct

theorem bounded (h : Effect r c o s) (distinct : r.store.ids.Nodup)
    (bounded : r.store.ids.length ≤ r.store.capacity) : s.ids.length ≤ s.capacity := by
  rw [h.capacity]
  cases h with
  | put room =>
      rcases room with again | free
      · rwa [Store.ids_put, Project.create_id, if_pos again]
      · refine Nat.le_trans Store.length_put_le ?_
        have free : r.store.projects.length < r.store.capacity := by
          simpa [Store.isFull] using free
        rwa [Store.ids, List.length_map]
  | evict absent full projects =>
      refine Nat.le_trans Store.length_put_le ?_
      simpa [Store.ids, projects] using bounded
  | revised held ran =>
      have there := Store.mem_ids_of_get? held
      exact Nat.le_trans (Nat.le_of_eq (Store.length_rewrite distinct there)) bounded
  | replaced held =>
      have there := Store.mem_ids_of_get? held
      exact Nat.le_trans (Nat.le_of_eq (Store.length_rewrite distinct there)) bounded
  | deleted =>
      rw [Store.ids_delete]
      exact Nat.le_trans (List.length_filter_le _ _) bounded
  | _ => exact bounded

/-- What is not deleted is kept, unless a project is created that is not there and there is no
room for it. -/
theorem mem_ids (h : Effect r c o s) (room : ¬ (c.isNew r = true ∧ r.store.isFull = true))
    {id : String} (there : id ∈ r.store.ids) (spared : c.deletes id = false) : id ∈ s.ids := by
  cases h with
  | put => exact Store.mem_ids_put there
  | evict absent full =>
      refine absurd ⟨?_, full⟩ room
      simpa [isNew] using Bool.eq_false_iff.mpr (mt Store.has_iff.mp absent)
  | revised => exact Store.mem_ids_rewrite there
  | replaced => exact Store.mem_ids_rewrite there
  | deleted =>
      rw [Store.ids_delete]
      exact List.mem_filter.mpr ⟨there, bne_iff_ne.mpr (beq_eq_false_iff_ne.mp spared)⟩
  | _ => exact there

/-- If there is no room for a new project, the first one makes way for it. -/
theorem exists_first (h : Effect r c o s) (new : c.isNew r = true)
    (full : r.store.isFull = true) :
    ∃ first rest id, r.store.ids = first :: rest ∧ id ∉ r.store.ids ∧ s.ids = rest ++ [id] := by
  cases h with
  | put room =>
      rcases room with again | free
      · simp [isNew, Store.has_iff.mpr again] at new
      · rw [full] at free
        cases free
  | @evict given name state first rest absent _ projects =>
      obtain ⟨before, after⟩ :=
        Store.ids_put_rest (p := .create (newId given r) name r.clock.draw.1 state) projects absent
      exact ⟨first.id, rest.map (·.id), newId given r, before, absent, after⟩
  | _ => cases new

end Effect

/-- A call evicts the first project if another one is created while there is no room for it, and
otherwise none. -/
theorem evicted_eq (room : 1 ≤ r.store.capacity) (distinct : r.store.ids.Nodup)
    (fresh : c.IsFresh r) :
    c.evicted r = if c.isNew r && r.store.isFull then r.store.ids.take 1 else [] := by
  have effect := effect room fresh
  split
  · rename_i crowded
    obtain ⟨new, full⟩ := Bool.and_eq_true_iff.mp crowded
    -- A call that creates deletes nothing, so whatever is gone was evicted.
    have spared (id : String) : c.deletes id = false := by
      cases c with
      | delete _ => cases new
      | _ => rfl
    obtain ⟨first, rest, id, before, absent, after⟩ := effect.exists_first new full
    rw [before] at distinct absent
    have gone : first ∉ rest ++ [id] := by
      have other := List.ne_of_not_mem_cons absent
      simpa [Ne.symm other] using (List.nodup_cons.mp distinct).1
    have kept : ∀ other ∈ rest, other ∈ rest ++ [id] := fun _ => List.mem_append_left _
    rw [evicted, after, before, List.filter_cons_of_pos (by simp [gone, spared]),
      List.filter_eq_nil_iff.mpr fun other h => by simp [kept other h]]
    rfl
  · rename_i crowded
    refine List.filter_eq_nil_iff.mpr fun id there taken => ?_
    obtain ⟨gone, spared⟩ := Bool.and_eq_true_iff.mp taken
    refine of_decide_eq_true gone (effect.mem_ids ?_ there (by simpa using spared))
    rwa [← Bool.and_eq_true_iff]

end Call
end Registry
end SchemaGraph
