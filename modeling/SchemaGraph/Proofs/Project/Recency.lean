import SchemaGraph.Proofs.Project.Runs

/-!
# Which project is evicted

A store is meant to keep its projects in the order in which they were last written, so that the
first one is the one to evict. It does so for every call that writes a project but one: a project
that is created again under its id keeps its place. The main statement is therefore about the
writes that move a project to the end. Counted by these, the project that is evicted is the one that
was written the longest time ago; counted by all writes it need not be.
-/

namespace SchemaGraph.Registry

/-- How many writes there were since the last one of a project. -/
def age (log : List String) (id : String) : Nat := log.reverse.idxOf id

theorem age_append_self (log : List String) (id : String) : age (log ++ [id]) id = 0 := by
  simp [age]

theorem age_append_of_ne (log : List String) {id other : String} (h : id ≠ other) :
    age (log ++ [other]) id = age log id + 1 := by
  simp [age, List.idxOf_cons_ne _ h.symm]

/-- Whether ids stand in the order of their last writes, the oldest first. -/
structure InOrder (ids log : List String) : Prop where
  written : ∀ id ∈ ids, id ∈ log
  sorted : ids.Pairwise fun a b => age log b < age log a

namespace InOrder

variable {ids ids' log : List String} {id : String}

theorem sublist (h : InOrder ids log) (sub : ids'.Sublist ids) : InOrder ids' log :=
  ⟨fun id hid => h.written id (sub.subset hid), h.sorted.sublist sub⟩

/-- The id that is written goes to the end. -/
theorem append (h : InOrder ids log) (absent : id ∉ ids) :
    InOrder (ids ++ [id]) (log ++ [id]) := by
  -- All others get older by one, which keeps their order, and what is written has no age at all.
  have older {other : String} (there : other ∈ ids) :
      age (log ++ [id]) other = age log other + 1 :=
    age_append_of_ne log (ne_of_mem_of_not_mem there absent)
  refine ⟨fun other there => ?_, List.pairwise_append.mpr ⟨?_, List.pairwise_singleton _ _, ?_⟩⟩
  · rcases List.mem_append.mp there with there | new
    · exact List.mem_append_left _ (h.written other there)
    · exact List.mem_append_right _ new
  · refine h.sorted.imp_of_mem fun ha hb younger => ?_
    rw [older ha, older hb]
    exact Nat.succ_lt_succ younger
  · intro other there last hlast
    rw [List.mem_singleton.mp hlast, age_append_self, older there]
    exact Nat.succ_pos _

theorem older_of_mem_take {other : String} (h : InOrder ids log) (first : id ∈ ids.take 1)
    (there : other ∈ ids) (ne : other ≠ id) : age log other < age log id := by
  cases ids with
  | nil => cases there
  | cons a ids =>
      obtain rfl := List.mem_singleton.mp first
      exact (List.pairwise_cons.mp h.sorted).1 other ((List.mem_cons.mp there).resolve_left ne)

end InOrder

/-- The project that a call moves to the end of the store. -/
def Call.moved (r : Registry) (c : Call) : Option String :=
  match c with
  | create given _ _ => if r.store.has (newId given r) then none else some (newId given r)
  | command id _ => if (c.outcome r).isOk then some id else none
  | update id _ => if r.store.has id then some id else none
  | delete _ => none

/-- The project that a call writes. -/
def Call.written (r : Registry) (c : Call) : Option String :=
  match c with
  | create given _ _ => some (newId given r)
  | c => c.moved r

variable {r : Registry} {c : Call} {log : List String}

/-- Every call keeps the order, if the projects that it moves are the ones taken to be written. -/
theorem Call.Effect.inOrder {o : Except Failure Unit} {s : Store} (h : Effect r c o s)
    (outcome : c.outcome r = o) (ordered : InOrder r.store.ids log) :
    InOrder s.ids (log ++ (c.moved r).toList) := by
  have rewritten (p : Project) : InOrder (r.store.rewrite p).ids (log ++ [p.id]) := by
    rw [Store.ids_rewrite]
    exact (ordered.sublist List.filter_sublist).append fun again => by
      simpa using (List.mem_filter.mp again).2
  have unmoved (none : c.moved r = none) (same : s = r.store) :
      InOrder s.ids (log ++ (c.moved r).toList) := by
    rw [none, same, Option.toList_none, List.append_nil]
    exact ordered
  cases h with
  | @put given name state room =>
      rw [Store.ids_put, Project.create_id]
      split
      · rename_i there
        rw [moved, if_pos (Store.has_iff.mpr there), Option.toList_none, List.append_nil]
        exact ordered
      · rename_i absent
        rw [moved, if_neg (mt Store.has_iff.mp absent), Option.toList_some]
        exact ordered.append absent
  | @evict given name state first rest absent full projects =>
      obtain ⟨before, after⟩ :=
        Store.ids_put_rest (p := .create (newId given r) name r.clock.draw.1 state) projects absent
      rw [moved, if_neg (mt Store.has_iff.mp absent), Option.toList_some, after]
      rw [before] at ordered absent
      exact (ordered.sublist (List.sublist_cons_self _ _)).append
        (List.not_mem_of_not_mem_cons absent)
  | missing absent => exact unmoved (by rw [moved, outcome]; rfl) rfl
  | refused held failed => exact unmoved (by rw [moved, outcome]; rfl) rfl
  | @revised id payload p state held ran =>
      obtain rfl : p.id = id := by simpa using List.find?_some held
      rw [moved, outcome]
      exact rewritten (p.revise r.clock.draw.1 state)
  | ignored absent => exact unmoved (if_neg (mt Store.has_iff.mp absent)) rfl
  | @replaced id state p held =>
      obtain rfl : p.id = id := by simpa using List.find?_some held
      rw [moved, if_pos (Store.has_iff.mpr (Store.mem_ids_of_get? held))]
      exact rewritten (p.revise r.clock.draw.1 state)
  | deleted =>
      rw [moved, Store.ids_delete, Option.toList_none, List.append_nil]
      exact ordered.sublist List.filter_sublist

theorem inOrder_run (empty : r.store.projects = []) (room : 1 ≤ r.store.capacity)
    {calls : List Call} (fresh : AreFresh r calls) :
    (run r calls).IsSound ∧ InOrder (run r calls).store.ids (trace Call.moved r calls) := by
  have start : InOrder r.store.ids [] := by
    rw [Store.ids, empty]
    exact ⟨fun _ h => (by cases h), .nil⟩
  exact run_keeps (P := fun r log => InOrder r.store.ids log)
    (fun r log c sound fresh ordered => (sound.effect fresh).inOrder rfl ordered)
    (IsSound.of_empty empty room) fresh start

/-- From an empty registry with capacity, whatever was asked of it, the project that a call evicts
is the one whose last write is the oldest, if creating a project again in its place is not counted
as a write. -/
theorem evicted_isOldest (empty : r.store.projects = []) (room : 1 ≤ r.store.capacity)
    {calls : List Call} (fresh : AreFresh r calls) {c : Call} (freshNext : c.IsFresh (run r calls))
    {id : String} (h : id ∈ c.evicted (run r calls)) :
    id ∈ trace Call.moved r calls ∧ ∀ other ∈ (run r calls).store.ids, other ≠ id →
      age (trace Call.moved r calls) other < age (trace Call.moved r calls) id := by
  obtain ⟨sound, ordered⟩ := inOrder_run empty room fresh
  refine ⟨ordered.written id (List.mem_filter.mp h).1, fun other held ne => ?_⟩
  rw [Call.evicted_eq sound.room sound.distinct freshNext] at h
  split at h
  · exact ordered.older_of_mem_take h held ne
  · cases h

/-- Two projects, of which the older one is created again. -/
def againFirst : List Call :=
  [.create (some "a") "first" {}, .create (some "b") "second" {}, .create (some "a") "again" {}]

theorem evicted_isOldest_againFirst :
    twoRooms.store.projects = [] ∧ 1 ≤ twoRooms.store.capacity ∧
      AreFresh twoRooms againFirst ∧
      Call.IsFresh (run twoRooms againFirst) (.create (some "c") "third" {}) ∧
      Call.evicted (run twoRooms againFirst) (.create (some "c") "third" {}) = ["a"] ∧
      age (trace Call.moved twoRooms againFirst) "b" <
        age (trace Call.moved twoRooms againFirst) "a" := by
  have fresh : AreFresh twoRooms againFirst :=
    ⟨fun h => (by cases h), fun h => (by cases h), fun h => (by cases h), trivial⟩
  have freshNext : Call.IsFresh (run twoRooms againFirst) (.create (some "c") "third" {}) :=
    fun h => by cases h
  have room : 1 ≤ twoRooms.store.capacity := by decide
  have gone : Call.evicted (run twoRooms againFirst) (.create (some "c") "third" {}) = ["a"] := rfl
  have first := List.mem_singleton_self "a"
  rw [← gone] at first
  exact ⟨rfl, room, fresh, freshNext, gone,
    (evicted_isOldest rfl room fresh freshNext first).2 "b" (by decide) (by decide)⟩

/-- If creating a project again is counted as a write, the one that is evicted is the one written
last. -/
theorem not_evicted_isOldest_againFirst :
    ¬ ∀ id ∈ Call.evicted (run twoRooms againFirst) (.create (some "c") "third" {}),
      ∀ other ∈ (run twoRooms againFirst).store.ids, other ≠ id →
        age (trace Call.written twoRooms againFirst) other <
          age (trace Call.written twoRooms againFirst) id := by
  intro oldest
  have younger := oldest "a" (by decide) "b" (by decide) (by decide)
  revert younger
  decide

end SchemaGraph.Registry
