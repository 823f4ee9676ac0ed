import SchemaGraph.Proofs.Project.Runs

/-!
# What a project went through

Each project of a registry has a history of its own: it was created with a schema, and since then
commands were tried on it and its schema was replaced. The main statement is that a run of calls
leaves each project as its own history says, whatever happens to the others, and that a project is
lost, other than by deletion, only if one is created while the registry is full.
-/

namespace SchemaGraph.Registry

/-- Something that is done to a project. A command comes with the ids that it draws. -/
inductive Event where
  | created (state : State Float)
  | tried (payload : Json) (ids : Supply)
  | replaced (state : State Float)

/-- A schema and the number of its revision. -/
abbrev Account := State Float × Nat

/-- What an event makes of a project. A command that fails changes nothing. -/
def Event.next (settings : Config.Settings) (account : Option Account) : Event → Option Account
  | created state => some (state, 0)
  | tried payload ids =>
    account.map fun (state, revision) =>
      match ((Command.applyDocument settings payload state).runOn ids).1 with
      | .ok state => (state, revision + 1)
      | .error _ => (state, revision)
  | replaced state => account.map fun (_, revision) => (state, revision + 1)

/-- What a history makes of a project. -/
def account (settings : Config.Settings) (events : List Event) : Option Account :=
  events.foldl (Event.next settings) none

/-- What a call does, and the id of the project to which it does so. -/
def Call.event (r : Registry) : Call → Option (String × Event)
  | create given _ state => some (newId given r, .created state)
  | command id payload => some (id, .tried payload r.ids)
  | update id state => some (id, .replaced state)
  | delete _ => none

/-- The events of one project. -/
def own (id : String) (log : List (String × Event)) : List Event :=
  (log.filter (·.1 == id)).map (·.2)

theorem account_append (settings : Config.Settings) (events : List Event) (e : Event) :
    account settings (events ++ [e]) = e.next settings (account settings events) := by
  simp [account]

theorem own_append_self (id : String) (log : List (String × Event)) (e : Event) :
    own id (log ++ [(id, e)]) = own id log ++ [e] := by
  simp [own]

theorem own_append_of_ne {id other : String} (h : other ≠ id) (log : List (String × Event))
    (e : Event) : own id (log ++ [(other, e)]) = own id log := by
  simp [own, h]

/-- Whether every project is as its own events say. -/
def AreAsTold (r : Registry) (log : List (String × Event)) : Prop :=
  ∀ p ∈ r.store.projects, account r.settings (own p.id log) = some (p.state, p.revision)

section Step

variable {r : Registry} {log : List (String × Event)} {p q : Project} {id : String}

/-- An event of another project is none of its own. -/
theorem AreAsTold.of_ne (told : AreAsTold r log) (h : q ∈ r.store.projects) (other : q.id ≠ id)
    (e : Event) :
    account r.settings (own q.id (log ++ [(id, e)])) = some (q.state, q.revision) := by
  rw [own_append_of_ne other.symm]
  exact told q h

theorem AreAsTold.of_event (told : AreAsTold r log) (h : p ∈ r.store.projects) (e : Event) :
    account r.settings (own p.id (log ++ [(p.id, e)])) =
      e.next r.settings (some (p.state, p.revision)) := by
  rw [own_append_self, account_append, told p h]

/-- Whatever the effect of a call is, each project is as its own events say. -/
theorem Call.Effect.account_eq {c : Call} {o : Except Failure Unit} {s : Store}
    (h : Effect r c o s) (told : AreAsTold r log) (distinct : r.store.ids.Nodup)
    (hq : q ∈ s.projects) :
    account r.settings (own q.id (log ++ (c.event r).toList)) = some (q.state, q.revision) := by
  have created (id : String) (state : State Float) :
      account r.settings (own id (log ++ [(id, .created state)])) = some (state, 0) := by
    rw [own_append_self, account_append]
    rfl
  -- A project afterwards is the one that was written, or an old one with another id, of which the
  -- event is none. So each effect is split by whether `q` is the written project.
  cases h with
  | put room =>
      rcases Store.of_mem_put distinct hq with rfl | ⟨old, other⟩
      · exact created _ _
      · exact told.of_ne old other _
  | evict absent full projects =>
      rw [Store.ids, projects] at distinct
      rcases Store.of_mem_putInto (List.nodup_cons.mp distinct).2 hq with rfl | ⟨old, other⟩
      · exact created _ _
      · exact told.of_ne (projects ▸ List.mem_cons_of_mem _ old) other _
  | missing absent =>
      refine told.of_ne hq (fun same => absent ?_) _
      exact same ▸ List.mem_map_of_mem hq
  | @refused id payload p f held failed =>
      obtain ⟨there, rfl⟩ := (Store.get?_eq_some_iff distinct).mp held
      by_cases same : q.id = p.id
      · obtain rfl := List.inj_on_of_nodup_map distinct hq there same
        refine (told.of_event hq _).trans ?_
        simp [Event.next, failed]
      · exact told.of_ne hq same _
  | @revised id payload p state held ran =>
      obtain ⟨there, rfl⟩ := (Store.get?_eq_some_iff distinct).mp held
      rcases Store.of_mem_rewrite hq with rfl | ⟨old, other⟩
      · refine (told.of_event there _).trans ?_
        simp [Event.next, ran, Project.revise]
      · exact told.of_ne old other _
  | ignored absent =>
      refine told.of_ne hq (fun same => absent ?_) _
      exact same ▸ List.mem_map_of_mem hq
  | @replaced id state p held =>
      obtain ⟨there, rfl⟩ := (Store.get?_eq_some_iff distinct).mp held
      rcases Store.of_mem_rewrite hq with rfl | ⟨old, other⟩
      · exact told.of_event there _
      · exact told.of_ne old other _
  | deleted =>
      rw [Call.event, Option.toList_none, List.append_nil]
      exact told q (List.mem_filter.mp hq).1

end Step

theorem AreAsTold.after {r : Registry} {log : List (String × Event)} {c : Call}
    (h : AreAsTold r log) (sound : r.IsSound) (fresh : c.IsFresh r) :
    AreAsTold (c.after r) (log ++ (c.event r).toList) := by
  intro q hq
  rw [c.settings_after]
  exact (sound.effect fresh).account_eq h sound.distinct hq

theorem areAsTold_run {r : Registry} (empty : r.store.projects = [])
    (room : 1 ≤ r.store.capacity) {calls : List Call} (fresh : AreFresh r calls) :
    (run r calls).IsSound ∧ AreAsTold (run r calls) (trace Call.event r calls) := by
  have start : AreAsTold r [] := by
    intro p hp
    rw [empty] at hp
    cases hp
  exact run_keeps (fun r log c sound fresh told => told.after sound fresh)
    (IsSound.of_empty empty room) fresh start

/-- From an empty registry with capacity, every run keeps to the capacity and leaves each project
as its own history says. Whatever is asked next, creating a project succeeds, one project is evicted
if a new one is created in a full registry and none otherwise, and a call that fails leaves the
store as it was. -/
theorem run_isFaithful {r : Registry} (empty : r.store.projects = [])
    (room : 1 ≤ r.store.capacity) (calls : List Call) (fresh : AreFresh r calls) :
    (run r calls).store.projects.length ≤ r.store.capacity ∧
    (∀ p ∈ (run r calls).store.projects,
      account r.settings (own p.id (trace Call.event r calls)) = some (p.state, p.revision)) ∧
    ∀ c : Call, c.IsFresh (run r calls) →
      (∀ given name state, c = .create given name state → c.outcome (run r calls) = .ok ()) ∧
      (c.evicted (run r calls)).length =
        (if c.isNew (run r calls) && (run r calls).store.isFull then 1 else 0) ∧
      ∀ f, c.outcome (run r calls) = .error f →
        (c.after (run r calls)).store = (run r calls).store := by
  obtain ⟨sound, told⟩ := areAsTold_run empty room fresh
  refine ⟨?_, ?_, fun c freshNext => ⟨?_, ?_, fun f failed => ?_⟩⟩
  · have bounded := sound.bounded
    rwa [capacity_run (IsSound.of_empty empty room) fresh, Store.ids, List.length_map] at bounded
  · intro p hp
    rw [← settings_run r calls]
    exact told p hp
  · rintro given name state rfl
    exact (sound.effect freshNext).ok_of_create
  · rw [Call.evicted_eq sound.room sound.distinct freshNext]
    split
    · rename_i full
      have some : 1 ≤ (run r calls).store.ids.length := by
        have full := (Bool.and_eq_true_iff.mp full).2
        rw [Store.isFull, decide_eq_true_iff] at full
        rw [Store.ids, List.length_map]
        exact Nat.le_trans sound.room full
      rw [List.length_take]
      exact Nat.min_eq_left some
    · rfl
  · have effect := sound.effect freshNext
    rw [failed] at effect
    exact effect.of_error

/-- Two projects, of which one takes on a dialect and the other refuses a command, and a third
one. -/
def threeProjects : List Call :=
  [.create (some "a") "first" {}, .create (some "b") "second" {},
    .command "a" (.obj [("type", .str "set_dialect"), ("dialect", .str "MySQL")]),
    .command "b" (.obj [("type", .str "paint")]), .create (some "c") "third" {}]

theorem run_isFaithful_threeProjects :
    twoRooms.store.projects = [] ∧ 1 ≤ twoRooms.store.capacity ∧ AreFresh twoRooms threeProjects ∧
      (run twoRooms threeProjects).store.projects.map (fun p => (p.id, p.revision)) =
        [("a", 1), ("c", 0)] ∧
      ∀ p ∈ (run twoRooms threeProjects).store.projects,
        account twoRooms.settings (own p.id (trace Call.event twoRooms threeProjects)) =
          some (p.state, p.revision) := by
  have fresh : AreFresh twoRooms threeProjects :=
    ⟨fun h => (by cases h), fun h => (by cases h), trivial, trivial, fun h => (by cases h), trivial⟩
  have room : 1 ≤ twoRooms.store.capacity := by decide
  exact ⟨rfl, room, fresh, rfl, (run_isFaithful rfl room threeProjects fresh).2.1⟩

end SchemaGraph.Registry
