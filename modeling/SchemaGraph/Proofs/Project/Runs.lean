import SchemaGraph.Proofs.Project.Calls

/-!
# Runs of calls

A registry is asked one call after another. What every call keeps is kept by every run, also if it
speaks of what was done on the way: of single calls something is read off, such as which project
they write, and what is read along a run is its trace.
-/

namespace SchemaGraph.Registry

variable {β : Type}

/-- Ask calls one after another. -/
def run (r : Registry) : List Call → Registry
  | [] => r
  | c :: rest => run (c.after r) rest

/-- Whether every id of a project that is drawn on the way is that of no project. -/
def AreFresh (r : Registry) : List Call → Prop
  | [] => True
  | c :: rest => c.IsFresh r ∧ AreFresh (c.after r) rest

/-- What is read off the calls of a run, in order. -/
def trace (read : Registry → Call → Option β) (r : Registry) : List Call → List β
  | [] => []
  | c :: rest => (read r c).toList ++ trace read (c.after r) rest

/-- A registry with capacity, with no more projects than that, and with no id twice. -/
structure IsSound (r : Registry) : Prop where
  room : 1 ≤ r.store.capacity
  distinct : r.store.ids.Nodup
  bounded : r.store.ids.length ≤ r.store.capacity

variable {r : Registry}

theorem IsSound.of_empty (empty : r.store.projects = []) (room : 1 ≤ r.store.capacity) :
    r.IsSound :=
  ⟨room, by simp [Store.ids, empty], by simp [Store.ids, empty]⟩

theorem IsSound.effect (h : r.IsSound) {c : Call} (fresh : c.IsFresh r) :
    Call.Effect r c (c.outcome r) (c.after r).store :=
  Call.effect h.room fresh

theorem IsSound.after (h : r.IsSound) {c : Call} (fresh : c.IsFresh r) : (c.after r).IsSound :=
  let effect := h.effect fresh
  ⟨by rw [effect.capacity]; exact h.room, effect.distinct h.distinct,
    effect.bounded h.distinct h.bounded⟩

/-- What every call keeps of a registry and its trace is kept by every run. -/
theorem run_keeps {read : Registry → Call → Option β} {P : Registry → List β → Prop}
    (next : ∀ (r : Registry) log c, r.IsSound → c.IsFresh r → P r log →
      P (c.after r) (log ++ (read r c).toList))
    {calls : List Call} (sound : r.IsSound) (fresh : AreFresh r calls) {log : List β}
    (h : P r log) : (run r calls).IsSound ∧ P (run r calls) (log ++ trace read r calls) := by
  induction calls generalizing r log with
  | nil => exact ⟨sound, by rwa [trace, List.append_nil]⟩
  | cons c rest ih =>
      rw [trace, ← List.append_assoc]
      exact ih (sound.after fresh.1) fresh.2 (next r log c sound fresh.1 h)

theorem capacity_run {calls : List Call} (sound : r.IsSound) (fresh : AreFresh r calls) :
    (run r calls).store.capacity = r.store.capacity := by
  induction calls generalizing r with
  | nil => rfl
  | cons c rest ih =>
      exact (ih (sound.after fresh.1) fresh.2).trans (sound.effect fresh.1).capacity

theorem settings_run (r : Registry) (calls : List Call) :
    (run r calls).settings = r.settings := by
  induction calls generalizing r with
  | nil => rfl
  | cons c rest ih => exact (ih _).trans (c.settings_after r)

/-- An empty registry with room for two projects. -/
def twoRooms : Registry :=
  { settings := Config.Settings.ofFile ⟨"config.yaml", .document Config.shipped⟩
    store := { capacity := 2 }
    ids := { idAt := fun n => "c" ++ toString n }
    projectIds := { idAt := fun n => "p" ++ toString n }
    clock := { idAt := fun _ => "noon" } }

end SchemaGraph.Registry
