import SchemaGraph.Project
import SchemaGraph.Proofs.Partial

/-!
# What is in a store

A store in which no id is repeated is known from its projects and from the order of their ids. For
each operation it is said what it does to both.
-/

namespace SchemaGraph.Store

variable {s : Store} {p q : Project} {id : String}

theorem get?_eq_some_iff (distinct : s.ids.Nodup) :
    s.get? id = some p ↔ p ∈ s.projects ∧ p.id = id :=
  find?_eq_some_iff_of_nodup distinct

theorem exists_get?_iff : (∃ p, s.get? id = some p) ↔ id ∈ s.ids := by
  rw [← has_iff, has, ← Option.isSome_iff_exists, get?, List.find?_isSome, List.any_eq_true]

theorem get?_eq_none_iff : s.get? id = none ↔ id ∉ s.ids := by
  rw [← exists_get?_iff, not_exists, Option.eq_none_iff_forall_ne_some]

theorem mem_ids_of_get? (held : s.get? id = some p) : p.id ∈ s.ids :=
  List.mem_map_of_mem (List.mem_of_find?_eq_some held)

/-- The store with a project written last, in the place of the one with its id. -/
def rewrite (s : Store) (p : Project) : Store :=
  { s.delete p.id with projects := (s.delete p.id).projects ++ [p] }

theorem update?_eq (time : String) (state : State Float) :
    s.update? id time state =
      (s.get? id).map fun p => (s.rewrite (p.revise time state), p.revise time state) := by
  cases found : s.get? id with
  | none => simp [update?, found]
  | some p =>
      have same : p.id = id := by simpa using List.find?_some found
      subst same
      simp [update?, found, rewrite, Project.revise]

variable {given : Option String} {fresh name time : String} {state : State Float}

theorem create?_put (room : given.any s.has = true ∨ s.isFull = false) :
    s.create? given fresh name time state =
      some (s.put (.create (given.getD fresh) name time state),
        .create (given.getD fresh) name time state) := by
  have stays : (given.any s.has || !s.isFull) = true := by
    rcases room with h | h <;> simp [h]
  simp [create?, makeRoom?, stays]

theorem create?_evict {first : Project} {rest : List Project} (absent : given.any s.has = false)
    (full : s.isFull = true) (projects : s.projects = first :: rest) :
    s.create? given fresh name time state =
      some ({ s with projects := rest }.put (.create (given.getD fresh) name time state),
        .create (given.getD fresh) name time state) := by
  simp [create?, makeRoom?, absent, full, projects]

@[simp] theorem ids_put : (s.put p).ids = if p.id ∈ s.ids then s.ids else s.ids ++ [p.id] :=
  map_id_putInto p s.projects

/-- A project that takes the place of the first one goes to the end. -/
theorem ids_put_rest {first : Project} {rest : List Project} (projects : s.projects = first :: rest)
    (absent : p.id ∉ s.ids) :
    s.ids = first.id :: rest.map (·.id) ∧
      ({ s with projects := rest }.put p).ids = rest.map (·.id) ++ [p.id] := by
  have before : s.ids = first.id :: rest.map (·.id) := by rw [ids, projects, List.map_cons]
  refine ⟨before, ?_⟩
  rw [before] at absent
  rw [ids_put]
  exact if_neg (List.not_mem_of_not_mem_cons absent)

@[simp] theorem ids_rewrite : (s.rewrite p).ids = s.ids.filter (· != p.id) ++ [p.id] := by
  have kept := ids_delete s p.id
  simp only [ids, rewrite, List.map_append, List.map_cons, List.map_nil] at kept ⊢
  rw [kept]

theorem nodup_put (distinct : s.ids.Nodup) : (s.put p).ids.Nodup := by
  rw [ids_put]
  split
  · exact distinct
  · rename_i absent
    rw [← List.concat_eq_append]
    exact distinct.concat absent

theorem nodup_rewrite (distinct : s.ids.Nodup) : (s.rewrite p).ids.Nodup := by
  rw [ids_rewrite, ← List.concat_eq_append]
  exact (distinct.filter _).concat fun again => by simpa using (List.mem_filter.mp again).2

theorem length_put_le : (s.put p).ids.length ≤ s.ids.length + 1 := by
  rw [ids_put]
  split <;> simp

theorem length_rewrite (distinct : s.ids.Nodup) (held : p.id ∈ s.ids) :
    (s.rewrite p).ids.length = s.ids.length := by
  rw [ids_rewrite, ← distinct.erase_eq_filter, List.length_append, List.length_erase_of_mem held]
  exact Nat.sub_add_cancel (List.length_pos_of_mem held)

theorem mem_ids_put (h : id ∈ s.ids) : id ∈ (s.put p).ids := by
  rw [ids_put]
  split
  · exact h
  · exact List.mem_append_left _ h

theorem mem_ids_rewrite (h : id ∈ s.ids) : id ∈ (s.rewrite p).ids := by
  rw [ids_rewrite]
  by_cases same : id = p.id
  · exact List.mem_append_right _ (List.mem_singleton.mpr same)
  · exact List.mem_append_left _ (List.mem_filter.mpr ⟨h, bne_iff_ne.mpr same⟩)

theorem of_mem_rewrite (h : q ∈ (s.rewrite p).projects) :
    q = p ∨ q ∈ s.projects ∧ q.id ≠ p.id := by
  rcases List.mem_append.mp h with kept | new
  · exact .inr (by simpa [delete] using kept)
  · exact .inl (List.mem_singleton.mp new)

theorem of_mem_putInto {ps : List Project} (distinct : (ps.map (·.id)).Nodup)
    (h : q ∈ putInto p ps) : q = p ∨ q ∈ ps ∧ q.id ≠ p.id := by
  induction ps with
  | nil => exact .inl (List.mem_singleton.mp h)
  | cons u ps ih =>
      obtain ⟨first, rest⟩ := List.nodup_cons.mp distinct
      unfold putInto at h
      split at h
      · rename_i same
        refine (List.mem_cons.mp h).imp_right fun hq => ⟨List.mem_cons_of_mem _ hq, fun again => ?_⟩
        exact first (List.mem_map.mpr ⟨q, hq, again.trans (beq_iff_eq.mp same).symm⟩)
      · rename_i other
        rcases List.mem_cons.mp h with rfl | hq
        · exact .inr ⟨List.mem_cons_self, fun same => other (beq_iff_eq.mpr same)⟩
        · exact (ih rest hq).imp_right fun old => ⟨List.mem_cons_of_mem _ old.1, old.2⟩

theorem of_mem_put (distinct : s.ids.Nodup) (h : q ∈ (s.put p).projects) :
    q = p ∨ q ∈ s.projects ∧ q.id ≠ p.id :=
  of_mem_putInto distinct h

end SchemaGraph.Store
