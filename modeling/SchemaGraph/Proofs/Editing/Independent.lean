import SchemaGraph.Proofs.Editing.Effect

/-!
# Updates that commute

Two steps are independent if either of them succeeds or fails whether or not the other one was
taken before, and if they lead to the same place in either order when both succeed. A step that
fails leaves things as they are.

Updates with different targets are independent. Those of tables and of columns replace a table, and
what they make of it depends on that table alone; those of relationships ask which columns there
are, which no update changes. An update of a table puts all of its columns into normal form, and one
of a column leaves that column in normal form, so it makes no difference which of the two is first.
-/

namespace SchemaGraph

open Decode

variable {α σ : Type}

/-- Take a step if it can be taken. -/
def attempt (f : σ → Option σ) (s : σ) : σ := (f s).getD s

/-- Steps that have nothing to do with each other. -/
structure Independent (f g : σ → Option σ) : Prop where
  both : ∀ {s s₁ s₂}, f s = some s₁ → g s = some s₂ → ∃ u, g s₁ = some u ∧ f s₂ = some u
  right : ∀ {s s₁}, f s = some s₁ → g s = none → g s₁ = none
  left : ∀ {s s₂}, f s = none → g s = some s₂ → f s₂ = none

namespace Independent

variable {f g : σ → Option σ}

theorem symm (h : Independent f g) : Independent g f where
  both first second := by
    obtain ⟨u, there, back⟩ := h.both second first
    exact ⟨u, back, there⟩
  right first second := h.left second first
  left first second := h.right second first

/-- Whether a step can be taken does not depend on the other one. -/
theorem isSome_attempt (h : Independent f g) (s : σ) :
    (g (attempt f s)).isSome = (g s).isSome := by
  unfold attempt
  cases hf : f s with
  | none => rfl
  | some s₁ =>
      cases hg : g s with
      | none => rw [Option.getD_some, h.right hf hg]
      | some s₂ =>
          obtain ⟨u, there, -⟩ := h.both hf hg
          rw [Option.getD_some, there]
          rfl

/-- The order of the steps makes no difference. -/
theorem attempt_comm (h : Independent f g) (s : σ) :
    attempt g (attempt f s) = attempt f (attempt g s) := by
  unfold attempt
  cases hf : f s with
  | none =>
      cases hg : g s with
      | none => rw [Option.getD_none, hf, hg]
      | some s₂ => rw [Option.getD_none, hg, Option.getD_some, h.left hf hg, Option.getD_none]
  | some s₁ =>
      cases hg : g s with
      | none => rw [Option.getD_none, hf, Option.getD_some, h.right hf hg, Option.getD_none]
      | some s₂ =>
          obtain ⟨u, there, back⟩ := h.both hf hg
          rw [Option.getD_some, Option.getD_some, there, back]
          rfl

/-- A step that can always be taken and that the other one does not notice. -/
theorem of_total {h : σ → σ} (comm : ∀ s, f (h s) = (f s).map h) :
    Independent f fun s => some (h s) where
  both {s s₁ s₂} first second := by
    cases second
    exact ⟨h s₁, rfl, by rw [comm, first, Option.map_some]⟩
  right _ second := by cases second
  left {s s₂} first second := by
    cases second
    rw [comm, first, Option.map_none]

/-- A step that can never be taken has nothing to do with any other. -/
theorem of_none (never : ∀ s, f s = none) : Independent f g where
  both {s s₁ s₂} first := by
    rw [never s] at first
    cases first
  right {s s₁} first := by
    rw [never s] at first
    cases first
  left _ _ := never _

end Independent

/-- Put what a step makes of a table in its place. -/
def State.tryTable (id : String) (step : Table α → Option (Table α)) (s : State α) :
    Option (State α) := do
  let t ← s.table? id
  return s.replaceTable id (← step t)

/-- Put what a change makes of a column in its place. -/
def Table.tryColumn (id : String) (change : Column → Column) (t : Table α) : Option (Table α) := do
  let c ← t.column? id
  return { t with columns := t.columns.map fun d => if d.id == id then change c else d }

/-- A step leaves a table its id. -/
def Table.KeepsId (step : Table α → Option (Table α)) : Prop :=
  ∀ t t', step t = some t' → t'.id = t.id

namespace State

open Table (KeepsId)

variable {s s₁ : State α} {id p q : String} {t t' u u' : Table α}
  {step other : Table α → Option (Table α)}

theorem tryTable_eq_some_iff :
    s.tryTable id step = some s₁ ↔
      ∃ t t', s.table? id = some t ∧ step t = some t' ∧ s.replaceTable id t' = s₁ := by
  simp [tryTable, Option.bind_eq_some_iff]

theorem tryTable_eq_none_iff :
    s.tryTable id step = none ↔ ∀ t, s.table? id = some t → step t = none := by
  unfold tryTable
  cases s.table? id with
  | none => simp
  | some t => cases h : step t <;> simp [h]

/-- Where a table is depends on the ids only. -/
theorem tableIndex?_replaceTable (found : s.table? p = some t) (same : t'.id = t.id)
    (q : String) : (s.replaceTable p t').tableIndex? q = s.tableIndex? q := by
  have byIds (s : State α) : s.tableIndex? q = (s.tables.map (·.id)).findIdx? (· == q) := by
    rw [List.findIdx?_map]
    rfl
  rw [byIds, byIds, ids_replaceTable found same]

theorem replaceTable_of_index {i : Nat} (h : s.tableIndex? id = some i) (t : Table α) :
    s.replaceTable id t = { s with tables := s.tables.set i t } := by
  rw [replaceTable, h]

theorem exists_tableIndex? (found : s.table? id = some t) :
    ∃ i, s.tableIndex? id = some i ∧ (s.tables.map (·.id))[i]? = some id := by
  have isThere : (s.tableIndex? id).isSome = true := by
    rw [tableIndex?, List.findIdx?_isSome, List.any_eq_true]
    exact ⟨t, mem_of_table? found, by simpa using id_of_table? found⟩
  obtain ⟨i, hi⟩ := Option.isSome_iff_exists.mp isThere
  obtain ⟨lt, here, -⟩ := List.findIdx?_eq_some_iff_getElem.mp hi
  refine ⟨i, hi, ?_⟩
  rw [List.getElem?_map, List.getElem?_eq_getElem lt]
  exact congrArg some (beq_iff_eq.mp here)

theorem replaceTable_comm (ne : p ≠ q) (foundP : s.table? p = some t) (sameP : t'.id = t.id)
    (foundQ : s.table? q = some u) (sameQ : u'.id = u.id) :
    (s.replaceTable p t').replaceTable q u' = (s.replaceTable q u').replaceTable p t' := by
  obtain ⟨i, hi, idP⟩ := exists_tableIndex? foundP
  obtain ⟨j, hj, idQ⟩ := exists_tableIndex? foundQ
  have apart : i ≠ j := by
    rintro rfl
    exact ne (Option.some.inj (idP.symm.trans idQ))
  rw [replaceTable_of_index ((tableIndex?_replaceTable foundP sameP q).trans hj),
    replaceTable_of_index ((tableIndex?_replaceTable foundQ sameQ p).trans hi),
    replaceTable_of_index hi, replaceTable_of_index hj, List.set_comm _ _ apart]

theorem replaceTable_replaceTable (found : s.table? p = some t) (same : t'.id = t.id)
    (u : Table α) : (s.replaceTable p t').replaceTable p u = s.replaceTable p u := by
  obtain ⟨i, hi, -⟩ := exists_tableIndex? found
  rw [replaceTable_of_index ((tableIndex?_replaceTable found same p).trans hi),
    replaceTable_of_index hi, replaceTable_of_index hi, List.set_set]

theorem tryTable_independent_of_ne (ne : p ≠ q) (keeps : KeepsId step) (keeps' : KeepsId other) :
    Independent (tryTable p step) (tryTable q other) where
  both {s s₁ s₂} first second := by
    obtain ⟨t, t', foundP, ht, rfl⟩ := tryTable_eq_some_iff.mp first
    obtain ⟨u, u', foundQ, hu, rfl⟩ := tryTable_eq_some_iff.mp second
    have sameP := keeps t t' ht
    have sameQ := keeps' u u' hu
    have comm := replaceTable_comm ne foundP sameP foundQ sameQ
    refine ⟨_, tryTable_eq_some_iff.mpr ⟨u, u', ?_, hu, rfl⟩,
      tryTable_eq_some_iff.mpr ⟨t, t', ?_, ht, comm.symm⟩⟩
    · rw [table?_replaceTable foundP sameP, if_neg ne.symm, foundQ]
    · rw [table?_replaceTable foundQ sameQ, if_neg ne, foundP]
  right {s s₁} first second := by
    obtain ⟨t, t', foundP, ht, rfl⟩ := tryTable_eq_some_iff.mp first
    rw [tryTable_eq_none_iff] at second ⊢
    rwa [table?_replaceTable foundP (keeps t t' ht), if_neg ne.symm]
  left {s s₂} first second := by
    obtain ⟨u, u', foundQ, hu, rfl⟩ := tryTable_eq_some_iff.mp second
    rw [tryTable_eq_none_iff] at first ⊢
    rwa [table?_replaceTable foundQ (keeps' u u' hu), if_neg ne]

/-- In one table, steps are independent if what they make of the table is. -/
theorem tryTable_independent (h : Independent step other) (keeps : KeepsId step)
    (keeps' : KeepsId other) : Independent (tryTable p step) (tryTable p other) where
  both {s s₁ s₂} first second := by
    obtain ⟨t, t', found, ht, rfl⟩ := tryTable_eq_some_iff.mp first
    obtain ⟨_, u', again, hu, rfl⟩ := tryTable_eq_some_iff.mp second
    cases found.symm.trans again
    obtain ⟨v, there, back⟩ := h.both ht hu
    refine ⟨s.replaceTable p v, tryTable_eq_some_iff.mpr ⟨t', v, ?_, there, ?_⟩,
      tryTable_eq_some_iff.mpr ⟨u', v, ?_, back, ?_⟩⟩
    · rw [table?_replaceTable found (keeps t t' ht), if_pos rfl]
    · exact replaceTable_replaceTable found (keeps t t' ht) v
    · rw [table?_replaceTable found (keeps' t u' hu), if_pos rfl]
    · exact replaceTable_replaceTable found (keeps' t u' hu) v
  right {s s₁} first second := by
    obtain ⟨t, t', found, ht, rfl⟩ := tryTable_eq_some_iff.mp first
    rw [tryTable_eq_none_iff] at second ⊢
    rw [table?_replaceTable found (keeps t t' ht), if_pos rfl]
    rintro _ ⟨⟩
    exact h.right ht (second t found)
  left {s s₂} first second := by
    obtain ⟨t, u', found, hu, rfl⟩ := tryTable_eq_some_iff.mp second
    rw [tryTable_eq_none_iff] at first ⊢
    rw [table?_replaceTable found (keeps' t u' hu), if_pos rfl]
    rintro _ ⟨⟩
    exact h.left (first t found) hu

end State

namespace Table

variable {t t' : Table α} {p q : String} {change change' : Column → Column}

theorem tryColumn_eq_some_iff :
    t.tryColumn p change = some t' ↔
      ∃ c, t.column? p = some c ∧
        { t with columns := t.columns.map fun d => if d.id == p then change c else d } = t' := by
  simp [tryColumn, Option.bind_eq_some_iff]

theorem tryColumn_eq_none_iff : t.tryColumn p change = none ↔ t.column? p = none := by
  unfold tryColumn
  cases t.column? p <;> simp

theorem tryColumn_keepsId : KeepsId (tryColumn (α := α) p change) := by
  intro t t' h
  obtain ⟨c, -, rfl⟩ := tryColumn_eq_some_iff.mp h
  rfl

theorem tryColumn_independent (ne : p ≠ q) (keeps : ∀ c, (change c).id = c.id)
    (keeps' : ∀ c, (change' c).id = c.id) :
    Independent (tryColumn (α := α) p change) (tryColumn q change') where
  both {t t₁ t₂} first second := by
    obtain ⟨c, foundP, rfl⟩ := tryColumn_eq_some_iff.mp first
    obtain ⟨d, foundQ, rfl⟩ := tryColumn_eq_some_iff.mp second
    have sameP : (change c).id = p := (keeps c).trans (id_of_column? foundP)
    have sameQ : (change' d).id = q := (keeps' d).trans (id_of_column? foundQ)
    refine ⟨_, tryColumn_eq_some_iff.mpr ⟨d, ?_, rfl⟩, tryColumn_eq_some_iff.mpr ⟨c, ?_, ?_⟩⟩
    · exact (find?_replaced_of_ne sameP ne t.columns).trans foundQ
    · exact (find?_replaced_of_ne sameQ ne.symm t.columns).trans foundP
    · rw [replaced_comm sameQ sameP ne.symm]
  right {t t₁} first second := by
    obtain ⟨c, foundP, rfl⟩ := tryColumn_eq_some_iff.mp first
    have sameP : (change c).id = p := (keeps c).trans (id_of_column? foundP)
    rw [tryColumn_eq_none_iff] at second ⊢
    exact (find?_replaced_of_ne sameP ne t.columns).trans second
  left {t t₂} first second := by
    obtain ⟨d, foundQ, rfl⟩ := tryColumn_eq_some_iff.mp second
    have sameQ : (change' d).id = q := (keeps' d).trans (id_of_column? foundQ)
    rw [tryColumn_eq_none_iff] at first ⊢
    exact (find?_replaced_of_ne sameQ ne.symm t.columns).trans first

/-- A column that is left in normal form, whatever form it had, is changed in the same way before
and after all columns of its table are put into normal form. -/
theorem tryColumn_apply (table : TableChange α) (before : ∀ c, change c.normal = change c)
    (after : ∀ c, (change c).normal = change c) (t : Table α) :
    (table.apply t).tryColumn p change = (t.tryColumn p change).map table.apply := by
  have found : (table.apply t).column? p = (t.column? p).map Column.normal := by
    rw [column?, TableChange.apply, List.find?_map]
    rfl
  rw [tryColumn, tryColumn, found]
  cases t.column? p with
  | none => rfl
  | some c =>
      simp only [Option.map_some, Option.bind_eq_bind, Option.bind_some, Option.pure_def,
        Option.some.injEq, before, TableChange.apply, mk.injEq, true_and, and_true, List.map_map]
      refine List.map_congr_left fun d _ => ?_
      by_cases here : d.id = p <;> simp [here, after]

end Table

namespace ColumnChange

theorem apply_normal (change : ColumnChange) (c : Column) :
    change.apply c.normal = change.apply c := by
  simp [apply]

theorem IsStored.normal_apply {change : ColumnChange} (h : change.IsStored) (c : Column) :
    (change.apply c).normal = change.apply c :=
  (h.apply c).normal_eq

end ColumnChange
end SchemaGraph
