import SchemaGraph.Editing.Change
import SchemaGraph.Proofs.Schema.Written

/-!
# What columns are stored

A column that is read from a document, and one that is put into normal form, is stored with a type
and without a reference to a blank table. Normal form changes nothing about such a column, and of
any column that has a type it changes no more than such a reference.

Only the type is sure to be there later on. A connected column references its parent by name, and
the parent may have been given a blank one.
-/

namespace SchemaGraph

open Decode

variable {α : Type}

theorem Decode.of_optional_names {names : List String} {default a : α} {check : Json → Checked α}
    {ms : Members} (h : Decode.optional names default check ms = .valid a) :
    a = default ∨ ∃ v, check v = .valid a := by
  unfold Decode.optional sent at h
  split at h
  · rename_i name v _
    cases checked : check v with
    | valid b =>
        rw [checked] at h
        cases h
        exact .inr ⟨v, checked⟩
    | _ =>
        rw [checked] at h
        cases h
  · cases h
    exact .inl rfl

theorem DataType.allBlank_fallback : Text.allBlank fallback = false := by decide

theorem DataType.allBlank_store (v : Json) {default : String}
    (h : Text.allBlank default = false) : Text.allBlank (store v default) = false := by
  unfold store
  split
  · exact h
  · split
    · exact h
    · rename_i given
      simpa using given

theorem DataType.allBlank_of_check {v : Json} {s : String} (h : check v = .valid s) :
    Text.allBlank s = false := by
  obtain ⟨_, -, rfl⟩ := Checked.fmap_eq_valid_iff.mp (h : (fun _ => store v fallback) <$> _ = _)
  exact allBlank_store v allBlank_fallback

theorem ColumnReference.named_of_checkKept {v : Json} {r : ColumnReference}
    (h : checkKept v = .valid (some r)) : Text.allBlank r.table = false := by
  cases v with
  | obj ms =>
      simp only [checkKept] at h
      cases kept : namesNoTable ms with
      | valid blank =>
          rw [kept] at h
          cases blank with
          | true => cases h
          | false =>
              change some <$> ofMembers ms = _ at h
              obtain ⟨_, read, same⟩ := Checked.fmap_eq_valid_iff.mp h
              cases same
              obtain ⟨_, _, first, -, rfl⟩ := Checked.seq_eq_valid_iff.mp read
              obtain ⟨table, named, rfl⟩ := Checked.fmap_eq_valid_iff.mp first
              rw [namesNoTable_of_table (get?_of_required named)] at kept
              exact Checked.valid.inj kept
      | _ =>
          rw [kept] at h
          cases h
  | _ => cases h

namespace Column

theorem isStored_of_check {v : Json} {c : Column} (h : check v = .valid c) : c.IsStored := by
  cases v with
  | obj ms =>
      simp only [check, record, ofMembers, Checked.seq_eq_valid_iff,
        Checked.fmap_eq_valid_iff] at h
      obtain ⟨_, references, ⟨_, _, ⟨_, _, ⟨_, _, ⟨_, dataType, ⟨_, _, ⟨_, _, rfl⟩, _, rfl⟩, typed,
        rfl⟩, _, rfl⟩, _, rfl⟩, _, rfl⟩, named, rfl⟩ := h
      refine ⟨?_, ?_⟩
      · rcases of_optional_names typed with rfl | ⟨v, stored⟩
        · exact DataType.allBlank_fallback
        · exact DataType.allBlank_of_check stored
      · rintro r rfl
        rcases of_optional_names named with none | ⟨v, kept⟩
        · cases none
        · exact ColumnReference.named_of_checkKept kept
  | _ => cases h

/-- The column without the reference that it may have to a blank table. -/
def withoutBlankReference (c : Column) : Column :=
  { c with references := c.references.bind keptReference }

theorem keptReference_eq_some {r kept : ColumnReference} (h : keptReference r = some kept) :
    r = kept ∧ Text.allBlank kept.table = false := by
  unfold keptReference at h
  split at h
  · cases h
  · rename_i named
    cases h
    exact ⟨rfl, by simpa using named⟩

theorem named_of_keptReference {r? : Option ColumnReference} {r : ColumnReference}
    (h : r?.bind keptReference = some r) : Text.allBlank r.table = false := by
  obtain ⟨_, -, kept⟩ := Option.bind_eq_some_iff.mp h
  exact (keptReference_eq_some kept).2

theorem normal_isStored (c : Column) : c.normal.IsStored :=
  ⟨DataType.allBlank_store _ DataType.allBlank_fallback, fun _ hr => named_of_keptReference hr⟩

theorem normal_of_typed {c : Column} (typed : Text.allBlank c.dataType = false) :
    c.normal = c.withoutBlankReference := by
  rw [normal, withoutBlankReference, DataType.store_str typed]

theorem withoutBlankReference_eq_self {c : Column}
    (named : ∀ r, c.references = some r → Text.allBlank r.table = false) :
    c.withoutBlankReference = c := by
  have kept : c.references.bind keptReference = c.references := by
    cases hr : c.references with
    | none => rfl
    | some r => rw [Option.bind_some, keptReference, if_neg (by simp [named r hr])]
  rw [withoutBlankReference, kept]

theorem IsStored.normal_eq {c : Column} (h : c.IsStored) : c.normal = c := by
  rw [normal_of_typed h.typed, withoutBlankReference_eq_self h.named]

@[simp] theorem normal_normal (c : Column) : c.normal.normal = c.normal :=
  c.normal_isStored.normal_eq

end Column

/-- A change with values as they are stored. -/
structure ColumnChange.IsStored (c : ColumnChange) : Prop where
  typed : ∀ s, c.dataType = some s → Text.allBlank s = false
  named : ∀ r, c.references = some (some r) → Text.allBlank r.table = false

theorem ColumnChange.IsStored.apply {c : ColumnChange} (h : c.IsStored) (old : Column) :
    (c.apply old).IsStored := by
  have normal := old.normal_isStored
  refine ⟨?_, fun r hr => ?_⟩
  · cases hd : c.dataType with
    | none => simpa [ColumnChange.apply, hd] using normal.typed
    | some s => simpa [ColumnChange.apply, hd] using h.typed s hd
  · cases hc : c.references with
    | none => exact normal.named r (by simpa [ColumnChange.apply, hc] using hr)
    | some asked =>
        have same : asked = some r := by simpa [ColumnChange.apply, hc] using hr
        exact h.named r (by rw [hc, same])

end SchemaGraph
