import SchemaGraph.Editing.Basic
import SchemaGraph.Proofs.Editing.Failing

/-!
# When a value cannot be taken apart

A value without items cannot be gone through. A sequence of pairs cannot be made into members if one
of its items has no items itself, or if its key is a list or an object; an item of another length
than two is a wrong value, which is a failure of another kind.
-/

namespace SchemaGraph.Json

/-- Whether a value can be gone through item by item. -/
def hasItems : Json → Bool
  | arr _ | obj _ | str _ => true
  | _ => false

theorem elements_eq_error_iff {v : Json} {f : Failure} :
    v.elements = .error f ↔ v.hasItems = false ∧ f = .crash .wrongKind := by
  cases v <;> simp [elements, hasItems, eq_comm]

def isComposite : Json → Bool
  | arr _ | obj _ => true
  | _ => false

/-- Whether an item is a pair whose key can be one. -/
def IsPair (v : Json) : Prop :=
  ∃ key w, v.elements = .ok [key, w] ∧ key.isComposite = false

/-- Whether an item is no pair, other than by its length. -/
def ResistsPairing (v : Json) : Prop :=
  v.hasItems = false ∨ ∃ key w, v.elements = .ok [key, w] ∧ key.isComposite = true

theorem IsPair.not_resistsPairing {v : Json} (h : IsPair v) : ¬ ResistsPairing v := by
  obtain ⟨key, w, items, plain⟩ := h
  rintro (bare | ⟨key', w', items', composite⟩)
  · cases items.symm.trans (elements_eq_error_iff.mpr ⟨bare, rfl⟩)
  · cases items.symm.trans items'
    rw [plain] at composite
    cases composite

/-- An item is a pair, or cannot be one, or has another length. -/
theorem putPair_cases (ms : Members) (index : Nat) (v : Json) :
    (IsPair v ∧ ∃ ms', putPair ms index v = .ok ms') ∨
      (ResistsPairing v ∧ putPair ms index v = .error (.crash .wrongKind)) ∨
      (¬ IsPair v ∧ ¬ ResistsPairing v ∧ ∃ fault, putPair ms index v = .error (.value fault)) := by
  -- Nothing but its items is read of a value, so the cases are those of the number of items.
  have run {items : List Json} (h : v.elements = .ok items) :
      putPair ms index v = putPair ms index (arr items) := by
    unfold putPair
    rw [h]
    rfl
  cases h : v.elements with
  | error f =>
      obtain ⟨bare, rfl⟩ := elements_eq_error_iff.mp h
      refine .inr (.inl ⟨.inl bare, ?_⟩)
      rw [putPair, h]
      rfl
  | ok items =>
      have length (other : items.length ≠ 2) : ¬ IsPair v ∧ ¬ ResistsPairing v := by
        refine ⟨?_, ?_⟩
        · rintro ⟨key, w, pair, -⟩
          cases h.symm.trans pair
          exact other rfl
        · rintro (bare | ⟨key, w, pair, -⟩)
          · cases h.symm.trans (elements_eq_error_iff.mpr ⟨bare, rfl⟩)
          · cases h.symm.trans pair
            exact other rfl
      rw [run h]
      match items with
      | [] => exact .inr (.inr ⟨(length (by simp)).1, (length (by simp)).2, _, rfl⟩)
      | [key] =>
          refine .inr (.inr ⟨(length (by simp)).1, (length (by simp)).2, .pairLength index 1, ?_⟩)
          cases key <;> rfl
      | [key, w] =>
          cases key with
          | arr items => exact .inr (.inl ⟨.inr ⟨_, w, h, rfl⟩, rfl⟩)
          | obj ms' => exact .inr (.inl ⟨.inr ⟨_, w, h, rfl⟩, rfl⟩)
          | _ => exact .inl ⟨⟨_, w, h, rfl⟩, _, rfl⟩
      | key :: w :: u :: rest =>
          refine .inr (.inr ⟨(length (by simp)).1, (length (by simp)).2,
            .pairLength index (rest.length + 3), ?_⟩)
          cases key <;> rfl

/-- Pairs crash at the first item that is not fine, if it cannot be one. -/
theorem putPairs_crash_iff {ms : Members} {index : Nat} {pairs : List Json} {c : Crash} :
    putPairs ms index pairs = .error (.crash c) ↔
      RunsInto IsPair ResistsPairing pairs ∧ c = .wrongKind := by
  induction pairs generalizing ms index with
  | nil =>
      constructor
      · intro h
        cases h
      · rintro ⟨⟨⟩, -⟩
  | cons pair rest ih =>
      rcases putPair_cases ms index pair with ⟨fine, ms', run⟩ | ⟨bad, run⟩ | ⟨odd, other, _, run⟩
      · rw [putPairs, run]
        refine ih.trans ⟨fun h => ⟨.later fine h.1, h.2⟩, ?_⟩
        rintro ⟨bad | ⟨-, later⟩, rfl⟩
        · exact absurd bad fine.not_resistsPairing
        · exact ⟨later, rfl⟩
      · rw [putPairs, run]
        refine ⟨fun h => ⟨.here bad, ?_⟩, ?_⟩
        · cases h
          rfl
        · rintro ⟨-, rfl⟩
          rfl
      · rw [putPairs, run]
        refine ⟨fun h => (by cases h), ?_⟩
        rintro ⟨bad | ⟨fine, -⟩, -⟩
        · exact absurd bad other
        · exact absurd fine odd

theorem putPairs_error {ms : Members} {index : Nat} {pairs : List Json} {f : Failure}
    (h : putPairs ms index pairs = .error f) : (∃ c, f = .crash c) ∨ ∃ fault, f = .value fault := by
  induction pairs generalizing ms index with
  | nil => cases h
  | cons pair rest ih =>
      rcases putPair_cases ms index pair with ⟨-, ms', run⟩ | ⟨-, run⟩ | ⟨-, -, fault, run⟩
      · rw [putPairs, run] at h
        exact ih h
      · rw [putPairs, run] at h
        exact .inl ⟨_, (Except.error.inj h).symm⟩
      · rw [putPairs, run] at h
        exact .inr ⟨fault, (Except.error.inj h).symm⟩

/-- Whether a value other than an object cannot be taken apart into members: it has no items, or
one of them can be no pair. -/
def ResistsEntries (v : Json) : Prop :=
  (∀ ms, v ≠ obj ms) ∧
    (v.hasItems = false ∨
      ∃ pairs, v.elements = .ok pairs ∧ RunsInto IsPair ResistsPairing pairs)

theorem entries_of_ne_obj {v : Json} (h : ∀ ms, v ≠ obj ms) :
    v.entries = v.elements >>= putPairs [] 0 := by
  cases v with
  | obj ms => exact absurd rfl (h ms)
  | _ => rfl

theorem entries_crash_iff {v : Json} {c : Crash} :
    v.entries = .error (.crash c) ↔ ResistsEntries v ∧ c = .wrongKind := by
  by_cases isObj : ∃ ms, v = obj ms
  · obtain ⟨ms, rfl⟩ := isObj
    refine ⟨fun h => (by cases h), fun h => ?_⟩
    exact absurd rfl (h.1.1 ms)
  have notObj : ∀ ms, v ≠ obj ms := not_exists.mp isObj
  rw [entries_of_ne_obj notObj]
  cases h : v.elements with
  | error f =>
      obtain ⟨bare, rfl⟩ := elements_eq_error_iff.mp h
      refine ⟨fun crash => ⟨⟨notObj, .inl bare⟩, ?_⟩, ?_⟩
      · cases crash
        rfl
      · rintro ⟨-, rfl⟩
        rfl
  | ok pairs =>
      refine putPairs_crash_iff.trans (and_congr_left fun _ => ⟨fun stuck => ?_, ?_⟩)
      · exact ⟨notObj, .inr ⟨pairs, h, stuck⟩⟩
      · rintro ⟨-, bare | ⟨pairs', h', stuck⟩⟩
        · cases h.symm.trans (elements_eq_error_iff.mpr ⟨bare, rfl⟩)
        · cases h.symm.trans h'
          exact stuck

/-- Taking a value apart fails in no other way than by a crash or by a wrong value. -/
theorem entries_error {v : Json} {f : Failure} (h : v.entries = .error f) :
    (∃ c, f = .crash c) ∨ ∃ fault, f = .value fault := by
  by_cases isObj : ∃ ms, v = obj ms
  · obtain ⟨ms, rfl⟩ := isObj
    cases h
  rw [entries_of_ne_obj (not_exists.mp isObj)] at h
  rcases bind_error h with bare | ⟨pairs, -, h⟩
  · exact .inl ⟨_, (elements_eq_error_iff.mp bare).2⟩
  · exact putPairs_error h

end SchemaGraph.Json
