import Mathlib.Data.List.Forall2
import SchemaGraph.Diagram
import SchemaGraph.Proofs.Text.Words

/-!
# Names in a diagram

Ids become names of nodes and of ports by writing an underscore for every character that a name may
not have. Two ids get one name exactly if they are alike: they have the same characters, but for
places where each of them has an underscore or a character that is written as one. The name of a
cell joins that of its node and that of its port with a colon, and it is read in one way only.
-/

namespace SchemaGraph.Diagram

variable {a b t t' c c' : String}

/-- Whether a character is an underscore in a name. -/
def IsUnderscored (c : Char) : Prop := c = '_' ∨ isNameChar c = false

instance (c : Char) : Decidable (IsUnderscored c) := inferInstanceAs (Decidable (_ ∨ _))

/-- Whether two ids are written in the same way. -/
def Alike (a b : String) : Prop :=
  List.Forall₂ (fun c d => c = d ∨ IsUnderscored c ∧ IsUnderscored d) a.toList b.toList

instance (a b : String) : Decidable (Alike a b) := inferInstanceAs (Decidable (List.Forall₂ ..))

/-- No two of some ids are written in the same way. -/
def NoneAlike (ids : List String) : Prop := ids.Pairwise fun a b => ¬ Alike a b

instance (ids : List String) : Decidable (NoneAlike ids) :=
  inferInstanceAs (Decidable (List.Pairwise ..))

theorem written_eq_iff {c d : Char} :
    (if isNameChar c then c else '_') = (if isNameChar d then d else '_') ↔
      c = d ∨ IsUnderscored c ∧ IsUnderscored d := by
  have underscore : isNameChar '_' = true := rfl
  cases hc : isNameChar c <;> cases hd : isNameChar d <;> grind [IsUnderscored]

theorem nameOf_eq_iff : nameOf a = nameOf b ↔ Alike a b := by
  rw [nameOf, nameOf, String.ofList_inj, ← List.forall₂_eq_eq_eq, List.forall₂_map_left_iff,
    List.forall₂_map_right_iff]
  simp only [written_eq_iff]
  rfl

/-- An id of characters that names may have. -/
def IsName (id : String) : Prop := id.toList.all isNameChar = true

instance (id : String) : Decidable (IsName id) := inferInstanceAs (Decidable (_ = true))

/-- It is a name as it stands. -/
theorem nameOf_eq_self (h : IsName a) : nameOf a = a := by
  have kept : a.toList.map (fun c => if isNameChar c then c else '_') = a.toList.map id :=
    List.map_congr_left fun c hc => if_pos (List.all_eq_true.mp h c hc)
  rw [nameOf, kept, List.map_id, String.ofList_toList]

theorem noneAlike_of_nodup {ids : List String} (distinct : ids.Nodup)
    (h : ∀ id ∈ ids, IsName id) : NoneAlike ids := by
  refine distinct.imp_of_mem fun ha hb different alike => different ?_
  rw [← nameOf_eq_self (h _ ha), ← nameOf_eq_self (h _ hb)]
  exact nameOf_eq_iff.mpr alike

theorem isNameChar_of_mem_nameOf {c : Char} (h : c ∈ (nameOf a).toList) : isNameChar c = true := by
  rw [nameOf, String.toList_ofList, List.mem_map] at h
  obtain ⟨d, -, rfl⟩ := h
  split
  · assumption
  · rfl

theorem nodeName_eq_iff : nodeName t = nodeName t' ↔ Alike t t' := by
  rw [nodeName, nodeName, String.append_right_inj, nameOf_eq_iff]

theorem portName_eq_iff : portName c = portName c' ↔ Alike c c' := by
  rw [portName, portName, String.append_right_inj, nameOf_eq_iff]

theorem isNameChar_of_mem_append {start : String} {c : Char}
    (plain : IsName start) (h : c ∈ (start ++ nameOf a).toList) : isNameChar c = true := by
  rw [String.toList_append, List.mem_append] at h
  exact h.elim (List.all_eq_true.mp plain c) isNameChar_of_mem_nameOf

theorem isNameChar_of_mem_nodeName {c : Char} : c ∈ (nodeName t).toList → isNameChar c = true :=
  isNameChar_of_mem_append (by decide)

theorem isNameChar_of_mem_portName {d : Char} : d ∈ (portName c).toList → isNameChar d = true :=
  isNameChar_of_mem_append (by decide)

theorem toList_cell : (cell t c).toList = (nodeName t).toList ++ ':' :: (portName c).toList := by
  simp [cell]

/-- Names have no colon, so a cell has the name of another one only if both of its ids are alike. -/
theorem cell_eq_iff : cell t c = cell t' c' ↔ Alike t t' ∧ Alike c c' := by
  have noColon {t u : String} : ¬ (nodeName t).toList ++ [':'] <+: (nodeName u).toList := by
    intro continued
    have colon := continued.subset (List.mem_append_right _ (List.mem_singleton_self ':'))
    exact absurd (isNameChar_of_mem_nodeName colon) (by decide)
  rw [← String.toList_inj, toList_cell, toList_cell, ← nodeName_eq_iff, ← portName_eq_iff]
  constructor
  · intro same
    rcases Text.append_cons_eq_cases same with ⟨node, port⟩ | continued | continued
    · exact ⟨String.toList_inj.mp node, String.toList_inj.mp port⟩
    · exact absurd continued noColon
    · exact absurd continued noColon
  · rintro ⟨node, port⟩
    rw [node, port]

end SchemaGraph.Diagram
