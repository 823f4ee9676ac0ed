import SchemaGraph.DataType
import SchemaGraph.Proofs.Partial
import SchemaGraph.Proofs.Text.Forms

/-!
# The form of a known type

A type is written as a word of letters with blanks around it, and perhaps with parameters and blanks
after these. The parameters go from the first parenthesis to the last one and may hold others, so
the form could be read in several ways. It is not: no letter is a blank and neither is a
parenthesis, so the word and the parameters are the ones that are found by cutting off blanks and
letters. The main statement says that the types of the catalogue are told by this form and by
nothing else.
-/

namespace SchemaGraph.DataType

variable {cs word : List Char} {K : DataType} {s : String}

/-- Parentheses around a text without a line feed. -/
def AreParameters (cs : List Char) : Prop := ∃ inner, cs = '(' :: (inner ++ [')']) ∧ '\n' ∉ inner

/-- The form of a type that starts with a word. Letters are those of the basic Latin alphabet. -/
inductive HasForm (word : List Char) : List Char → Prop
  | mk {lead gap params trail : List Char} (letters : ∀ c ∈ word, c.isAlpha = true)
    (blankLead : ∀ c ∈ lead, Text.isBlank c = true) (blankGap : ∀ c ∈ gap, Text.isBlank c = true)
    (blankTrail : ∀ c ∈ trail, Text.isBlank c = true) (known : params = [] ∨ AreParameters params) :
    HasForm word (lead ++ (word ++ (gap ++ (params ++ trail))))

/-- A text is written as a type: in its form, with a word that is the keyword in any case. -/
def IsWritten (K : DataType) (s : String) : Prop :=
  ∃ word, HasForm word s.toList ∧ String.ofList (word.map Char.toUpper) = K.name

theorem isParameters_iff : isParameters cs = true ↔ AreParameters cs := by
  constructor
  · intro h
    unfold isParameters at h
    split at h
    · rename_i rest
      split at h
      · rename_i inner reversed
        refine ⟨inner.reverse, ?_, by simpa using h⟩
        rw [← List.reverse_cons, ← reversed, List.reverse_reverse]
      · cases h
    · cases h
  · rintro ⟨inner, rfl, noBreak⟩
    simpa [isParameters] using noBreak

theorem isBlank_of_isAlpha {c : Char} (h : c.isAlpha = true) : Text.isBlank c = false := by
  have range : 65 ≤ c.toNat ∧ c.toNat ≤ 90 ∨ 97 ≤ c.toNat ∧ c.toNat ≤ 122 := by
    change (decide (65 ≤ c.val ∧ c.val ≤ 90) ||
      (decide (97 ≤ c.val) && decide (c.val ≤ 122))) = true at h
    simpa [UInt32.le_iff_toNat_le] using h
  exact Text.isBlank_of_printable (by omega) (by omega)

/-- No blank stands at either end of parameters. -/
theorem trimBy_of_params {params : List Char} (known : params = [] ∨ AreParameters params) :
    Text.trimBy Text.isBlank params = params := by
  rcases known with rfl | ⟨inner, rfl, -⟩
  · rfl
  · rw [Text.trimBy_eq_self_iff, ← List.cons_append, List.getLast?_concat]
    exact ⟨by rintro c ⟨⟩; rfl, by rintro c ⟨⟩; rfl⟩

/-- The word of a type ends where the blanks, the parameters or the text end it. -/
theorem isAlpha_head_eq_false {gap params trail : List Char}
    (blankGap : ∀ c ∈ gap, Text.isBlank c = true) (blankTrail : ∀ c ∈ trail, Text.isBlank c = true)
    (known : params = [] ∨ AreParameters params) :
    ∀ c ∈ (gap ++ (params ++ trail)).head?, c.isAlpha = false := by
  have blank {c : Char} (h : Text.isBlank c = true) : c.isAlpha = false := by
    by_contra letter
    rw [isBlank_of_isAlpha (by simpa using letter)] at h
    cases h
  intro c hc
  cases gap with
  | cons d gap =>
      cases hc
      exact blank (blankGap c List.mem_cons_self)
  | nil =>
      rcases known with rfl | ⟨inner, rfl, -⟩
      · exact blank (blankTrail c (List.mem_of_head? hc))
      · cases hc
        rfl

/-- The keyword is found in a text exactly if the text has the form of a type with that word. -/
theorem keyword?_eq_some_iff : keyword? cs = some word ↔ word ≠ [] ∧ HasForm word cs := by
  constructor
  · intro h
    simp only [keyword?, Option.ite_none_right_eq_some, Bool.and_eq_true, Bool.not_eq_true',
      List.isEmpty_eq_false_iff, Bool.or_eq_true, List.isEmpty_iff, isParameters_iff,
      Option.some.injEq] at h
    obtain ⟨⟨present, known⟩, rfl⟩ := h
    refine ⟨present, ?_⟩
    obtain ⟨gap, trail, rest, blankGap, blankTrail⟩ := Text.exists_trimBy Text.isBlank
      ((cs.dropWhile Text.isBlank).dropWhile Char.isAlpha)
    have form : HasForm ((cs.dropWhile Text.isBlank).takeWhile Char.isAlpha) _ :=
      .mk (fun c hc => List.mem_takeWhile_imp hc)
        (fun c (hc : c ∈ cs.takeWhile Text.isBlank) => List.mem_takeWhile_imp hc)
        blankGap blankTrail known
    rwa [← rest, List.takeWhile_append_dropWhile, List.takeWhile_append_dropWhile] at form
  · rintro ⟨present, @⟨lead, gap, params, trail, letters, blankLead, blankGap, blankTrail, known⟩⟩
    have afterWord := isAlpha_head_eq_false blankGap blankTrail known
    generalize tail : gap ++ (params ++ trail) = rest at afterWord
    have body : (lead ++ (word ++ rest)).dropWhile Text.isBlank = word ++ rest := by
      rw [List.dropWhile_append_of_pos blankLead, Text.dropWhile_eq_self_iff,
        List.head?_append_of_ne_nil _ present]
      exact fun c hc => isBlank_of_isAlpha (letters c (List.mem_of_head? hc))
    have stop : rest.dropWhile Char.isAlpha = rest := Text.dropWhile_eq_self_iff.mpr afterWord
    have none : rest.takeWhile Char.isAlpha = [] := by
      have split := List.takeWhile_append_dropWhile (p := Char.isAlpha) (l := rest)
      rw [stop] at split
      exact List.append_left_eq_self.mp split
    have trimmed : Text.trimBy Text.isBlank rest = params := by
      rw [← tail]
      exact Text.trimBy_between blankGap blankTrail (trimBy_of_params known)
    simp only [keyword?, body, List.takeWhile_append_of_pos letters,
      List.dropWhile_append_of_pos letters, stop, none, trimmed, List.append_nil]
    rw [if_pos]
    simpa [present, isParameters_iff] using known

theorem mem_all (K : DataType) : K ∈ all := by
  cases K <;> decide

theorem nodup_names : (all.map name).Nodup := by
  decide

theorem name_ne_empty (K : DataType) : K.name ≠ "" := by
  cases K <;> decide

/-- Every type is found by its keyword. -/
theorem ofKeyword?_eq_some_iff : ofKeyword? s = some K ↔ K.name = s := by
  rw [ofKeyword?, find?_eq_some_iff_of_nodup nodup_names]
  exact and_iff_right (mem_all K)

theorem classify_eq_iff (known : K ≠ unknown) : classify s = K ↔ K.IsWritten s := by
  unfold classify
  constructor
  · intro same
    split at same
    · rename_i word found
      cases listed : ofKeyword? (String.ofList (word.map Char.toUpper)) with
      | none =>
          rw [listed] at same
          exact absurd same.symm known
      | some K' =>
          rw [listed, Option.getD_some] at same
          subst same
          exact ⟨word, (keyword?_eq_some_iff.mp found).2, (ofKeyword?_eq_some_iff.mp listed).symm⟩
    · exact absurd same.symm known
  · rintro ⟨word, form, upper⟩
    have present : word ≠ [] := by
      rintro rfl
      exact name_ne_empty K upper.symm
    rw [keyword?_eq_some_iff.mpr ⟨present, form⟩]
    change (ofKeyword? (String.ofList (word.map Char.toUpper))).getD unknown = K
    rw [ofKeyword?_eq_some_iff.mpr upper.symm, Option.getD_some]

/-- A stored type is of a type of the catalogue exactly if it is written as that one, and is unknown
if it is written as none. -/
theorem classify_isWritten (stored : String) :
    (∀ K, K ≠ unknown → (classify stored = K ↔ K.IsWritten stored)) ∧
      ((∀ K, K ≠ unknown → ¬ K.IsWritten stored) → classify stored = unknown) := by
  refine ⟨fun K => classify_eq_iff, fun unwritten => ?_⟩
  by_contra known
  exact unwritten _ known ((classify_eq_iff known).mp rfl)

example : classify " Decimal\t(10, (2)) " = decimal := by decide

end SchemaGraph.DataType
