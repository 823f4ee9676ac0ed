import Mathlib.Data.List.Infix
import SchemaGraph.Text.Normal

/-!
# Words

The words of a text are the pieces of it between blank characters. How many of these stand between
two words, and which, makes no difference. So a piece of a text may be laid out in another way
without a change of the words, as long as something blank stays where something blank was.
-/

namespace SchemaGraph.Text

/-- The pieces of a list of characters between the blank ones, without the empty pieces. -/
def wordsOf (cs : List Char) : List String :=
  ((cs.splitOnP isBlank).filter (· ≠ [])).map String.ofList

def words (s : String) : List String := wordsOf s.toList

/-- At least one character, and only blank ones. -/
def IsGap (s : String) : Prop := s ≠ "" ∧ allBlank s = true

instance (s : String) : Decidable (IsGap s) := inferInstanceAs (Decidable (_ ∧ _))

theorem IsGap.append {gap rest : String} (h : IsGap gap) (blank : allBlank rest = true) :
    IsGap (gap ++ rest) := by
  refine ⟨fun none => h.1 (String.append_eq_empty_iff.mp none).1, ?_⟩
  rw [allBlank, String.toList_append, List.all_append, Bool.and_eq_true]
  exact ⟨h.2, blank⟩

/-- A blank character ends a word. -/
theorem wordsOf_append_cons {c : Char} (blank : isBlank c = true) (before after : List Char) :
    wordsOf (before ++ c :: after) = wordsOf before ++ wordsOf after := by
  simp only [wordsOf, List.splitOnP_append_cons before after blank, List.filter_append,
    List.map_append]

theorem wordsOf_blank_append {gap : List Char} (blank : ∀ c ∈ gap, isBlank c = true)
    (after : List Char) : wordsOf (gap ++ after) = wordsOf after := by
  induction gap with
  | nil => rfl
  | cons c gap ih =>
      have first := wordsOf_append_cons (blank c List.mem_cons_self) [] (gap ++ after)
      rw [ih fun d hd => blank d (List.mem_cons_of_mem _ hd)] at first
      exact first

/-- What stands before a gap and what stands after it share no word. -/
theorem words_append_gap {gap : String} (h : IsGap gap) (before after : String) :
    words (before ++ gap ++ after) = words before ++ words after := by
  obtain ⟨some, blank⟩ := h
  rw [allBlank, List.all_eq_true] at blank
  obtain ⟨c, rest, chars⟩ := List.exists_cons_of_ne_nil (mt String.toList_eq_nil_iff.mp some)
  rw [chars] at blank
  calc words (before ++ gap ++ after)
      = wordsOf (before.toList ++ c :: (rest ++ after.toList)) := by simp [words, chars]
    _ = wordsOf before.toList ++ wordsOf (rest ++ after.toList) :=
        wordsOf_append_cons (blank c List.mem_cons_self) _ _
    _ = words before ++ words after := by
        rw [wordsOf_blank_append fun d hd => blank d (List.mem_cons_of_mem _ hd), words, words]

/-- Two pieces of text that leave the words of every text around them the same. -/
def ReadAlike (s t : String) : Prop :=
  ∀ before after, words (before ++ s ++ after) = words (before ++ t ++ after)

namespace ReadAlike

variable {s t s' t' : String}

theorem refl (s : String) : ReadAlike s s := fun _ _ => rfl

theorem words_eq (h : ReadAlike s t) : words s = words t := by
  simpa using h "" ""

theorem append (h : ReadAlike s t) (h' : ReadAlike s' t') : ReadAlike (s ++ s') (t ++ t') := by
  intro before after
  calc words (before ++ (s ++ s') ++ after)
      = words (before ++ s ++ (s' ++ after)) := by simp only [String.append_assoc]
    _ = words (before ++ t ++ (s' ++ after)) := h _ _
    _ = words (before ++ t ++ s' ++ after) := by simp only [String.append_assoc]
    _ = words (before ++ t ++ t' ++ after) := h' _ _
    _ = words (before ++ (t ++ t') ++ after) := by simp only [String.append_assoc]

/-- One gap may take the place of another. -/
theorem of_gaps (h : IsGap s) (h' : IsGap t) : ReadAlike s t := by
  intro before after
  rw [words_append_gap h, words_append_gap h']

variable {β : Type} {f g : β → String}

theorem join (h : ∀ b, ReadAlike (f b) (g b)) (bs : List β) :
    ReadAlike (String.join (bs.map f)) (String.join (bs.map g)) := by
  induction bs with
  | nil => exact refl _
  | cons b bs ih =>
      rw [List.map_cons, List.map_cons, String.join_cons, String.join_cons]
      exact (h b).append ih

theorem intercalate (h : ∀ b, ReadAlike (f b) (g b)) (sep : String) (bs : List β) :
    ReadAlike (sep.intercalate (bs.map f)) (sep.intercalate (bs.map g)) := by
  induction bs with
  | nil => exact refl _
  | cons b bs ih =>
      cases bs with
      | nil => simpa using h b
      | cons b' bs =>
          simp only [List.map_cons, String.intercalate_cons_cons] at ih ⊢
          exact ((h b).append (refl sep)).append ih

end ReadAlike

end SchemaGraph.Text

/-!
## Texts joined with a separator

A text that was joined from parts can be read in two ways if the parts contain the separator. The
two ways part where one of them takes a separator for the end of a part and the other one goes on
with that part.
-/

namespace SchemaGraph.Text

/-- Whether a longer text goes on after a text with a separator. -/
def ContinuesAfter (sep : Char) (part longer : String) : Prop :=
  part.toList ++ [sep] <+: longer.toList

instance (sep : Char) (part longer : String) : Decidable (ContinuesAfter sep part longer) :=
  inferInstanceAs (Decidable (_ <+: _))

/-- Two ways to cut a list at a separator are the same, or one of them cuts it later. -/
theorem append_cons_eq_cases {β : Type} {sep : β} {xs xs' ys ys' : List β}
    (same : xs ++ sep :: ys = xs' ++ sep :: ys') :
    (xs = xs' ∧ ys = ys') ∨ xs ++ [sep] <+: xs' ∨ xs' ++ [sep] <+: xs := by
  have later {us vs zs ws ws' : List β} (longer : vs = us ++ zs)
      (rest : sep :: ws = zs ++ sep :: ws') : (us = vs ∧ ws = ws') ∨ us ++ [sep] <+: vs := by
    cases zs with
    | nil => exact .inl ⟨by rw [longer, List.append_nil], List.tail_eq_of_cons_eq rest⟩
    | cons z zs =>
        obtain rfl : sep = z := List.head_eq_of_cons_eq rest
        exact .inr ⟨zs, by rw [longer, List.append_assoc, List.singleton_append]⟩
  rcases List.append_eq_append_iff.mp same with ⟨zs, longer, rest⟩ | ⟨zs, longer, rest⟩
  · exact (later longer rest).imp_right .inl
  · exact (later longer rest).imp (fun h => ⟨h.1.symm, h.2.symm⟩) .inr

/-- Whether three joined parts may be read as other three: the first one of these is continued, or
it is the same and the second one is continued. -/
def MayReadAs (sep : Char) (first second first' second' : String) : Prop :=
  ContinuesAfter sep first first' ∨ ContinuesAfter sep first' first ∨
    first = first' ∧ (ContinuesAfter sep second second' ∨ ContinuesAfter sep second' second)

/-- Three parts that join to the same text as other three are the same, or are read in two ways. -/
theorem joined_eq_cases {sep : Char} {first second third first' second' third' : String}
    (same : first.toList ++ sep :: (second.toList ++ sep :: third.toList) =
      first'.toList ++ sep :: (second'.toList ++ sep :: third'.toList)) :
    (first = first' ∧ second = second' ∧ third = third') ∨
      MayReadAs sep first second first' second' := by
  rcases append_cons_eq_cases same with ⟨sameFirst, rest⟩ | continued | continued
  · have sameFirst := String.toList_inj.mp sameFirst
    rcases append_cons_eq_cases rest with ⟨sameSecond, sameThird⟩ | continued | continued
    · exact .inl ⟨sameFirst, String.toList_inj.mp sameSecond, String.toList_inj.mp sameThird⟩
    · exact .inr (.inr (.inr ⟨sameFirst, .inl continued⟩))
    · exact .inr (.inr (.inr ⟨sameFirst, .inr continued⟩))
  · exact .inr (.inl continued)
  · exact .inr (.inr (.inl continued))

end SchemaGraph.Text
