import Mathlib.Data.List.DropRight
import SchemaGraph.Text.Normal

/-!
# Trimmed and lowered texts

A text is trimmed when no blank stands at either end of it. Lowering turns each character into one
or two, and how many these are depends on that character alone, although the sigma rule looks at
its neighbours. So the beginning of a lowered text may change with what is appended to the text, but
its length does not.
-/

namespace SchemaGraph.Text

/-- No printable character of the basic Latin alphabet is a blank, but for the space. -/
theorem isBlank_of_printable {c : Char} (low : 32 < c.toNat) (high : c.toNat < 127) :
    isBlank c = false := by
  simp only [isBlank, isWhiteSpace, Bool.or_eq_false_iff, Bool.and_eq_false_imp,
    decide_eq_true_eq, decide_eq_false_iff_not, not_le, beq_eq_false_iff_ne, ne_eq]
  omega

section Trimmed

variable {drop : Char → Bool} {cs : List Char} {s : String}

theorem dropWhile_eq_self_iff : cs.dropWhile drop = cs ↔ ∀ c ∈ cs.head?, drop c = false := by
  cases cs with
  | nil => simp
  | cons c cs => simp [List.dropWhile_eq_self_iff]

theorem rdropWhile_eq_self_iff : cs.rdropWhile drop = cs ↔ ∀ c ∈ cs.getLast?, drop c = false := by
  rw [List.rdropWhile, List.reverse_eq_iff, dropWhile_eq_self_iff, List.head?_reverse]

/-- Nothing is cut off exactly when neither end is to be dropped. -/
theorem trimBy_eq_self_iff :
    trimBy drop cs = cs ↔
      (∀ c ∈ cs.head?, drop c = false) ∧ ∀ c ∈ cs.getLast?, drop c = false := by
  rw [← dropWhile_eq_self_iff, ← rdropWhile_eq_self_iff]
  change (cs.dropWhile drop).rdropWhile drop = cs ↔ _
  constructor
  · intro h
    have front : cs.dropWhile drop = cs := by
      refine (List.dropWhile_suffix drop).eq_of_length_le ?_
      calc cs.length = ((cs.dropWhile drop).rdropWhile drop).length := by rw [h]
        _ ≤ (cs.dropWhile drop).length := (List.rdropWhile_prefix drop _).length_le
    rw [front] at h
    exact ⟨front, h⟩
  · rintro ⟨front, back⟩
    rw [front, back]

theorem trimBy_trimBy : trimBy drop (trimBy drop cs) = trimBy drop cs := by
  rw [trimBy_eq_self_iff]
  change (∀ c ∈ ((cs.dropWhile drop).rdropWhile drop).head?, _) ∧
    ∀ c ∈ ((cs.dropWhile drop).rdropWhile drop).getLast?, _
  constructor
  · intro c hc
    obtain ⟨rest, whole⟩ := List.rdropWhile_prefix drop (cs.dropWhile drop)
    have first : c ∈ (cs.dropWhile drop).head? := by
      rw [← whole, List.head?_append, Option.mem_def.mp hc]
      rfl
    exact dropWhile_eq_self_iff.mp (List.dropWhile_idempotent drop cs) c first
  · exact rdropWhile_eq_self_iff.mp (List.rdropWhile_idempotent drop _)

/-- What is cut off is at the ends, and all of it is to be dropped. -/
theorem exists_trimBy (drop : Char → Bool) (cs : List Char) :
    ∃ lead trail, cs = lead ++ (trimBy drop cs ++ trail) ∧ (∀ c ∈ lead, drop c = true) ∧
      ∀ c ∈ trail, drop c = true := by
  refine ⟨cs.takeWhile drop, (cs.dropWhile drop).rtakeWhile drop, ?_,
    fun c hc => List.mem_takeWhile_imp hc, fun c hc => List.mem_rtakeWhile_imp hc⟩
  change cs = cs.takeWhile drop ++
    ((cs.dropWhile drop).rdropWhile drop ++ (cs.dropWhile drop).rtakeWhile drop)
  rw [List.rdropWhile_append_rtakeWhile, List.takeWhile_append_dropWhile]

/-- Between ends that are dropped, a text whose own ends are kept is what is left. -/
theorem trimBy_between {lead trail : List Char} (blankLead : ∀ c ∈ lead, drop c = true)
    (blankTrail : ∀ c ∈ trail, drop c = true) (kept : trimBy drop cs = cs) :
    trimBy drop (lead ++ (cs ++ trail)) = cs := by
  rw [trimBy, List.dropWhile_append_of_pos blankLead]
  cases cs with
  | nil => rw [List.nil_append, List.dropWhile_eq_nil_iff.mpr blankTrail]; rfl
  | cons c cs =>
      obtain ⟨first, -⟩ := trimBy_eq_self_iff.mp kept
      have start : ((c :: cs) ++ trail).dropWhile drop = (c :: cs) ++ trail :=
        dropWhile_eq_self_iff.mpr first
      have whole : (c :: cs).dropWhile drop = c :: cs := dropWhile_eq_self_iff.mpr first
      rw [trimBy, whole] at kept
      rw [start, List.reverse_append,
        List.dropWhile_append_of_pos fun d hd => blankTrail d (List.mem_reverse.mp hd), kept]

theorem trim_trim : trim (trim s) = trim s := by
  simp only [trim, String.toList_ofList, trimBy_trimBy]

theorem trim_eq_self_iff : trim s = s ↔ trimBy isBlank s.toList = s.toList := by
  rw [trim, ← String.toList_inj, String.toList_ofList]

end Trimmed

section Lowered

variable {before cs rest : List Char} {s : String}

/-- How many characters a text has in lower case: a capital dotted I counts twice. -/
def lowerLength (cs : List Char) : Nat := cs.length + cs.countP (·.toNat == 0x130)

theorem length_lowerChar (before : List Char) (c : Char) (after : List Char) :
    (lowerChar before c after).length = if c.toNat == 0x130 then 2 else 1 := by
  unfold lowerChar
  split
  · rename_i simple
    have other : ¬(c.toNat == 0x130) = true := by
      rw [beq_iff_eq]
      omega
    rw [if_neg other]
    rfl
  · split
    · rfl
    · split <;> rfl

theorem lowerChar_ne_nil (before : List Char) (c : Char) (after : List Char) :
    lowerChar before c after ≠ [] := by
  rw [← List.length_pos_iff, length_lowerChar]
  split <;> decide

/-- A text is lowered one part after another, each with the parts before and after it in view. -/
theorem lowerAfter_append (before cs rest : List Char) :
    ∃ form, form.length = lowerLength cs ∧
      lowerAfter before (cs ++ rest) = form ++ lowerAfter (cs.reverse ++ before) rest := by
  induction cs generalizing before with
  | nil => exact ⟨[], rfl, rfl⟩
  | cons c cs ih =>
      obtain ⟨form, length, split⟩ := ih (c :: before)
      refine ⟨lowerChar before c (cs ++ rest) ++ form, ?_, ?_⟩
      · rw [List.length_append, length_lowerChar, length, lowerLength, lowerLength,
          List.length_cons, List.countP_cons]
        split <;> omega
      · rw [List.cons_append, lowerAfter, split, List.append_assoc, List.reverse_cons,
          List.append_assoc, List.singleton_append]

theorem lowerAfter_eq_nil_iff : lowerAfter before cs = [] ↔ cs = [] := by
  cases cs with
  | nil => simp [lowerAfter]
  | cons c cs => simp [lowerAfter, lowerChar_ne_nil]

theorem lower_eq_empty_iff : lower s = "" ↔ s = "" := by
  rw [lower, String.ofList_eq_empty_iff, lowerAfter_eq_nil_iff, String.toList_eq_nil_iff]

/-- Simple characters that are no capitals stay as they are. -/
theorem lowerAfter_eq_self (plain : ∀ c ∈ cs, c.toNat < 0x80 ∧ c.isUpper = false) :
    lowerAfter before cs = cs := by
  induction cs generalizing before with
  | nil => rfl
  | cons c cs ih =>
      obtain ⟨⟨simple, noCapital⟩, later⟩ := List.forall_mem_cons.mp plain
      rw [lowerAfter, ih later, lowerChar, if_pos simple, noCapital]
      rfl

end Lowered
end SchemaGraph.Text
