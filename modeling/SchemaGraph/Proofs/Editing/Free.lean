import Mathlib.Data.Finset.Card
import Mathlib.Order.Bounds.Defs
import SchemaGraph.Editing.Basic
import SchemaGraph.Proofs.Text.Forms

/-!
# Free names

The candidates for a name are different up to case, whatever the name asked for is: lowering does
not change the number after it. So a list of taken names cannot hold more of the candidates than it
has names that differ up to case. The main statement follows the search through the candidates: it
ends after at most one test more than there are such names, and at the first candidate that is free.
-/

namespace SchemaGraph

variable {base name : String} {taken : List String}

theorem candidateName_succ (base : String) (k : Nat) :
    candidateName base (k + 1) = base ++ "_" ++ (k + 1).repr := rfl

/-- What stands behind the base is the same for every base. -/
theorem candidateName_eq_append (base : String) (k : Nat) :
    candidateName base k = base ++ candidateName "" k := by
  cases k with
  | zero => exact String.append_empty.symm
  | succ k => rw [candidateName_succ, candidateName_succ, String.empty_append, String.append_assoc]

theorem toList_candidateName_empty (k : Nat) :
    (candidateName "" (k + 1)).toList = '_' :: Nat.toDigits 10 (k + 1) := by
  rw [candidateName_succ, String.toList_append, String.toList_append, Nat.toList_repr]
  rfl

theorem candidateName_empty_injective : Function.Injective (candidateName "") := by
  intro j k same
  have lists := congrArg String.toList same
  cases j with
  | zero =>
      cases k with
      | zero => rfl
      | succ k =>
          rw [toList_candidateName_empty] at lists
          cases lists
  | succ j =>
      cases k with
      | zero =>
          rw [toList_candidateName_empty] at lists
          cases lists
      | succ k =>
          rw [toList_candidateName_empty, toList_candidateName_empty] at lists
          have digits := List.tail_eq_of_cons_eq lists
          calc j + 1 = Nat.ofDigitChars 10 (Nat.toDigits 10 (j + 1)) 0 :=
                Nat.ofDigitChars_ten_toDigits.symm
            _ = Nat.ofDigitChars 10 (Nat.toDigits 10 (k + 1)) 0 := by rw [digits]
            _ = k + 1 := Nat.ofDigitChars_ten_toDigits

/-- An underscore and the digits are simple characters, no capitals and no blanks. -/
theorem plain_of_isDigit {c : Char} (h : c = '_' ∨ c.isDigit = true) :
    c.toNat < 0x80 ∧ c.isUpper = false ∧ Text.isBlank c = false := by
  rcases h with rfl | digit
  · decide
  · have range : 48 ≤ c.toNat ∧ c.toNat ≤ 57 := by
      simpa [Char.isDigit, UInt32.le_iff_toNat_le] using digit
    have below : ¬ 'A'.val ≤ c.val := by
      rw [UInt32.le_iff_toNat_le]
      change ¬65 ≤ c.toNat
      omega
    exact ⟨by omega, decide_eq_false fun capital => below capital.1,
      Text.isBlank_of_printable (by omega) (by omega)⟩

theorem plain_candidateName_empty {k : Nat} {c : Char} (hc : c ∈ (candidateName "" k).toList) :
    c = '_' ∨ c.isDigit = true := by
  cases k with
  | zero => cases hc
  | succ k =>
      rw [toList_candidateName_empty] at hc
      exact (List.mem_cons.mp hc).imp_right (Nat.isDigit_of_mem_toDigits (by decide) (by decide))

/-- Candidates are different also when they are compared up to case. -/
theorem lower_candidateName_injective (base : String) :
    Function.Injective fun k => Text.lower (candidateName base k) := by
  have form (k : Nat) : ∃ front : List Char, front.length = Text.lowerLength base.toList ∧
      (Text.lower (candidateName base k)).toList = front ++ (candidateName "" k).toList := by
    obtain ⟨front, length, split⟩ :=
      Text.lowerAfter_append [] base.toList (candidateName "" k).toList
    refine ⟨front, length, ?_⟩
    rw [candidateName_eq_append, Text.lower, String.toList_ofList, String.toList_append, split,
      Text.lowerAfter_eq_self]
    intro c hc
    obtain ⟨simple, noCapital, -⟩ := plain_of_isDigit (plain_candidateName_empty hc)
    exact ⟨simple, noCapital⟩
  intro j k same
  obtain ⟨front, length, lowered⟩ := form j
  obtain ⟨front', length', lowered'⟩ := form k
  have lists := congrArg String.toList same
  rw [lowered, lowered'] at lists
  have tails := (List.append_inj lists (length.trans length'.symm)).2
  exact candidateName_empty_injective (String.toList_inj.mp tails)

theorem isTaken_iff :
    isTaken taken name = true ↔ Text.lower name ∈ taken.map Text.lower := by
  rw [isTaken, List.contains_iff_mem]

/-- The forms in which names are taken, each of them once. -/
def takenForms (taken : List String) : Finset String := (taken.map Text.lower).toFinset

theorem mem_takenForms_iff : Text.lower name ∈ takenForms taken ↔ isTaken taken name = true := by
  rw [isTaken_iff, takenForms, List.mem_toFinset]

theorem notMem_takenForms_iff :
    Text.lower name ∉ takenForms taken ↔ isTaken taken name = false := by
  rw [mem_takenForms_iff, Bool.not_eq_true]

/-- More candidates than there are taken forms cannot all be taken. -/
theorem exists_free (base : String) (taken : List String) :
    ∃ k ≤ (takenForms taken).card, isTaken taken (candidateName base k) = false := by
  let candidates := (Finset.range ((takenForms taken).card + 1)).image
    fun k => Text.lower (candidateName base k)
  have more : (takenForms taken).card < candidates.card := by
    rw [Finset.card_image_of_injective _ (lower_candidateName_injective base), Finset.card_range]
    exact Nat.lt_succ_self _
  obtain ⟨form, hform, free⟩ := Finset.exists_mem_notMem_of_card_lt_card more
  obtain ⟨k, hk, rfl⟩ := Finset.mem_image.mp hform
  exact ⟨k, Nat.le_of_lt_succ (Finset.mem_range.mp hk), notMem_takenForms_iff.mp free⟩

/-- The name that is found is the first candidate that is free. -/
theorem freeName_eq_candidateName (base : String) (taken : List String) :
    ∃ k, freeName base taken = candidateName base k ∧
      isTaken taken (candidateName base k) = false ∧
        ∀ j < k, isTaken taken (candidateName base j) = true := by
  obtain ⟨k, few, free⟩ := exists_free base taken
  have found : ((List.range (taken.length + 1)).find? fun k =>
      !isTaken taken (candidateName base k)).isSome := by
    have forms : (takenForms taken).card ≤ taken.length :=
      (List.toFinset_card_le _).trans_eq (List.length_map _)
    rw [List.find?_isSome]
    exact ⟨k, List.mem_range.mpr (by omega), by simp [free]⟩
  obtain ⟨first, hfirst⟩ := Option.isSome_iff_exists.mp found
  obtain ⟨isFree, -, before⟩ := List.find?_range_eq_some.mp hfirst
  refine ⟨first, by rw [freeName, hfirst], by simpa using isFree, ?_⟩
  intro j hj
  simpa using before j hj

theorem freeName_isFree (base : String) (taken : List String) :
    isTaken taken (freeName base taken) = false := by
  obtain ⟨k, found, free, -⟩ := freeName_eq_candidateName base taken
  rw [found, free]

/-- Appending a number leaves no blank at the end. -/
theorem trim_candidateName (trimmed : Text.trim base = base) (present : base ≠ "") (k : Nat) :
    Text.trim (candidateName base k) = candidateName base k := by
  cases k with
  | zero => exact trimmed
  | succ k =>
      rw [Text.trim_eq_self_iff, Text.trimBy_eq_self_iff] at trimmed ⊢
      rw [candidateName_eq_append, String.toList_append, toList_candidateName_empty]
      constructor
      · intro c hc
        have nonempty : base.toList ≠ [] := by simpa using present
        rw [List.head?_append_of_ne_nil _ nonempty] at hc
        exact trimmed.1 c hc
      · intro c hc
        rw [List.getLast?_append_cons] at hc
        have last : c ∈ (candidateName "" (k + 1)).toList := by
          rw [toList_candidateName_empty]
          exact List.mem_of_getLast? hc
        exact (plain_of_isDigit (plain_candidateName_empty last)).2.2

/-! ### The search -/

/-- How the search goes on from the candidate with a number: after a number of tests it ends with a
name. It ends at a candidate that is free, and passes over one that is taken. -/
inductive Finds (base : String) (taken : List String) : Nat → Nat → String → Prop
  | free {k : Nat} (h : isTaken taken (candidateName base k) = false) :
    Finds base taken k 1 (candidateName base k)
  | pass {k tests : Nat} {name : String} (h : isTaken taken (candidateName base k) = true)
    (later : Finds base taken (k + 1) tests name) : Finds base taken k (tests + 1) name

namespace Finds

/-- The search passes over the candidates before the first one that is free. -/
theorem of_first {k d : Nat} (first : isTaken taken (candidateName base (k + d)) = false)
    (before : ∀ j < k + d, isTaken taken (candidateName base j) = true) :
    Finds base taken k (d + 1) (candidateName base (k + d)) := by
  induction d generalizing k with
  | zero => exact .free first
  | succ d ih =>
      have shift : k + (d + 1) = k + 1 + d := by omega
      rw [shift] at first before ⊢
      exact .pass (before k (by omega)) (ih first before)

theorem unique {k tests tests' : Nat} {name' : String} (h : Finds base taken k tests name)
    (h' : Finds base taken k tests' name') : tests' = tests ∧ name' = name := by
  induction h generalizing tests' with
  | free free =>
      cases h' with
      | free => exact ⟨rfl, rfl⟩
      | pass isTaken => cases free.symm.trans isTaken
  | pass isTaken _ ih =>
      cases h' with
      | free free => cases free.symm.trans isTaken
      | pass _ later =>
          obtain ⟨rfl, rfl⟩ := ih later
          exact ⟨rfl, rfl⟩

end Finds

/-- The search from the name itself on ends at the name that is given. -/
theorem finds_freeName (base : String) (taken : List String) :
    ∃ tests ≤ (takenForms taken).card + 1, Finds base taken 0 tests (freeName base taken) := by
  obtain ⟨k, found, free, before⟩ := freeName_eq_candidateName base taken
  obtain ⟨few, hfew, freeFew⟩ := exists_free base taken
  have bound : k ≤ few := by
    by_contra later
    cases freeFew.symm.trans (before few (by omega))
  rw [← Nat.zero_add k] at found free before
  rw [found]
  exact ⟨k + 1, by omega, .of_first free before⟩

theorem freeName_eq_self (unused : Text.lower base ∉ takenForms taken) :
    freeName base taken = base := by
  obtain ⟨k, found, -, before⟩ := freeName_eq_candidateName base taken
  cases k with
  | zero => exact found
  | succ k => exact absurd (mem_takenForms_iff.mpr (before 0 (Nat.succ_pos k))) unused

/-- If the name asked for is in use, it gets the least number that makes it free. -/
theorem exists_isLeast_freeName (used : Text.lower base ∈ takenForms taken) :
    ∃ k, IsLeast {k | 1 ≤ k ∧ Text.lower (base ++ "_" ++ toString k) ∉ takenForms taken} k ∧
      freeName base taken = base ++ "_" ++ toString k := by
  obtain ⟨k, found, free, before⟩ := freeName_eq_candidateName base taken
  cases k with
  | zero => exact absurd used (notMem_takenForms_iff.mpr free)
  | succ k =>
      refine ⟨k + 1, ⟨⟨Nat.succ_pos k, notMem_takenForms_iff.mpr free⟩, ?_⟩, found⟩
      rintro j ⟨positive, unused⟩
      by_contra earlier
      obtain ⟨i, rfl⟩ : ∃ i, j = i + 1 := ⟨j - 1, by omega⟩
      exact unused (mem_takenForms_iff.mpr (before (i + 1) (by omega)))

/-- The search for a free name ends, after at most one test more than there are taken forms, and
with the name that is given. This is the name asked for if its form is not taken, and otherwise the
one with the least number from one on whose form is not. No taken name has the form of it. -/
theorem freeName_isFirstFree (base : String) (taken : List String) :
    (∃ tests ≤ (takenForms taken).card + 1, ∀ n name,
        Finds base taken 0 n name ↔ n = tests ∧ name = freeName base taken) ∧
      (Text.lower base ∉ takenForms taken → freeName base taken = base) ∧
      (Text.lower base ∈ takenForms taken → ∃ k,
        IsLeast {k | 1 ≤ k ∧ Text.lower (base ++ "_" ++ toString k) ∉ takenForms taken} k ∧
          freeName base taken = base ++ "_" ++ toString k) ∧
      ∀ name ∈ taken, Text.lower (freeName base taken) ≠ Text.lower name := by
  refine ⟨?_, freeName_eq_self, exists_isLeast_freeName, fun name hname same => ?_⟩
  · obtain ⟨tests, few, run⟩ := finds_freeName base taken
    refine ⟨tests, few, fun n name => ⟨run.unique, ?_⟩⟩
    rintro ⟨rfl, rfl⟩
    exact run
  · have free := freeName_isFree base taken
    rw [← notMem_takenForms_iff, same, mem_takenForms_iff, isTaken_iff] at free
    exact free (List.mem_map_of_mem hname)

end SchemaGraph
