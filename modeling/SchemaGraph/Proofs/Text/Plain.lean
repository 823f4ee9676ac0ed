import SchemaGraph.Json.Shown
import SchemaGraph.Proofs.Editing.Ensures

/-!
# Plain texts

A text is plain if none of its characters is shared with halves of surrogate pairs. It is then
whole. Numbers are plain, and quoting escapes halves and the characters that are shared with them.
So whatever a value is, it is shown in a plain text if it can be shown at all.
-/

namespace SchemaGraph

namespace Text

variable {s t : String} {cs : List Char}

def IsPlain (s : String) : Prop := ∀ c ∈ s.toList, isShared c = false

instance (s : String) : Decidable (IsPlain s) :=
  decidable_of_iff (s.toList.all (!isShared ·) = true) (by simp [IsPlain])

theorem symbols_eq_map (h : ∀ c ∈ cs, isShared c = false) : symbols cs = cs.map .char := by
  induction cs with
  | nil => rfl
  | cons c rest ih =>
      obtain ⟨alone, h⟩ := List.forall_mem_cons.mp h
      have notGuard : (c == guard) = false := by
        refine beq_eq_false_iff_ne.mpr ?_
        rintro rfl
        cases alone
      have first : Symbol.ofChar c = .char c := by simp [Symbol.ofChar, alone]
      cases rest with
      | nil => rw [symbols, first, List.map_singleton]
      | cons d rest =>
          rw [symbols, notGuard, first, ih h]
          rfl

theorem IsPlain.isWhole (h : IsPlain s) : isWhole s = true := by
  rw [Text.isWhole, symbols_eq_map h, List.all_map, List.all_eq_true]
  exact fun _ _ => rfl

theorem IsPlain.append (hs : IsPlain s) (ht : IsPlain t) : IsPlain (s ++ t) := by
  intro c hc
  rw [String.toList_append, List.mem_append] at hc
  exact hc.elim (hs c) (ht c)

@[simp] theorem isPlain_ofList :
    IsPlain (String.ofList cs) ↔ ∀ c ∈ cs, isShared c = false := by
  simp [IsPlain]

theorem IsPlain.intercalate {texts : List String} (separator : IsPlain s)
    (h : ∀ t ∈ texts, IsPlain t) : IsPlain (s.intercalate texts) := by
  induction texts with
  | nil => exact nofun
  | cons t rest ih =>
      obtain ⟨first, h⟩ := List.forall_mem_cons.mp h
      cases rest with
      | nil => rwa [String.intercalate_singleton]
      | cons u rest =>
          rw [String.intercalate_cons_cons]
          exact (first.append separator).append (ih h)

/-! ### Digits -/

theorem isShared_digitChar {base d : Nat} (small : base ≤ 16) (h : d < base) :
    isShared d.digitChar = false := by
  have all : ∀ d < 16, isShared (Nat.digitChar d) = false := by decide
  exact all d (Nat.lt_of_lt_of_le h small)

/-- Digits are taken off from the last one on, and each is one of a few characters. -/
theorem isShared_of_mem_toDigits {base n : Nat} (two : 1 < base) (small : base ≤ 16) :
    ∀ c ∈ Nat.toDigits base n, isShared c = false := by
  induction n using Nat.strongRecOn with
  | ind n ih =>
      rw [Nat.toDigits_eq_if two]
      split
      · rename_i last
        exact List.forall_mem_singleton.mpr (isShared_digitChar small last)
      · rename_i more
        refine List.forall_mem_append.mpr ⟨ih _ (Nat.div_lt_self (by omega) two), ?_⟩
        exact List.forall_mem_singleton.mpr
          (isShared_digitChar small (Nat.mod_lt _ (by omega)))

theorem isPlain_repr (n : Nat) : IsPlain n.repr := by
  rw [IsPlain, Nat.toList_repr]
  exact isShared_of_mem_toDigits (by decide) (by decide)

theorem isPlain_int_repr (n : Int) : IsPlain n.repr := by
  cases n with
  | ofNat m => exact isPlain_repr m
  | negSucc m => exact IsPlain.append (by decide) (isPlain_repr _)

/-! ### Quotation -/

theorem isShared_of_isPrintable {c : Char} (h : isPrintable c = true) : isShared c = false := by
  -- The last of the ranges without a glyph has all that is shared in it.
  have last : (0xE01F0, 0x10FFFF) ∈ unprintableRanges := by decide +kernel
  refine Bool.eq_false_iff.mpr fun shared => ?_
  simp only [isShared, Bool.and_eq_true, decide_eq_true_eq] at shared
  have inLast : Case.inRanges unprintableRanges c.toNat = true := by
    refine List.any_eq_true.mpr ⟨_, last, ?_⟩
    simp only [Bool.and_eq_true, decide_eq_true_eq]
    omega
  have beyond : ¬ c.toNat < 0x7F := by omega
  rw [isPrintable, if_neg beyond, inLast] at h
  cases h

theorem isShared_of_mem_numberEscape {n : Nat} : ∀ c ∈ numberEscape n, isShared c = false := by
  have digits (width : Nat) : ∀ c ∈ hexDigits width n, isShared c = false := by
    refine List.forall_mem_append.mpr ⟨fun c hc => ?_, ?_⟩
    · rw [List.eq_of_mem_replicate hc]
      rfl
    · exact isShared_of_mem_toDigits (by decide) (by decide)
  unfold numberEscape
  repeat' split
  all_goals exact List.forall_mem_cons.mpr ⟨rfl, List.forall_mem_cons.mpr ⟨rfl, digits _⟩⟩

theorem isShared_of_mem_quoteSymbol {mark : Char} (plain : isShared mark = false)
    (symbol : Symbol) : ∀ c ∈ quoteSymbol mark symbol, isShared c = false := by
  cases symbol with
  | half u => exact isShared_of_mem_numberEscape
  | char c =>
      have escape {d : Char} (h : isShared d = false) : ∀ e ∈ ['\\', d], isShared e = false :=
        List.forall_mem_cons.mpr ⟨rfl, List.forall_mem_singleton.mpr h⟩
      rw [quoteSymbol]
      split_ifs with escaped lineFeed carriageReturn tab printable
      · refine escape ?_
        rcases (Bool.or_eq_true _ _).mp escaped with isMark | isBackslash
        · rwa [eq_of_beq isMark]
        · rw [eq_of_beq isBackslash]
          rfl
      · exact escape rfl
      · exact escape rfl
      · exact escape rfl
      · exact List.forall_mem_singleton.mpr (isShared_of_isPrintable printable)
      · exact isShared_of_mem_numberEscape

/-- Whatever is quoted becomes a plain text. -/
theorem isPlain_quoted (s : String) : IsPlain (quoted s) := by
  have mark : isShared (quoteMark s) = false := by
    unfold quoteMark
    split <;> rfl
  refine isPlain_ofList.mpr (List.forall_mem_append.mpr ⟨List.forall_mem_cons.mpr ⟨mark, ?_⟩,
    List.forall_mem_singleton.mpr mark⟩)
  refine List.forall_mem_flatMap.mpr fun symbol _ => ?_
  exact isShared_of_mem_quoteSymbol mark symbol

end Text

namespace Decimal

open Text

theorem isPlain_tooManyDigitsToShow : IsPlain tooManyDigitsToShow := by
  have limit : IsPlain (toString "Exceeds the limit (" ++ toString digitLimit ++
      toString " digits) for integer string conversion; ") :=
    (IsPlain.append (by decide) (isPlain_repr _)).append (by decide)
  exact limit.append (by decide)

namespace Notation

/-- A notation whose names are plain. -/
structure IsPlain (style : Notation) : Prop where
  nan : Text.IsPlain style.nan
  infinity : Text.IsPlain style.infinity

variable {style : Notation}

theorem isPlain_zeros (n : Nat) : Text.IsPlain (zeros n) := by
  refine isPlain_ofList.mpr fun c hc => ?_
  rw [List.eq_of_mem_replicate hc]
  rfl

theorem isPlain_exponentText (e : Int) : Text.IsPlain (style.exponentText e) := by
  have sign : Text.IsPlain (if e < 0 then "-" else "+") := by split <;> decide
  exact (sign.append (isPlain_zeros _)).append (isPlain_repr _)

theorem isPlain_digitsText (d : Digits) : Text.IsPlain (style.digitsText d) := by
  have digits := isPlain_repr d.coefficient
  have taken (n : Nat) : Text.IsPlain (String.ofList ((toString d.coefficient).toList.take n)) :=
    isPlain_ofList.mpr fun c hc => digits c (List.mem_of_mem_take hc)
  have dropped (n : Nat) : Text.IsPlain (String.ofList ((toString d.coefficient).toList.drop n)) :=
    isPlain_ofList.mpr fun c hc => digits c (List.mem_of_mem_drop hc)
  have tail : Text.IsPlain (if (toString d.coefficient).length == 1 then ""
      else "." ++ String.ofList ((toString d.coefficient).toList.drop 1)) := by
    split
    · decide
    · exact Text.IsPlain.append (by decide) (dropped 1)
  simp only [digitsText]
  split
  · split
    · exact (Text.IsPlain.append (by decide) (isPlain_zeros _)).append digits
    · split
      · exact (digits.append (isPlain_zeros _)).append (by decide)
      · exact ((taken _).append (by decide)).append (dropped _)
  · exact (((taken 1).append tail).append (by decide)).append (isPlain_exponentText _)

theorem isPlain_text (h : style.IsPlain) (x : Float) : Text.IsPlain (style.text x) := by
  have minus : Text.IsPlain (if sign x then "-" else "") := by split <;> decide
  simp only [text]
  split
  · exact h.nan
  · exact minus.append h.infinity
  · exact minus.append (by decide)
  · exact minus.append (isPlain_digitsText _)

end Notation
end Decimal

namespace Json

open Text

/-- Texts that are listed between brackets. -/
theorem isPlain_between {opening closing : String} {texts : List String} (before : IsPlain opening)
    (h : ∀ s ∈ texts, IsPlain s) (after : IsPlain closing) :
    IsPlain (opening ++ ", ".intercalate texts ++ closing) :=
  (before.append (IsPlain.intercalate (by decide) h)).append after

mutual

/-- Whatever the value is, the text that shows it is plain. -/
theorem isPlain_of_shownWithin : ∀ (v : Json) {room : Nat} {s : String},
    shownWithin room v = .ok s → IsPlain s
  | v, 0, s, h => by cases v <;> cases h
  | .null, room + 1, s, h => by cases h; decide
  | .bool b, room + 1, s, h => by cases h; cases b <;> decide
  | .int n, room + 1, s, h => by
      rw [shownWithin, shownInt] at h
      split at h
      · cases h
      · cases h
        exact isPlain_int_repr n
  | .float x, room + 1, s, h => by
      cases h
      exact Decimal.Notation.isPlain_text ⟨by decide, by decide⟩ x
  | .str t, room + 1, s, h => by
      cases h
      exact isPlain_quoted t
  | .arr items, room + 1, s, h => by
      obtain ⟨texts, shown, h⟩ := bind_ok h
      cases h
      exact isPlain_between (by decide) (isPlain_of_shownItems items shown) (by decide)
  | .obj ms, room + 1, s, h => by
      obtain ⟨texts, shown, h⟩ := bind_ok h
      cases h
      exact isPlain_between (by decide) (isPlain_of_shownMembers ms shown) (by decide)

theorem isPlain_of_shownItems : ∀ (items : List Json) {room : Nat} {texts : List String},
    shownItems room items = .ok texts → ∀ s ∈ texts, IsPlain s
  | [], room, texts, h => by
      cases h
      exact nofun
  | v :: rest, room, texts, h => by
      obtain ⟨first, shown, h⟩ := bind_ok h
      obtain ⟨others, shownRest, h⟩ := bind_ok h
      cases h
      exact List.forall_mem_cons.mpr
        ⟨isPlain_of_shownWithin v shown, isPlain_of_shownItems rest shownRest⟩

theorem isPlain_of_shownMembers : ∀ (ms : List (String × Json)) {room : Nat} {texts : List String},
    shownMembers room ms = .ok texts → ∀ s ∈ texts, IsPlain s
  | [], room, texts, h => by
      cases h
      exact nofun
  | (name, v) :: rest, room, texts, h => by
      obtain ⟨first, shown, h⟩ := bind_ok h
      obtain ⟨others, shownRest, h⟩ := bind_ok h
      cases h
      refine List.forall_mem_cons.mpr ⟨?_, isPlain_of_shownMembers rest shownRest⟩
      exact ((isPlain_quoted name).append (by decide)).append (isPlain_of_shownWithin v shown)

end

theorem isPlain_of_shown {v : Json} {s : String} (h : v.shown = .ok s) : IsPlain s :=
  isPlain_of_shownWithin v h

theorem isPlain_of_shownOrFail {v : Json} {s : String} (h : v.shownOrFail = .ok s) :
    IsPlain s := by
  rw [shownOrFail] at h
  cases shown : v.shown with
  | ok t =>
      rw [shown] at h
      cases h
      exact isPlain_of_shown shown
  | error fault =>
      rw [shown] at h
      cases h

theorem isPlain_kindName (v : Json) : IsPlain v.kindName := by
  cases v <;> simp only [kindName] <;> decide

end Json
end SchemaGraph
