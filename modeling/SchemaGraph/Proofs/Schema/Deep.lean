import SchemaGraph.Failure
import SchemaGraph.Proofs.Decode.Valid
import SchemaGraph.Schema.Check

/-!
# Values that are nested too deep

A check is cut short by a value that it has to print and that is nested too deep for it. Only two
places of a column are printed: its type and the table of its reference. So the check of a column is
cut short exactly by these, that of a table exactly by its columns, and the checks of everything
else in a schema never are.
-/

namespace SchemaGraph

/-- Looking for a member under one name only. -/
theorem Members.find?_one (ms : Members) (name : String) :
    ms.find? [name] = (ms.get? name).map (name, ·) := by
  cases found : ms.get? name <;> simp [find?, found]

namespace Decode

namespace Checked

variable {α β : Type}

@[simp] theorem fault_ne_tooDeep (f : Fault) : (fault f : Checked α) ≠ tooDeep := nofun

@[simp] theorem map_eq_tooDeep_iff {f : α → β} {c : Checked α} :
    c.map f = tooDeep ↔ c = tooDeep := by
  cases c <;> simp [map]

@[simp] theorem fmap_eq_tooDeep_iff {f : α → β} {c : Checked α} :
    f <$> c = tooDeep ↔ c = tooDeep :=
  map_eq_tooDeep_iff

/-- A combined check is cut short if one of its parts is. -/
@[simp] theorem seq_eq_tooDeep_iff {f : Checked (α → β)} {c : Checked α} :
    f <*> c = tooDeep ↔ f = tooDeep ∨ c = tooDeep := by
  change app f c = tooDeep ↔ _
  cases f <;> cases c <;> simp [app]

@[simp] theorem below_eq_tooDeep_iff {s : Step} {c : Checked α} :
    c.below s = tooDeep ↔ c = tooDeep := by
  cases c <;> simp [below]

theorem bind_eq_tooDeep_iff {c : Checked α} {f : α → Checked β} :
    c.bind f = tooDeep ↔ c = tooDeep ∨ ∃ a, c = valid a ∧ f a = tooDeep := by
  cases c <;> simp [bind]

end Checked

variable {α β : Type} {names : List String} {ms : Members}

theorem required_eq_tooDeep_iff {check : Json → Checked α} :
    required names check ms = .tooDeep ↔
      ∃ m, ms.find? names = some m ∧ check m.2 = .tooDeep := by
  unfold required
  cases ms.find? names with
  | none => simp [Checked.fault, Checked.below]
  | some m => simp

theorem sent_eq_tooDeep_iff {check : Json → Checked α} :
    sent names check ms = .tooDeep ↔ ∃ m, ms.find? names = some m ∧ check m.2 = .tooDeep := by
  unfold sent
  cases ms.find? names with
  | none => simp
  | some m => simp

theorem optional_eq_tooDeep_iff {default : α} {check : Json → Checked α} :
    Decode.optional names default check ms = .tooDeep ↔
      ∃ m, ms.find? names = some m ∧ check m.2 = .tooDeep := by
  rw [Decode.optional, Checked.map_eq_tooDeep_iff, sent_eq_tooDeep_iff]

/-- Refusing the members that no field took adds findings only. -/
@[simp] theorem closed_eq_tooDeep_iff {used : List String} {c : Checked α} :
    closed used ms c = .tooDeep ↔ c = .tooDeep := by
  unfold closed
  induction ms.filter fun m => !used.contains m.1 generalizing c with
  | nil => rfl
  | cons m rest ih =>
      rw [List.foldl_cons, ih]
      simp

/-- A list is cut short by one of its items. -/
theorem checkFrom_eq_tooDeep_iff {check : α → Checked β} {n : Nat} {as : List α} :
    checkFrom check n as = .tooDeep ↔ ∃ a ∈ as, check a = .tooDeep := by
  induction as generalizing n with
  | nil => simp [checkFrom]
  | cons a as ih => simp [checkFrom, ih]

/-! ### Checks that print nothing -/

@[simp] theorem text_ne_tooDeep (v : Json) : text v ≠ .tooDeep := by
  cases v <;> simp [text]

@[simp] theorem checkName_ne_tooDeep (v : Json) : checkName v ≠ .tooDeep := by
  cases v <;> simp [checkName]

theorem readable_ne_tooDeep {read : String → Checked α} (h : ∀ s, read s ≠ .tooDeep) (s : String) :
    readable read s ≠ .tooDeep := by
  unfold readable
  split
  · exact h s
  · simp

theorem flagOfInteger_ne_tooDeep (n : Int) : flagOfInteger n ≠ .tooDeep := by
  unfold flagOfInteger
  split
  · nofun
  · split <;> nofun

@[simp] theorem flag_ne_tooDeep (v : Json) : flag v ≠ .tooDeep := by
  cases v with
  | int n =>
      rw [flag]
      split
      · exact flagOfInteger_ne_tooDeep n
      · simp
  | float x =>
      rw [flag]
      split
      · exact flagOfInteger_ne_tooDeep _
      · simp
  | str s =>
      rw [flag]
      refine readable_ne_tooDeep (fun s => ?_) s
      cases flagOfWord? s <;> simp
  | _ => simp [flag]

@[simp] theorem number_ne_tooDeep (v : Json) : number v ≠ .tooDeep := by
  cases v with
  | int n =>
      rw [number]
      cases Decimal.ofInt? n <;> simp
  | str s =>
      rw [number]
      refine readable_ne_tooDeep (fun s => ?_) s
      cases Decimal.Numeral.real? s <;> simp
  | _ => simp [number]

@[simp] theorem member_ne_tooDeep (all : List α) (nameOf : α → String) (v : Json) :
    member all nameOf v ≠ .tooDeep := by
  cases v with
  | str s =>
      rw [member]
      refine readable_ne_tooDeep (fun s => ?_) s
      cases all.find? fun a => nameOf a == s <;> simp
  | _ => simp [member]

theorem nullable_ne_tooDeep {check : Json → Checked α} (h : ∀ v, check v ≠ .tooDeep) (v : Json) :
    nullable check v ≠ .tooDeep := by
  unfold nullable
  split
  · nofun
  · simp [h]

theorem record_ne_tooDeep {name : String} {check : Members → Checked α}
    (h : ∀ ms, check ms ≠ .tooDeep) (v : Json) : record name check v ≠ .tooDeep := by
  unfold record
  split
  · exact h _
  · nofun

end Decode

open Decode

@[simp] theorem Position.check_ne_tooDeep (v : Json) : check v ≠ .tooDeep :=
  record_ne_tooDeep (fun ms => by simp [ofMembers, optional_eq_tooDeep_iff]) v

@[simp] theorem Dialect.check_ne_tooDeep (v : Json) : check v ≠ .tooDeep :=
  member_ne_tooDeep _ _ v

@[simp] theorem Relationship.check_ne_tooDeep (v : Json) : check v ≠ .tooDeep := by
  refine record_ne_tooDeep (fun ms => ?_) v
  simp [ofMembers, checkEnd, required_eq_tooDeep_iff, optional_eq_tooDeep_iff, nullable_ne_tooDeep]

@[simp] theorem ColumnReference.ofMembers_ne_tooDeep (ms : Members) : ofMembers ms ≠ .tooDeep := by
  simp [ofMembers, required_eq_tooDeep_iff]

/-! ### What is printed -/

/-- A value is nested too deep to be printed. -/
def Json.IsTooDeep (v : Json) : Prop := v.printed = .error .tooDeep

theorem Json.shown_eq_tooDeep_iff {v : Json} : v.shown = .error .tooDeep ↔ v.IsTooDeep := by
  cases v with
  | str s => exact ⟨nofun, nofun⟩
  | _ => exact Iff.rfl

/-- A value that cannot be shown is nested too deep or has too many digits. -/
theorem Json.ShowFault.mapError_failure {α : Type} {shown : Except ShowFault α} {f : Failure}
    (h : shown.mapError failure = .error f) :
    shown = .error .tooDeep ∧ f = .crash .tooDeep ∨ f = .value .tooManyDigitsToShow := by
  cases shown with
  | ok a => cases h
  | error fault =>
      obtain rfl : fault.failure = f := Except.error.inj h
      cases fault with
      | tooDeep => exact .inl ⟨rfl, rfl⟩
      | tooManyDigits => exact .inr rfl

theorem Decode.printed_eq_tooDeep_iff {v : Json} : printed v = .tooDeep ↔ v.IsTooDeep := by
  unfold Decode.printed Json.IsTooDeep
  split <;> simp [*, Checked.fault]

theorem DataType.check_eq_tooDeep_iff {v : Json} : DataType.check v = .tooDeep ↔ v.IsTooDeep := by
  rw [DataType.check, Checked.map_eq_tooDeep_iff, printed_eq_tooDeep_iff]

/-- Null, zero and what is empty can be printed. -/
theorem Json.IsTooDeep.isGiven {v : Json} (h : v.IsTooDeep) : v.isGiven = true := by
  cases v with
  | bool b => cases b <;> cases h
  | int n =>
      refine bne_iff_ne.mpr fun zero => ?_
      subst zero
      cases h
  | arr items =>
      cases items with
      | nil => cases h
      | cons => rfl
  | obj ms =>
      cases ms with
      | nil => cases h
      | cons => rfl
  | _ => cases h

namespace ColumnReference

theorem namesNoTable_eq_tooDeep_iff {ms : Members} :
    namesNoTable ms = .tooDeep ↔ ∃ table, ms.get? "table" = some table ∧ table.IsTooDeep := by
  unfold namesNoTable
  cases ms.get? "table" with
  | none => simp
  | some table =>
      by_cases given : table.isGiven = true
      · simp [given, printed_eq_tooDeep_iff]
      · simpa [given] using mt Json.IsTooDeep.isGiven given

theorem checkKept_eq_tooDeep_iff {v : Json} :
    checkKept v = .tooDeep ↔ ∃ ms table, v = .obj ms ∧ Members.get? ms "table" = some table ∧
      table.IsTooDeep := by
  cases v with
  | obj ms =>
      rw [checkKept, Checked.bind_eq_tooDeep_iff, namesNoTable_eq_tooDeep_iff]
      have settled (blank : Bool) :
          (if blank then .valid none else (ofMembers ms).map some) ≠ .tooDeep := by
        cases blank <;> simp
      simp [settled]
  | _ => simp [checkKept, check, record]

end ColumnReference

/-- What a column is given for its type or for the table of its reference is nested too deep. -/
inductive Column.IsTooDeep (ms : Members) : Prop
  | type {m : String × Json} (found : ms.find? typeNames = some m) (deep : m.2.IsTooDeep)
  | reference {r : Members} {table : Json} (found : ms.get? "references" = some (.obj r))
    (named : Members.get? r "table" = some table) (deep : table.IsTooDeep)

theorem Column.ofMembers_eq_tooDeep_iff {ms : Members} :
    ofMembers ms = .tooDeep ↔ IsTooDeep ms := by
  simp only [ofMembers, Checked.seq_eq_tooDeep_iff, Checked.fmap_eq_tooDeep_iff,
    required_eq_tooDeep_iff, optional_eq_tooDeep_iff, text_ne_tooDeep, checkName_ne_tooDeep,
    flag_ne_tooDeep, DataType.check_eq_tooDeep_iff, ColumnReference.checkKept_eq_tooDeep_iff,
    Members.find?_one, and_false, exists_false, false_or, or_false, Option.map_eq_some_iff]
  constructor
  · rintro (⟨m, found, deep⟩ | ⟨_, ⟨_, found, rfl⟩, r, table, rfl, named, deep⟩)
    · exact .type found deep
    · exact .reference found named deep
  · rintro (⟨found, deep⟩ | ⟨found, named, deep⟩)
    · exact .inl ⟨_, found, deep⟩
    · exact .inr ⟨_, ⟨_, found, rfl⟩, _, _, rfl, named, deep⟩

theorem Column.check_eq_tooDeep_iff {v : Json} :
    check v = .tooDeep ↔ ∃ ms, v = .obj ms ∧ IsTooDeep ms := by
  cases v with
  | obj ms => simp [check, record, ofMembers_eq_tooDeep_iff]
  | _ => simp [check, record]

/-- A table whose columns do not print is never cut short. -/
theorem Table.ofMembersWith_eq_tooDeep_iff {columns : Members → Checked (List Column)}
    {ms : Members} : ofMembersWith columns ms = .tooDeep ↔ columns ms = .tooDeep := by
  simp [ofMembersWith, required_eq_tooDeep_iff, optional_eq_tooDeep_iff, nullable_ne_tooDeep]

/-- One of the columns of a table is given something that is nested too deep. -/
def Table.IsTooDeep (ms : Members) : Prop :=
  ∃ columns, ms.get? "columns" = some (.arr columns) ∧
    ∃ c ∈ columns, ∃ cs, c = .obj cs ∧ Column.IsTooDeep cs

theorem Table.check_eq_tooDeep_iff {v : Json} :
    check v = .tooDeep ↔ ∃ ms, v = .obj ms ∧ IsTooDeep ms := by
  cases v with
  | obj ms =>
      simp only [check, record, ofMembers, ofMembersWith_eq_tooDeep_iff, optional_eq_tooDeep_iff,
        Members.find?_one]
      cases found : Members.get? ms "columns" with
      | none => simp [IsTooDeep, found]
      | some columns =>
          cases columns with
          | arr items =>
              simp [IsTooDeep, found, Decode.list, checkFrom_eq_tooDeep_iff,
                Column.check_eq_tooDeep_iff]
          | _ => simp [IsTooDeep, found, Decode.list]
  | _ => simp [check, record]

end SchemaGraph
