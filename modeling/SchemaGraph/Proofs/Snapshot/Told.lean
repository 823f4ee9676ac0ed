import SchemaGraph.Proofs.Snapshot.Refused
import SchemaGraph.Proofs.Text.Plain

/-!
# What a snapshot is refused for can be told

The message of a refusal is that of the first thing found. The checks of tables and of relationships
name what they find in messages of their own, and what they are told of a value is its kind at most.
A value that is quoted in a message is quoted in a plain text. So whatever a snapshot holds, a
message about it is plain, and a report with it can be sent.
-/

namespace SchemaGraph

namespace Decode

namespace Checked

variable {α β : Type}

/-- What a check finds first has a plain message. -/
def IsTold : Checked α → Prop
  | invalid found => Text.IsPlain found.message
  | _ => True

theorem isTold_fault {f : Fault} (h : Text.IsPlain f.message := by decide) :
    (fault f : Checked α).IsTold := h

variable {c : Checked α}

theorem IsTold.below (h : c.IsTold) (s : Step) : (c.below s).IsTold := by
  cases c <;> exact h

theorem IsTold.map (h : c.IsTold) (f : α → β) : (c.map f).IsTold := by
  cases c <;> exact h

theorem IsTold.fmap (h : c.IsTold) (f : α → β) : (f <$> c).IsTold := h.map f

/-- The first thing found in a combined check is the first thing found in one of its parts. -/
theorem IsTold.seq {f : Checked (α → β)} (hf : f.IsTold) (hc : c.IsTold) : (f <*> c).IsTold := by
  change (app f c).IsTold
  cases f with
  | valid g => cases c <;> exact hc
  | invalid found => cases c <;> first | exact hf | trivial
  | tooDeep => trivial

theorem IsTold.bind {f : α → Checked β} (h : c.IsTold) (hf : ∀ a, (f a).IsTold) :
    (c.bind f).IsTold := by
  cases c with
  | valid a => exact hf a
  | _ => exact h

end Checked

open Checked

variable {α β : Type} {check : Json → Checked α}

theorem isTold_required {names : List String} (h : ∀ v, (check v).IsTold) (ms : Members) :
    (required names check ms).IsTold := by
  unfold required
  split
  · exact (h _).below _
  · exact IsTold.below isTold_fault _

theorem isTold_optional {names : List String} {default : α} (h : ∀ v, (check v).IsTold)
    (ms : Members) : (Decode.optional names default check ms).IsTold := by
  refine IsTold.map ?_ _
  unfold sent
  split
  · exact ((h _).map _).below _
  · trivial

theorem isTold_checkFrom {check : α → Checked β} (h : ∀ a, (check a).IsTold) (n : Nat)
    (as : List α) : (checkFrom check n as).IsTold := by
  induction as generalizing n with
  | nil => trivial
  | cons a as ih => exact (((h a).below _).fmap _).seq (ih (n + 1))

theorem isTold_list (h : ∀ v, (check v).IsTold) (v : Json) : (Decode.list check v).IsTold := by
  cases v with
  | arr items => exact isTold_checkFrom h 0 items
  | _ => exact isTold_fault

theorem isTold_record {name : String} {check : Members → Checked α} (named : Text.IsPlain name)
    (h : ∀ ms, (check ms).IsTold) (v : Json) : (record name check v).IsTold := by
  cases v with
  | obj ms => exact h ms
  | _ => exact isTold_fault (Text.IsPlain.append (by decide) named)

theorem isTold_nullable (h : ∀ v, (check v).IsTold) (v : Json) : (nullable check v).IsTold := by
  cases v with
  | null => trivial
  | _ => exact (h _).map _

theorem isTold_readable {read : String → Checked α} (h : ∀ s, (read s).IsTold) (s : String) :
    (readable read s).IsTold := by
  unfold readable
  split
  · exact h s
  · exact isTold_fault

theorem isTold_text (v : Json) : (text v).IsTold := by
  cases v with
  | str s => trivial
  | _ => exact isTold_fault

theorem isTold_printed (v : Json) : (printed v).IsTold := by
  unfold printed
  split
  · trivial
  · exact isTold_fault (Text.IsPlain.append (by decide) Decimal.isPlain_tooManyDigitsToShow)
  · trivial

theorem isTold_flagOfInteger (n : Int) : (flagOfInteger n).IsTold := by
  unfold flagOfInteger
  split
  · trivial
  · split
    · trivial
    · exact isTold_fault

theorem isTold_flag (v : Json) : (flag v).IsTold := by
  cases v with
  | bool b => trivial
  | int n =>
      rw [flag]
      split
      · exact isTold_flagOfInteger n
      · exact isTold_fault
  | float x =>
      rw [flag]
      split
      · exact isTold_flagOfInteger _
      · exact isTold_fault
  | str s =>
      rw [flag]
      refine isTold_readable (fun s => ?_) s
      cases flagOfWord? s with
      | none => exact isTold_fault
      | some b => trivial
  | _ => exact isTold_fault

theorem isTold_number (v : Json) : (number v).IsTold := by
  cases v with
  | bool b => trivial
  | float x => trivial
  | int n =>
      rw [number]
      split
      · trivial
      · exact isTold_fault
  | str s =>
      rw [number]
      refine isTold_readable (fun s => ?_) s
      cases Decimal.Numeral.real? s with
      | none => exact isTold_fault
      | some x => trivial
  | _ => exact isTold_fault

end Decode

open Decode Checked

theorem isTold_checkName (v : Json) : (checkName v).IsTold := by
  unfold checkName
  split
  · trivial
  · exact isTold_text _

theorem Position.isTold_check (v : Json) : (check v).IsTold :=
  isTold_record (by decide)
    (fun ms => ((isTold_optional isTold_number ms).fmap _).seq (isTold_optional isTold_number ms)) v

namespace ColumnReference

theorem isTold_ofMembers (ms : Members) : (ofMembers ms).IsTold :=
  ((isTold_required isTold_text ms).fmap _).seq (isTold_required isTold_text ms)

theorem isTold_namesNoTable (ms : Members) : (namesNoTable ms).IsTold := by
  unfold namesNoTable
  split
  · split
    · exact (isTold_printed _).map _
    · trivial
  · trivial

theorem isTold_checkKept (v : Json) : (checkKept v).IsTold := by
  cases v with
  | null => trivial
  | obj ms =>
      refine (isTold_namesNoTable ms).bind fun blank => ?_
      split
      · trivial
      · exact (isTold_ofMembers ms).map _
  | _ => exact isTold_fault

end ColumnReference

theorem Column.isTold_check (v : Json) : (check v).IsTold := by
  refine isTold_record (by decide) (fun ms => ?_) v
  exact ((isTold_required isTold_text ms).fmap _)
    |>.seq (isTold_optional isTold_checkName ms)
    |>.seq (isTold_optional (fun v => (isTold_printed v).map _) ms)
    |>.seq (isTold_optional isTold_flag ms)
    |>.seq (isTold_optional isTold_flag ms)
    |>.seq (isTold_optional isTold_flag ms)
    |>.seq (isTold_optional ColumnReference.isTold_checkKept ms)

theorem Table.isTold_check (v : Json) : (check v).IsTold := by
  refine isTold_record (by decide) (fun ms => ?_) v
  exact ((isTold_required isTold_text ms).fmap _)
    |>.seq (isTold_optional isTold_checkName ms)
    |>.seq (isTold_optional (isTold_list Column.isTold_check) ms)
    |>.seq (isTold_optional Position.isTold_check ms)
    |>.seq (isTold_optional (isTold_nullable isTold_text) ms)
    |>.seq (isTold_optional (isTold_nullable isTold_text) ms)

theorem Relationship.isTold_check (v : Json) : (check v).IsTold := by
  have isTold_checkEnd (v : Json) : (checkEnd v).IsTold := (isTold_text v).map _
  refine isTold_record (by decide) (fun ms => ?_) v
  exact ((isTold_required isTold_text ms).fmap _)
    |>.seq (isTold_required isTold_text ms)
    |>.seq (isTold_required isTold_text ms)
    |>.seq (isTold_required isTold_checkEnd ms)
    |>.seq (isTold_required isTold_checkEnd ms)
    |>.seq (isTold_optional (isTold_nullable isTold_text) ms)

/-! ### Steps of a reading -/

/-- A step that fails with plain messages only. -/
def FailsPlainly {α : Type} (e : Except Failure α) : Prop :=
  ∀ f, e = .error f → Text.IsPlain f.message

namespace FailsPlainly

variable {α β : Type}

theorem ok (a : α) : FailsPlainly (.ok a) := nofun

theorem error {f : Failure} (h : Text.IsPlain f.message) :
    FailsPlainly (.error f : Except Failure α) := by
  intro f' same
  cases same
  exact h

theorem crash (c : Crash) : FailsPlainly (.error (.crash c) : Except Failure α) :=
  error nofun

theorem bind {e : Except Failure α} {k : α → Except Failure β} (h : FailsPlainly e)
    (hk : ∀ a, FailsPlainly (k a)) : FailsPlainly (e >>= k) := by
  intro f failed
  rcases bind_error failed with first | ⟨a, -, rest⟩
  · exact h f first
  · exact hk a f rest

theorem mapM {k : β → Except Failure α} (h : ∀ b, FailsPlainly (k b)) (bs : List β) :
    FailsPlainly (bs.mapM k) := by
  intro f failed
  obtain ⟨b, -, failed⟩ := (mapM_eq_error_iff.mp failed).exists_bad
  exact h b f failed

theorem orFail {c : Checked α} (h : c.IsTold) : FailsPlainly c.orFail := by
  cases c with
  | valid a => exact ok a
  | invalid found => exact error h
  | tooDeep => exact crash _

theorem shown (outcome : Except Json.ShowFault α) :
    FailsPlainly (outcome.mapError Json.ShowFault.failure) := by
  cases outcome with
  | ok a => exact ok a
  | error fault =>
      cases fault with
      | tooDeep => exact crash _
      | tooManyDigits => exact error Decimal.isPlain_tooManyDigitsToShow

theorem elements (v : Json) : FailsPlainly v.elements := by
  intro f failed
  obtain ⟨-, rfl⟩ := Json.elements_eq_error_iff.mp failed
  exact nofun

theorem putPair (ms : Members) (index : Nat) (pair : Json) :
    FailsPlainly (Json.putPair ms index pair) := by
  refine (elements pair).bind fun items => ?_
  split
  · exact ok _
  · exact crash _
  · exact crash _
  · exact ok _
  · have place := Text.IsPlain.append (s := "dictionary update sequence element #") (by decide)
      (Text.isPlain_repr index)
    exact error (((place.append (by decide)).append (Text.isPlain_repr _)).append (by decide))

theorem putPairs (ms : Members) (index : Nat) (pairs : List Json) :
    FailsPlainly (Json.putPairs ms index pairs) := by
  induction pairs generalizing ms index with
  | nil => exact ok ms
  | cons pair rest ih => exact (putPair ms index pair).bind fun ms => ih ms (index + 1)

theorem entries (v : Json) : FailsPlainly v.entries := by
  by_cases isObj : ∃ ms, v = .obj ms
  · obtain ⟨ms, rfl⟩ := isObj
    exact ok ms
  · rw [Json.entries_of_ne_obj (not_exists.mp isObj)]
    exact (elements v).bind fun pairs => putPairs [] 0 pairs

end FailsPlainly

namespace Snapshot

open FailsPlainly

theorem nodeTable_failsPlainly (node : Json) : FailsPlainly (nodeTable node) := by
  cases node with
  | obj ms =>
      intro f failed
      obtain ⟨data, -, -, failed⟩ := nodeTable_obj_error_iff.mp failed
      exact entries data f failed
  | _ => exact crash _

theorem itemsOf_failsPlainly (v : Json) : FailsPlainly (itemsOf v) := by
  unfold itemsOf
  split
  · exact elements v
  · exact ok _

theorem parts_failsPlainly (ms : Members) : FailsPlainly (parts ms) := by
  cases found : ms.get? "tables" with
  | some v =>
      rw [parts_of_tables found]
      exact (itemsOf_failsPlainly _).bind fun items => ok _
  | none =>
      rw [parts_on_canvas found]
      exact (itemsOf_failsPlainly _).bind fun nodes =>
        (mapM nodeTable_failsPlainly nodes).bind fun tables => ok _

theorem edgeRelationship?_failsPlainly (edge : Json) : FailsPlainly (edgeRelationship? edge) := by
  unfold edgeRelationship?
  split
  · split
    · exact (orFail (Relationship.isTold_check _)).bind fun r => ok _
    · exact (shown _).bind fun _ => ok _
  · exact error (Text.IsPlain.append (by decide) (Json.isPlain_kindName _))

theorem dialectOf_failsPlainly (v : Json) : FailsPlainly (dialectOf v) := by
  simp only [dialectOf]
  generalize (if v.isGiven = true then v else .str Dialect.postgresql.name) = w
  split
  · exact ok _
  · intro f failed
    rcases bind_error failed with first | ⟨shown, isShown, rest⟩
    · exact FailsPlainly.shown _ f first
    · cases rest
      have plain := Json.isPlain_of_shownOrFail isShown
      exact (plain.append (by decide)).append (by decide)

theorem stateOfMembers_failsPlainly (ms : Members) : FailsPlainly (stateOfMembers ms) := by
  refine (parts_failsPlainly ms).bind fun (drafts, edges) => ?_
  refine (mapM (fun v => orFail (Table.isTold_check v)) drafts).bind fun tables => ?_
  have finish (rs : List Relationship) :
      FailsPlainly (dialectOf ((ms.get? "dialect").getD .null) >>= fun dialect =>
        (.ok { tables, relationships := rs, dialect } : Except Failure (State Float))) :=
    (dialectOf_failsPlainly _).bind fun dialect => ok _
  cases edges with
  | null => exact finish _
  | _ =>
      refine (elements _).bind fun drawn => ?_
      exact (mapM edgeRelationship?_failsPlainly drawn).bind fun given => finish _

/-- The findings and wrong values in a snapshot are reported after a few words. -/
theorem isPlain_failureOf {f : Failure} (h : Text.IsPlain f.message) :
    Text.IsPlain (failureOf f).message := by
  cases f with
  | invalid found => exact Text.IsPlain.append (by decide) h
  | value fault => exact Text.IsPlain.append (by decide) h
  | _ => exact h

theorem ofJson_failsPlainly (v : Json) : FailsPlainly (ofJson v) := by
  cases v with
  | obj ms =>
      intro f failed
      cases read : stateOfMembers ms with
      | ok s =>
          rw [ofJson, read] at failed
          cases failed
      | error e =>
          rw [ofJson, read] at failed
          obtain rfl : failureOf e = f := Except.error.inj failed
          exact isPlain_failureOf (stateOfMembers_failsPlainly ms e read)
  | _ => exact error (Text.IsPlain.append (by decide) (Json.isPlain_kindName _))

end Snapshot

end SchemaGraph
