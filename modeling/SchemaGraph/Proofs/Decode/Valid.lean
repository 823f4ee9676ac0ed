import SchemaGraph.Decode.Scalar

/-!
# When a check succeeds

A combined check is valid exactly when all of its parts are, and its value is put together from
theirs. The rules are stated in both directions: to compute the outcome of a check on a known
document, and to learn about the document from a valid outcome.
-/

namespace SchemaGraph.Decode

namespace Checked

variable {α β : Type}

@[simp] theorem map_valid (f : α → β) (a : α) : f <$> valid a = valid (f a) := rfl

@[simp] theorem seq_valid (f : α → β) (a : α) : valid f <*> valid a = valid (f a) := rfl

@[simp] theorem below_valid (s : Step) (a : α) : (valid a).below s = valid a := rfl

theorem fmap_eq_valid_iff {f : α → β} {c : Checked α} {b : β} :
    f <$> c = valid b ↔ ∃ a, c = valid a ∧ f a = b := by
  change c.map f = valid b ↔ _
  cases c <;> simp [map]

theorem seq_eq_valid_iff {f : Checked (α → β)} {c : Checked α} {b : β} :
    f <*> c = valid b ↔ ∃ g a, f = valid g ∧ c = valid a ∧ g a = b := by
  change app f c = valid b ↔ _
  cases f <;> cases c <;> simp [app]

theorem exists_fmap_eq_valid_iff {f : α → β} {c : Checked α} :
    (∃ b, f <$> c = valid b) ↔ ∃ a, c = valid a := by
  change (∃ b, c.map f = valid b) ↔ _
  cases c <;> simp [map]

/-- A combined check has a value exactly if both of its parts have. -/
theorem exists_seq_eq_valid_iff {f : Checked (α → β)} {c : Checked α} :
    (∃ b, f <*> c = valid b) ↔ (∃ g, f = valid g) ∧ ∃ a, c = valid a := by
  change (∃ b, app f c = valid b) ↔ _
  cases f <;> cases c <;> simp [app]

theorem below_eq_valid_iff {s : Step} {c : Checked α} {a : α} :
    c.below s = valid a ↔ c = valid a := by
  cases c <;> simp [below]

end Checked

variable {α : Type}

theorem text_eq_valid_iff {v : Json} {s : String} : text v = .valid s ↔ v = .str s := by
  cases v <;> simp [text, Checked.fault]

/-- A member that has to be there is valid if the first of its names that is found has a valid
value. -/
theorem required_of_find? {names : List String} {check : Json → Checked α} {ms : Members}
    {name : String} {v : Json} (found : ms.find? names = some (name, v)) :
    required names check ms = (check v).below (.name name) := by
  simp [required, found]

theorem optional_of_find? {names : List String} {default : α} {check : Json → Checked α}
    {ms : Members} {name : String} {v : Json} {a : α}
    (found : ms.find? names = some (name, v)) (h : check v = .valid a) :
    optional names default check ms = .valid a := by
  simp [optional, sent, found, h, Checked.map, Checked.below]

theorem get?_of_required {ms : Members} {name s : String}
    (h : required [name] text ms = .valid s) : ms.get? name = some (.str s) := by
  unfold required Members.find? at h
  cases found : ms.get? name with
  | none =>
      simp only [List.findSome?_cons, List.findSome?_nil, found, Option.map_none] at h
      cases h
  | some v =>
      simp only [List.findSome?_cons, found, Option.map_some, Checked.below_eq_valid_iff,
        text_eq_valid_iff] at h
      rw [h]

/-- A member that may be missing is missing or valid. -/
theorem of_optional {name : String} {default a : α} {check : Json → Checked α} {ms : Members}
    (h : Decode.optional [name] default check ms = .valid a) :
    (ms.get? name = none ∧ a = default) ∨ ∃ v, ms.get? name = some v ∧ check v = .valid a := by
  unfold Decode.optional sent Members.find? at h
  cases found : ms.get? name with
  | none =>
      simp only [List.findSome?_cons, List.findSome?_nil, found, Option.map_none] at h
      cases h
      exact .inl ⟨rfl, rfl⟩
  | some v =>
      simp only [List.findSome?_cons, found, Option.map_some] at h
      refine .inr ⟨v, rfl, ?_⟩
      cases checked : check v with
      | valid b =>
          rw [checked] at h
          cases h
          rfl
      | _ =>
          rw [checked] at h
          cases h

theorem find?_of_get? {ms : Members} {name : String} {v : Json} (h : ms.get? name = some v)
    (others : List String) : ms.find? (name :: others) = some (name, v) := by
  simp [Members.find?, h]

@[simp] theorem nullable_text_ofText? (s : Option String) :
    nullable text (.ofText? s) = .valid s := by
  cases s <;> rfl

/-- A list of written values is read back if each of them is. -/
theorem checkFrom_map {check : Json → Checked α} {write : α → Json} (as : List α)
    (h : ∀ a ∈ as, check (write a) = .valid a) (n : Nat) :
    checkFrom check n (as.map write) = .valid as := by
  induction as generalizing n with
  | nil => rfl
  | cons a as ih =>
      simp only [List.map_cons, checkFrom, h a List.mem_cons_self,
        ih (fun b hb => h b (List.mem_cons_of_mem _ hb)), Checked.below_valid, Checked.map_valid,
        Checked.seq_valid]

/-- What is read off the values of a valid list is read off its items. -/
theorem map_eq_of_checkFrom {β γ : Type} {check : α → Checked β} {g : β → γ} {k : α → γ}
    (item : ∀ a b, check a = .valid b → g b = k a) {n : Nat} {as : List α} {bs : List β}
    (h : checkFrom check n as = .valid bs) : bs.map g = as.map k := by
  induction as generalizing n bs with
  | nil =>
      cases h
      rfl
  | cons a as ih =>
      obtain ⟨_, rest, first, hrest, rfl⟩ := Checked.seq_eq_valid_iff.mp h
      obtain ⟨b, hb, rfl⟩ := Checked.fmap_eq_valid_iff.mp first
      rw [List.map_cons, List.map_cons, item a b (Checked.below_eq_valid_iff.mp hb), ih hrest]

end SchemaGraph.Decode
