import SchemaGraph.Proofs.Editing.Ensures

/-!
# How edits fail

The counterpart of what an edit ensures. What is said here holds of the failure of an edit whenever
it fails, on a given supply: a later step may fail for a reason that depends on the ids drawn by
earlier ones. The rules follow the way in which edits are put together.
-/

namespace SchemaGraph

/-- Whether a failure is that of an operation that was refused. -/
def Failure.IsRefusal (f : Failure) : Prop := ∃ e, f = .operation e

/-- Whether a failure is what a check has found. -/
def Failure.IsFinding (f : Failure) : Prop := ∃ found, f = .invalid found

/-- A check that does not pass fails with what it has found, unless it was cut short. -/
theorem Decode.Checked.orFail_error {α : Type} {c : Checked α} {f : Failure}
    (h : c.orFail = .error f) : f.IsFinding ∨ c = .tooDeep ∧ f = .crash .tooDeep := by
  cases c with
  | valid a => cases h
  | invalid found => exact .inl ⟨found, (Except.error.inj h).symm⟩
  | tooDeep => exact .inr ⟨rfl, (Except.error.inj h).symm⟩

theorem Decode.Checked.orFail_finds {α : Type} {c : Checked α} (settled : c ≠ .tooDeep)
    {f : Failure} (h : c.orFail = .error f) : f.IsFinding :=
  (orFail_error h).resolve_right fun cut => settled cut.1

/-- A whole that fails fails in its first step or in its second one. -/
theorem bind_error {ε α β : Type} {x : Except ε α} {f : α → Except ε β} {e : ε}
    (h : (x >>= f) = .error e) : x = .error e ∨ ∃ a, x = .ok a ∧ f a = .error e := by
  cases x with
  | error e' => exact .inl (congrArg Except.error (Except.error.inj h))
  | ok a => exact .inr ⟨a, rfl, h⟩

/-- Whether going through a list runs into a bad item, after items that are fine. -/
inductive RunsInto {α : Type} (fine bad : α → Prop) : List α → Prop
  | here {a : α} {as : List α} (h : bad a) : RunsInto fine bad (a :: as)
  | later {a : α} {as : List α} (h : fine a) (rest : RunsInto fine bad as) :
    RunsInto fine bad (a :: as)

namespace RunsInto

variable {α : Type} {fine fine' bad bad' : α → Prop} {as : List α}

theorem exists_bad (h : RunsInto fine bad as) : ∃ a ∈ as, bad a := by
  induction h with
  | here h => exact ⟨_, List.mem_cons_self, h⟩
  | later _ _ ih =>
      obtain ⟨a, ha, h⟩ := ih
      exact ⟨a, List.mem_cons_of_mem _ ha, h⟩

theorem mono (h : RunsInto fine bad as) (better : ∀ a, fine a → fine' a)
    (worse : ∀ a, bad a → bad' a) : RunsInto fine' bad' as := by
  induction h with
  | here h => exact .here (worse _ h)
  | later h _ ih => exact .later (better _ h) ih

theorem imp (h : RunsInto fine bad as) (worse : ∀ a, bad a → bad' a) :
    RunsInto fine bad' as :=
  h.mono (fun _ => id) worse

/-- If not every item is fine, there is a first one that is not. -/
theorem of_not_all (h : ¬ ∀ a ∈ as, fine a) : RunsInto fine (¬ fine ·) as := by
  induction as with
  | nil => exact absurd (fun _ ha => by cases ha) h
  | cons a as ih =>
      by_cases first : fine a
      · exact .later first (ih fun rest => h (List.forall_mem_cons.mpr ⟨first, rest⟩))
      · exact .here first

theorem or (h : RunsInto fine (fun a => bad a ∨ bad' a) as) :
    RunsInto fine bad as ∨ RunsInto fine bad' as := by
  induction h with
  | here h => exact h.imp .here .here
  | later h _ ih => exact ih.imp (.later h) (.later h)

/-- Whatever is bad about the first item that is not fine holds of one and the same item. -/
theorem meet (h : RunsInto fine bad as) (h' : RunsInto fine bad' as)
    (never : ∀ a, bad a → ¬ fine a) (never' : ∀ a, bad' a → ¬ fine a) : ∃ a, bad a ∧ bad' a := by
  induction h with
  | here h =>
      cases h' with
      | here h' => exact ⟨_, h, h'⟩
      | later ok _ => exact absurd ok (never _ h)
  | later ok _ ih =>
      cases h' with
      | here h' => exact absurd ok (never' _ h')
      | later _ rest' => exact ih rest'

theorem and_iff {p : Prop} :
    RunsInto fine (fun a => bad a ∧ p) as ↔ RunsInto fine bad as ∧ p := by
  constructor
  · intro h
    obtain ⟨a, -, -, hp⟩ := h.exists_bad
    exact ⟨h.imp fun _ hb => hb.1, hp⟩
  · rintro ⟨h, hp⟩
    exact h.imp fun _ hb => ⟨hb, hp⟩

@[simp] theorem not_nil : ¬ RunsInto fine bad [] := nofun

theorem cons_iff {a : α} :
    RunsInto fine bad (a :: as) ↔ bad a ∨ fine a ∧ RunsInto fine bad as := by
  constructor
  · rintro (h | ⟨h, rest⟩)
    · exact .inl h
    · exact .inr ⟨h, rest⟩
  · rintro (h | ⟨h, rest⟩)
    · exact .here h
    · exact .later h rest

theorem map_iff {β : Type} {g : β → α} {bs : List β} :
    RunsInto fine bad (bs.map g) ↔ RunsInto (fun b => fine (g b)) (fun b => bad (g b)) bs := by
  induction bs with
  | nil => simp
  | cons b bs ih => simp [cons_iff, ih]

end RunsInto

/-- A list of steps fails as the first step that fails. -/
theorem mapM_eq_error_iff {ε α β : Type} {f : α → Except ε β} {as : List α} {e : ε} :
    as.mapM f = .error e ↔ RunsInto (fun a => ∃ b, f a = .ok b) (fun a => f a = .error e) as := by
  constructor
  · intro h
    induction as with
    | nil => cases h
    | cons a as ih =>
        rw [List.mapM_cons] at h
        rcases bind_error h with here | ⟨b, hb, h⟩
        · exact .here here
        rcases bind_error h with later | ⟨bs, -, h⟩
        · exact .later ⟨b, hb⟩ (ih later)
        · cases h
  · intro h
    induction h with
    | here h =>
        rw [List.mapM_cons, h]
        rfl
    | later h _ ih =>
        obtain ⟨b, hb⟩ := h
        rw [List.mapM_cons, hb, ih]
        rfl

/-- A list of steps succeeds exactly if each of its steps does. -/
theorem exists_mapM_eq_ok_iff {ε α β : Type} {f : α → Except ε β} {as : List α} :
    (∃ bs, as.mapM f = .ok bs) ↔ ∀ a ∈ as, ∃ b, f a = .ok b := by
  induction as with
  | nil => exact ⟨fun _ _ ha => (by cases ha), fun _ => ⟨[], rfl⟩⟩
  | cons a as ih =>
      rw [List.mapM_cons, List.forall_mem_cons, ← ih]
      constructor
      · rintro ⟨_, h⟩
        obtain ⟨b, hb, h⟩ := bind_ok h
        obtain ⟨bs, hbs, -⟩ := bind_ok h
        exact ⟨⟨b, hb⟩, bs, hbs⟩
      · rintro ⟨⟨b, hb⟩, bs, hbs⟩
        exact ⟨b :: bs, by rw [hb, hbs]; rfl⟩

/-- Whether a step can fail by being refused only. -/
def OnlyRefuses {α : Type} (x : Except Failure α) : Prop := ∀ f, x = .error f → f.IsRefusal

namespace OnlyRefuses

variable {α β : Type}

theorem ok (a : α) : OnlyRefuses (.ok a) := fun _ h => by cases h

theorem refuse (e : OperationError) : OnlyRefuses (.error (.operation e) : Except Failure α) :=
  fun _ h => ⟨e, (Except.error.inj h).symm⟩

theorem bind {x : Except Failure α} {f : α → Except Failure β} (first : OnlyRefuses x)
    (second : ∀ a, x = .ok a → OnlyRefuses (f a)) : OnlyRefuses (x >>= f) := by
  intro e h
  rcases bind_error h with h | ⟨a, ha, h⟩
  · exact first e h
  · exact second a ha e h

end OnlyRefuses

namespace Edit

variable {α β : Type}

@[simp] theorem runOn_pure (a : α) (supply : Supply) :
    (pure a : Edit α).runOn supply = (.ok a, supply) := rfl

@[simp] theorem runOn_lift (x : Except Failure α) (supply : Supply) :
    (liftM x : Edit α).runOn supply = (x, supply) := rfl

@[simp] theorem runOn_freshId (supply : Supply) :
    freshId.runOn supply = (.ok supply.draw.1, supply.draw.2) := rfl

/-- Whenever the edit fails on a supply, its failure has the property. -/
def FailsOnly (e : Edit α) (supply : Supply) (F : Failure → Prop) : Prop :=
  ∀ f, (e.runOn supply).1 = .error f → F f

namespace FailsOnly

variable {e : Edit α} {f : α → Edit β} {supply : Supply} {F G : Failure → Prop}

/-- An edit that can fail in ways only that are ruled out succeeds. -/
theorem exists_ok (h : e.FailsOnly supply F) (never : ∀ f, ¬F f) :
    ∃ a, (e.runOn supply).1 = .ok a := by
  cases outcome : (e.runOn supply).1 with
  | ok a => exact ⟨a, rfl⟩
  | error f => exact absurd (h f outcome) (never f)

theorem mono (h : e.FailsOnly supply F) (imp : ∀ f, F f → G f) : e.FailsOnly supply G :=
  fun f hf => imp f (h f hf)

theorem pure {a : α} : (pure a : Edit α).FailsOnly supply F := fun _ h => by cases h

theorem lift {x : Except Failure α} (h : ∀ f, x = .error f → F f) :
    (liftM x : Edit α).FailsOnly supply F :=
  fun f hf => h f hf

theorem bind (first : e.FailsOnly supply F)
    (second : ∀ a rest, e.runOn supply = (.ok a, rest) → (f a).FailsOnly rest F) :
    (e >>= f).FailsOnly supply F := by
  intro failure h
  rw [runOn_bind] at h
  rcases he : e.runOn supply with ⟨failed | a, rest⟩
  · rw [he] at h
    exact first failure (by rw [he, Except.error.inj h])
  · rw [he] at h
    exact second a rest he failure h

/-- A step that draws no ids leaves the supply to the next one. -/
theorem bind_lift {x : Except Failure α} (first : ∀ f, x = .error f → F f)
    (second : ∀ a, x = .ok a → (f a).FailsOnly supply F) :
    ((liftM x : Edit α) >>= f).FailsOnly supply F := by
  refine bind (lift first) fun a rest run => ?_
  obtain ⟨rfl, rfl⟩ := Prod.mk.inj run
  exact second a rfl

theorem bind_known {x : Except Failure α} {a : α} (known : x = .ok a)
    (second : (f a).FailsOnly supply F) : ((liftM x : Edit α) >>= f).FailsOnly supply F := by
  subst known
  refine bind_lift (fun _ h => by cases h) fun b same => ?_
  rwa [← Except.ok.inj same]

theorem ite {c : Prop} [Decidable c] {e' : Edit α} (yes : c → e.FailsOnly supply F)
    (no : ¬c → e'.FailsOnly supply F) : (if c then e else e').FailsOnly supply F := by
  by_cases h : c
  · rw [if_pos h]
    exact yes h
  · rw [if_neg h]
    exact no h

end FailsOnly

end Edit
end SchemaGraph
