import SchemaGraph.Proofs.Editing.Failing

/-!
# Edits that are decided

Whether an edit succeeds can mostly be told before any id is drawn, and so can the way in which it
fails, except for what a check finds in a record: the record has the id that was drawn. That a check
is cut short can be told as well. The rules follow the way in which such edits are put together. So
what an edit succeeds on and what it fails for are found with its parts, and both directions are
proved at once.
-/

namespace SchemaGraph.Edit

variable {α β : Type}

theorem runOn_bind_ok {e : Edit α} {g : α → Edit β} {supply : Supply} {a : α}
    (h : (e.runOn supply).1 = .ok a) :
    (e >>= g).runOn supply = (g a).runOn (e.runOn supply).2 := by
  rw [runOn_bind]
  rcases he : e.runOn supply with ⟨outcome, rest⟩
  rw [he] at h
  subst h
  rfl

theorem runOn_bind_error {e : Edit α} {g : α → Edit β} {supply : Supply} {f : Failure}
    (h : (e.runOn supply).1 = .error f) : ((e >>= g).runOn supply).1 = .error f := by
  rw [runOn_bind]
  rcases he : e.runOn supply with ⟨outcome, rest⟩
  rw [he] at h
  subst h
  rfl

/-- Whatever ids are drawn, the edit succeeds exactly if it is fine. It fails in a bare way if it
does so at all, and otherwise with a finding. -/
structure IsDecided (e : Edit α) (fine : Prop) (bare : Failure → Prop) : Prop where
  succeeds : fine → ∀ supply, ∃ a, (e.runOn supply).1 = .ok a
  fails : ∀ f, bare f → ∀ supply, (e.runOn supply).1 = .error f
  ensures : e.Ensures fun _ => fine
  failsOnly : ∀ supply, e.FailsOnly supply fun f => bare f ∨ f.IsFinding

namespace IsDecided

variable {e : Edit α} {g : α → Edit β} {fine fine' : Prop} {bare bare' : Failure → Prop}

theorem congr (h : e.IsDecided fine bare) (same : fine ↔ fine') (alike : ∀ f, bare f ↔ bare' f) :
    e.IsDecided fine' bare' := by
  obtain rfl := propext same
  obtain rfl : bare = bare' := funext fun f => propext (alike f)
  exact h

/-- An edit that fails is not fine. -/
theorem not_fine (h : e.IsDecided fine bare) {supply : Supply} {f : Failure}
    (failed : (e.runOn supply).1 = .error f) : ¬ fine := by
  intro ok
  obtain ⟨a, run⟩ := h.succeeds ok supply
  cases failed.symm.trans run

theorem pure {a : α} : (pure a : Edit α).IsDecided True fun _ => False where
  succeeds _ _ := ⟨a, rfl⟩
  fails _ h := h.elim
  ensures := Ensures.trivial
  failsOnly _ := FailsOnly.pure

theorem lift {x : Except Failure α} (h : ∀ f, x = .error f → f.IsFinding) :
    (liftM x : Edit α).IsDecided (∃ a, x = .ok a) fun _ => False where
  succeeds ok _ := ok
  fails _ h := h.elim
  ensures := Ensures.lift fun a ok => ⟨a, ok⟩
  failsOnly _ := FailsOnly.lift fun f hf => .inr (h f hf)

theorem check (c : Decode.Checked α) : (liftM c.orFail : Edit α).IsDecided (∃ a, c = .valid a)
    fun f => c = .tooDeep ∧ f = .crash .tooDeep where
  succeeds := by
    rintro ⟨a, rfl⟩ supply
    exact ⟨a, rfl⟩
  fails := by
    rintro f ⟨rfl, rfl⟩ supply
    rfl
  ensures := Ensures.lift fun a ok => ⟨a, Decode.Checked.orFail_eq_ok_iff.mp ok⟩
  failsOnly _ := FailsOnly.lift fun f hf => (Decode.Checked.orFail_error hf).symm

theorem bind (first : e.IsDecided fine bare) (second : ∀ a, (g a).IsDecided fine' bare') :
    (e >>= g).IsDecided (fine ∧ fine') fun f => bare f ∨ fine ∧ bare' f where
  succeeds := by
    rintro ⟨ok, ok'⟩ supply
    obtain ⟨a, run⟩ := first.succeeds ok supply
    rw [runOn_bind_ok run]
    exact (second a).succeeds ok' _
  fails := by
    rintro f (bad | ⟨ok, bad⟩) supply
    · exact runOn_bind_error (first.fails f bad supply)
    · obtain ⟨a, run⟩ := first.succeeds ok supply
      rw [runOn_bind_ok run]
      exact (second a).fails f bad _
  ensures := first.ensures.bind fun a ok => (second a).ensures.mono fun _ ok' => ⟨ok, ok'⟩
  failsOnly supply := by
    refine FailsOnly.bind ((first.failsOnly supply).mono fun f h => h.imp_left .inl)
      fun a rest run => ?_
    have ok : fine := first.ensures supply a (by rw [run])
    exact ((second a).failsOnly rest).mono fun f h => h.imp_left fun bad => .inr ⟨ok, bad⟩

/-- Drawing an id decides nothing. -/
theorem bind_freshId {g : String → Edit β} (second : ∀ id, (g id).IsDecided fine bare) :
    (freshId >>= g).IsDecided fine bare := by
  have drawn : freshId.IsDecided True fun _ => False := {
    succeeds := fun _ supply => ⟨_, congrArg Prod.fst (runOn_freshId supply)⟩
    fails := fun _ h => h.elim
    ensures := Ensures.trivial
    failsOnly := fun _ _ h => by cases h }
  exact (drawn.bind second).congr (by simp) (by simp)

theorem bind_known {x : Except Failure α} {a : α} (known : x = .ok a)
    (second : (g a).IsDecided fine bare) : ((liftM x : Edit α) >>= g).IsDecided fine bare := by
  subst known
  exact second

/-- A step that draws no ids is known beforehand, with its value. -/
theorem bind_lift {x : Except Failure α} {fine : α → Prop} {bare : α → Failure → Prop}
    (second : ∀ a, (g a).IsDecided (fine a) (bare a)) :
    ((liftM x : Edit α) >>= g).IsDecided (∃ a, x = .ok a ∧ fine a)
      fun f => x = .error f ∨ ∃ a, x = .ok a ∧ bare a f := by
  cases x with
  | ok a => exact (bind_known rfl (second a)).congr (by simp) (by simp)
  | error e =>
      have failed (supply : Supply) :
          ((liftM (.error e : Except Failure α) >>= g : Edit β).runOn supply).1 = .error e :=
        runOn_bind_error rfl
      exact {
        succeeds := by rintro ⟨a, ⟨⟩, -⟩
        fails := by
          rintro f (h | ⟨a, ⟨⟩, -⟩) supply
          rw [failed, Except.error.inj h]
        ensures := fun supply b h => by cases (failed supply).symm.trans h
        failsOnly := by
          intro supply f h
          rw [failed] at h
          exact .inl (.inl (congrArg Except.error (Except.error.inj h))) }

/-- A list of steps is fine if each of them is, and fails as the first one that is not. -/
theorem mapM {g : α → Edit β} {fine : α → Prop} {bare : α → Failure → Prop}
    (h : ∀ a, (g a).IsDecided (fine a) (bare a)) (as : List α) :
    (as.mapM g).IsDecided (∀ a ∈ as, fine a) fun f => RunsInto fine (bare · f) as := by
  induction as with
  | nil => exact pure.congr (by simp) fun f => ⟨False.elim, nofun⟩
  | cons a as ih =>
      rw [List.mapM_cons]
      exact ((h a).bind fun b => ih.bind fun bs => pure).congr (by simp)
        fun f => by simp [RunsInto.cons_iff]

end IsDecided

end SchemaGraph.Edit
