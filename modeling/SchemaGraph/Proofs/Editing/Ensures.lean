import Mathlib.Data.List.Forall2
import SchemaGraph.Editing.Basic

/-!
# What an edit ensures

An edit draws ids from a supply and may fail. What is said about it here holds of its value whenever
it succeeds, whatever the supply is. The rules follow the way in which edits are put together, so
that a property of an edit is proved from properties of its parts and no proof runs an edit.
-/

namespace SchemaGraph

/-- A failed step fails the whole, so a success comes from a first success and a second one. -/
theorem bind_ok {ε α β : Type} {x : Except ε α} {f : α → Except ε β} {b : β}
    (h : (x >>= f) = .ok b) : ∃ a, x = .ok a ∧ f a = .ok b := by
  cases x with
  | error e => cases h
  | ok a => exact ⟨a, rfl, h⟩

theorem exists_of_isOk {ε α : Type} {x : Except ε α} (h : x.isOk = true) : ∃ a, x = .ok a := by
  cases x with
  | error e => cases h
  | ok a => exact ⟨a, rfl⟩

/-- A success is a success however failures are reported. -/
theorem mapError_ok {ε ε' α : Type} {x : Except ε α} {report : ε → ε'} {a : α}
    (h : x.mapError report = .ok a) : x = .ok a := by
  cases x with
  | error e => cases h
  | ok b =>
      cases h
      rfl

/-- What is read off the values of a step that succeeds on a list is read off its items. -/
theorem map_eq_of_mapM_ok {ε α β γ : Type} {f : α → Except ε β} {g : β → γ} {k : α → γ}
    (step : ∀ a b, f a = .ok b → g b = k a) {as : List α} {bs : List β}
    (h : as.mapM f = .ok bs) : bs.map g = as.map k := by
  induction as generalizing bs with
  | nil =>
      cases h
      rfl
  | cons a as ih =>
      rw [List.mapM_cons] at h
      obtain ⟨b, hb, h⟩ := bind_ok h
      obtain ⟨rest, hrest, h⟩ := bind_ok h
      cases h
      rw [List.map_cons, List.map_cons, step a b hb, ih hrest]

namespace Edit

variable {α β : Type}

/-- Whatever ids are drawn, the edit gives a value with the property or fails. -/
def Ensures (e : Edit α) (Q : α → Prop) : Prop :=
  ∀ supply a, (e.runOn supply).1 = .ok a → Q a

theorem runOn_bind (e : Edit α) (f : α → Edit β) (supply : Supply) :
    (e >>= f).runOn supply =
      match e.runOn supply with
      | (.ok a, rest) => (f a).runOn rest
      | (.error failure, rest) => (.error failure, rest) := by
  change (ExceptT.bindCont f (ExceptT.run e supply).1) (ExceptT.run e supply).2 = _
  unfold runOn
  rcases ExceptT.run e supply with ⟨_ | _, _⟩ <;> rfl

namespace Ensures

variable {e : Edit α} {f : α → Edit β} {P Q : α → Prop} {R : β → Prop}

theorem mono (h : e.Ensures P) (imp : ∀ a, P a → Q a) : e.Ensures Q :=
  fun supply a ha => imp a (h supply a ha)

theorem trivial : e.Ensures fun _ => True := fun _ _ _ => True.intro

theorem pure {a : α} (h : Q a) : (pure a : Edit α).Ensures Q := by
  intro supply b hb
  cases hb
  exact h

theorem lift {x : Except Failure α} (h : ∀ a, x = .ok a → Q a) :
    (liftM x : Edit α).Ensures Q :=
  fun _ a ha => h a ha

theorem bind (first : e.Ensures P) (second : ∀ a, P a → (f a).Ensures R) :
    (e >>= f).Ensures R := by
  intro supply b hb
  rw [runOn_bind] at hb
  rcases he : e.runOn supply with ⟨_ | a, rest⟩
  · rw [he] at hb
    cases hb
  · rw [he] at hb
    exact second a (first supply a (by rw [he])) rest b hb

/-- A step whose value does not matter. -/
theorem bind_any (second : ∀ a, (f a).Ensures R) : (e >>= f).Ensures R :=
  bind trivial fun a _ => second a

theorem ite {c : Prop} [Decidable c] {e' : Edit α} (yes : c → e.Ensures Q)
    (no : ¬c → e'.Ensures Q) : (if c then e else e').Ensures Q := by
  by_cases h : c
  · rw [if_pos h]
    exact yes h
  · rw [if_neg h]
    exact no h

/-- A list of steps gives for each item what its step ensures. -/
theorem mapM {g : α → Edit β} {R : α → β → Prop} {as : List α}
    (h : ∀ a ∈ as, (g a).Ensures (R a)) : (as.mapM g).Ensures (List.Forall₂ R as) := by
  induction as with
  | nil => exact Ensures.pure .nil
  | cons a as ih =>
      rw [List.mapM_cons]
      refine Ensures.bind (h a List.mem_cons_self) fun _ here => ?_
      refine Ensures.bind (ih fun a' ha' => h a' (List.mem_cons_of_mem _ ha')) fun _ rest => ?_
      exact Ensures.pure (.cons here rest)

/-- Reporting failures in another way makes no difference to values. -/
theorem adapt (h : e.Ensures Q) (report : Failure → Failure) :
    Edit.Ensures (ExceptT.adapt report e) Q := by
  intro supply a ha
  change (e.runOn supply).1.mapError report = .ok a at ha
  exact h supply a (mapError_ok ha)

end Ensures
end Edit

end SchemaGraph
