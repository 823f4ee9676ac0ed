import Mathlib.Data.List.Forall2
import Mathlib.Data.List.Nodup

/-!
# Partial functions on lists

A partial function is applied to all items of a list or the whole fails. What comes out is related
to the list item by item, and nothing fails if the function is defined on every item. Looking up an
item by a key that is not repeated is such a function.
-/

namespace SchemaGraph

variable {α β γ : Type}

theorem mapM_eq_some_iff {f : α → Option β} {as : List α} {bs : List β} :
    as.mapM f = some bs ↔ List.Forall₂ (fun a b => f a = some b) as bs := by
  induction as generalizing bs with
  | nil =>
      rw [List.mapM_nil, List.forall₂_nil_left_iff]
      exact ⟨fun h => (Option.some.inj h).symm, fun h => by rw [h]; rfl⟩
  | cons a as ih =>
      rw [List.mapM_cons, List.forall₂_cons_left_iff]
      constructor
      · intro h
        obtain ⟨b, hb, h⟩ := Option.bind_eq_some_iff.mp h
        obtain ⟨rest, hrest, h⟩ := Option.bind_eq_some_iff.mp h
        exact ⟨b, rest, hb, ih.mp hrest, (Option.some.inj h).symm⟩
      · rintro ⟨b, rest, hb, hrest, rfl⟩
        rw [hb, ih.mpr hrest]
        rfl

/-- A function that is defined on every item of a list is defined on the list. -/
theorem mapM_eq_some_map {f : α → Option β} {g : α → β} {as : List α}
    (h : ∀ a ∈ as, f a = some (g a)) : as.mapM f = some (as.map g) :=
  mapM_eq_some_iff.mpr (List.forall₂_map_right_iff.mpr (List.forall₂_same.mpr h))

/-- A step that succeeds on every item of a list succeeds on the list. -/
theorem mapM_eq_ok_map {ε : Type} {f : α → Except ε β} {g : α → β} {as : List α}
    (h : ∀ a ∈ as, f a = .ok (g a)) : as.mapM f = .ok (as.map g) := by
  induction as with
  | nil => rfl
  | cons a as ih =>
      rw [List.mapM_cons, h a List.mem_cons_self, ih fun b hb => h b (List.mem_cons_of_mem _ hb)]
      rfl

/-- Lists agree in what is read off them exactly if their items do, one by one. -/
theorem map_eq_map_iff {f : α → γ} {g : β → γ} {as : List α} {bs : List β} :
    as.map f = bs.map g ↔ List.Forall₂ (fun a b => f a = g b) as bs := by
  rw [← List.forall₂_eq_eq_eq, List.forall₂_map_left_iff, List.forall₂_map_right_iff]

theorem eq_map_of_forall₂ {g : β → α} {as : List α} {bs : List β}
    (h : List.Forall₂ (fun a b => a = g b) as bs) : as = bs.map g := by
  rw [← map_eq_map_iff.mpr h, List.map_id']

/-- Filters that treat related items alike leave related lists. -/
theorem forall₂_filter {r : α → β → Prop} {p : α → Bool} {q : β → Bool} {as : List α}
    {bs : List β} (h : List.Forall₂ (fun a b => p a = q b ∧ r a b) as bs) :
    List.Forall₂ r (as.filter p) (bs.filter q) := by
  induction h with
  | nil => exact .nil
  | @cons a b _ _ head _ ih =>
      obtain ⟨alike, related⟩ := head
      cases kept : q b with
      | true =>
          rw [List.filter_cons_of_pos (alike.trans kept), List.filter_cons_of_pos kept]
          exact .cons related ih
      | false =>
          rw [List.filter_cons_of_neg (by simp [alike, kept]),
            List.filter_cons_of_neg (by simp [kept])]
          exact ih

/-- What is found in related lists is related, if related items are looked for alike. -/
theorem find?_rel {r : α → β → Prop} {p : α → Bool} {q : β → Bool} {as : List α} {bs : List β}
    (h : List.Forall₂ (fun a b => p a = q b ∧ r a b) as bs) :
    Option.Rel r (as.find? p) (bs.find? q) := by
  induction h with
  | nil => exact .none
  | @cons a b _ _ head _ ih =>
      obtain ⟨alike, related⟩ := head
      rw [List.find?_cons, List.find?_cons, alike]
      cases q b with
      | true => exact .some related
      | false => exact ih

/-- Related steps that are taken with related values lead to related values, or to none. -/
theorem bind_rel {δ : Type} {r : α → β → Prop} {r' : γ → δ → Prop} {a : Option α} {b : Option β}
    {f : α → Option γ} {g : β → Option δ} (h : Option.Rel r a b)
    (step : ∀ x y, a = some x → r x y → Option.Rel r' (f x) (g y)) :
    Option.Rel r' (a >>= f) (b >>= g) := by
  cases h with
  | none => exact .none
  | some related => exact step _ _ rfl related

/-- Steps that agree on related values go on alike from them. -/
theorem bind_eq_bind_of_rel {r : α → β → Prop} {a : Option α} {b : Option β} {f : α → Option γ}
    {g : β → Option γ} (h : Option.Rel r a b) (step : ∀ x y, r x y → f x = g y) :
    a >>= f = b >>= g := by
  cases h with
  | none => rfl
  | some related => exact step _ _ related

/-- Related steps on related lists give related lists, or nothing. -/
theorem mapM_rel {δ : Type} {r : α → β → Prop} {r' : γ → δ → Prop} {f : α → Option γ}
    {g : β → Option δ} {as : List α} {bs : List β} (h : List.Forall₂ r as bs)
    (step : ∀ a b, r a b → Option.Rel r' (f a) (g b)) :
    Option.Rel (List.Forall₂ r') (as.mapM f) (bs.mapM g) := by
  induction h with
  | nil => exact .some .nil
  | @cons a b _ _ head _ ih =>
      rw [List.mapM_cons, List.mapM_cons]
      refine bind_rel (step a b head) fun c d _ first => ?_
      exact bind_rel ih fun cs ds _ rest => .some (.cons first rest)

/-- A step that agrees with another one up to functions on what goes in and what comes out does so
on lists. -/
theorem mapM_map_eq {δ : Type} {f : α → β} {g : γ → δ} {step : α → Option γ} {step' : β → Option δ}
    (same : ∀ a, step' (f a) = (step a).map g) (as : List α) :
    (as.map f).mapM step' = (as.mapM step).map (List.map g) := by
  induction as with
  | nil => rfl
  | cons a as ih =>
      rw [List.map_cons, List.mapM_cons, List.mapM_cons, same, ih]
      cases step a with
      | none => rfl
      | some c => cases as.mapM step <;> rfl

theorem bind_map_eq {δ : Type} {a : Option α} {f : α → β} {g : γ → δ} {step : α → Option γ}
    {step' : β → Option δ} (same : ∀ x, step' (f x) = (step x).map g) :
    (a.map f >>= step') = (a >>= step).map g := by
  cases a with
  | none => rfl
  | some x => exact same x

theorem filterMap_eq_filterMap {f : α → Option γ} {g : β → Option γ} {as : List α} {bs : List β}
    (h : List.Forall₂ (fun a b => f a = g b) as bs) : as.filterMap f = bs.filterMap g := by
  induction h with
  | nil => rfl
  | cons head _ ih => rw [List.filterMap_cons, List.filterMap_cons, head, ih]

/-- What comes out is related to those items that the function is defined on. -/
theorem forall₂_of_filterMap {f : α → Option β} {r : β → γ → Prop} {as : List α} {cs : List γ}
    (h : List.Forall₂ r (as.filterMap f) cs) :
    List.Forall₂ (fun a c => ∃ b, f a = some b ∧ r b c) (as.filter fun a => (f a).isSome) cs := by
  induction as generalizing cs with
  | nil =>
      rw [List.filterMap_nil, List.forall₂_nil_left_iff] at h
      rw [h]
      exact .nil
  | cons a as ih =>
      cases found : f a with
      | none =>
          rw [List.filterMap_cons_none found] at h
          rw [List.filter_cons_of_neg (by simp [found])]
          exact ih h
      | some b =>
          rw [List.filterMap_cons_some found, List.forall₂_cons_left_iff] at h
          obtain ⟨c, rest, head, related, rfl⟩ := h
          rw [List.filter_cons_of_pos (by simp [found])]
          exact .cons ⟨b, found, head⟩ (ih related)

theorem exists_forall₂ {r : α → β → Prop} {as : List α} (h : ∀ a ∈ as, ∃ b, r a b) :
    ∃ bs, List.Forall₂ r as bs := by
  induction as with
  | nil => exact ⟨[], .nil⟩
  | cons a as ih =>
      obtain ⟨here, rest⟩ := List.forall_mem_cons.mp h
      obtain ⟨b, hb⟩ := here
      obtain ⟨bs, hbs⟩ := ih rest
      exact ⟨b :: bs, .cons hb hbs⟩

theorem exists_of_mem_left {r : α → β → Prop} {as : List α} {bs : List β}
    (h : List.Forall₂ r as bs) {a : α} (ha : a ∈ as) : ∃ b ∈ bs, r a b := by
  induction h with
  | nil => cases ha
  | cons head _ ih =>
      rcases List.mem_cons.mp ha with rfl | ha
      · exact ⟨_, List.mem_cons_self, head⟩
      · obtain ⟨b, hb, related⟩ := ih ha
        exact ⟨b, List.mem_cons_of_mem _ hb, related⟩

/-- What comes out is parted as what goes in. -/
theorem exists_parts {r : α → β → Prop} {ls : List (List α)} {bs : List β}
    (h : List.Forall₂ r ls.flatten bs) :
    ∃ parts, List.Forall₂ (List.Forall₂ r) ls parts ∧ parts.flatten = bs := by
  induction ls generalizing bs with
  | nil =>
      rw [List.forall₂_nil_left_iff.mp h]
      exact ⟨[], .nil, rfl⟩
  | cons l ls ih =>
      have first := List.forall₂_take_append bs l ls.flatten h.flip
      have others := List.forall₂_drop_append bs l ls.flatten h.flip
      obtain ⟨parts, related, whole⟩ := ih others.flip
      refine ⟨bs.take l.length :: parts, .cons first.flip related, ?_⟩
      rw [List.flatten_cons, whole, List.take_append_drop]

theorem nodup_eraseDups [BEq α] [LawfulBEq α] (as : List α) : as.eraseDups.Nodup := by
  cases as with
  | nil => exact List.nodup_nil
  | cons a as =>
      rw [List.eraseDups_cons, List.nodup_cons, List.mem_eraseDups]
      exact ⟨by simp, nodup_eraseDups _⟩
termination_by as.length
decreasing_by exact Nat.lt_succ_of_le (List.length_filter_le _ _)

theorem eraseDups_of_nodup [BEq α] [LawfulBEq α] {as : List α} (h : as.Nodup) :
    as.eraseDups = as := by
  induction as with
  | nil => rfl
  | cons a as ih =>
      obtain ⟨fresh, rest⟩ := List.nodup_cons.mp h
      have others : (as.filter fun b => !b == a) = as := by
        refine List.filter_eq_self.mpr fun b hb => ?_
        have other : b ≠ a := fun same => fresh (same ▸ hb)
        simpa using other
      rw [List.eraseDups_cons, others, ih rest]

/-- What tells the same items apart leaves the same repetitions. -/
theorem eraseDups_map {α β : Type} [BEq α] [LawfulBEq α] [BEq β] [LawfulBEq β] {f : α → β}
    (injective : Function.Injective f) (as : List α) :
    (as.map f).eraseDups = as.eraseDups.map f := by
  cases as with
  | nil => rfl
  | cons a as =>
      have others : (as.map f).filter (fun b => !b == f a) =
          (as.filter fun b => !b == a).map f := by
        rw [List.filter_map]
        refine congrArg (List.map f) (List.filter_congr fun b _ => ?_)
        rw [Function.comp_apply, Bool.eq_iff_iff]
        simp [injective.eq_iff]
      rw [List.map_cons, List.eraseDups_cons, List.eraseDups_cons, List.map_cons, others,
        eraseDups_map injective]
termination_by as.length
decreasing_by exact Nat.lt_succ_of_le (List.length_filter_le _ _)

/-- Putting an item in the place of those with its key leaves the keys as they are. -/
theorem map_key_replaced {f : α → String} {b : α} {k : String} (h : f b = k) (as : List α) :
    (as.map fun a => if f a == k then b else a).map f = as.map f := by
  rw [List.map_map]
  refine List.map_congr_left fun a _ => ?_
  simp only [Function.comp_apply]
  split
  · rename_i same
    rw [h, beq_iff_eq.mp same]
  · rfl

/-- Replacing the items with a key leaves those with another key to be found. -/
theorem find?_replaced_of_ne {f : α → String} {b : α} {k k' : String} (h : f b = k) (ne : k ≠ k')
    (as : List α) :
    (as.map fun a => if f a == k then b else a).find? (f · == k') = as.find? (f · == k') := by
  induction as with
  | nil => rfl
  | cons a as ih =>
      rw [List.map_cons, List.find?_cons, List.find?_cons, ih]
      have other : (k == k') = false := by simpa using ne
      by_cases same : f a = k
      · simp [same, h, other]
      · simp [same]

/-- Items with different keys may be replaced in either order. -/
theorem replaced_comm {f : α → String} {b b' : α} {k k' : String} (h : f b = k) (h' : f b' = k')
    (ne : k ≠ k') (as : List α) :
    ((as.map fun a => if f a == k then b else a).map fun a => if f a == k' then b' else a) =
      (as.map fun a => if f a == k' then b' else a).map fun a => if f a == k then b else a := by
  rw [List.map_map, List.map_map]
  refine List.map_congr_left fun a _ => ?_
  simp only [Function.comp_apply]
  by_cases first : f a = k
  · simp [first, h, ne]
  · by_cases second : f a = k' <;> simp [first, second, h', ne.symm]

/-- If no key is repeated, the last item with a key is the only one. -/
theorem find?_reverse_eq_some_of_mem {key : α → String} {as : List α}
    (distinct : (as.map key).Nodup) {a : α} (ha : a ∈ as) :
    as.reverse.find? (key · == key a) = some a := by
  have isThere : (as.reverse.find? (key · == key a)).isSome = true := by
    rw [List.find?_isSome]
    exact ⟨a, List.mem_reverse.mpr ha, beq_self_eq_true _⟩
  obtain ⟨b, hb⟩ := Option.isSome_iff_exists.mp isThere
  have sameKey : key b = key a := by simpa using List.find?_some hb
  have same : b = a := List.inj_on_of_nodup_map distinct
    (List.mem_reverse.mp (List.mem_of_find?_eq_some hb)) ha sameKey
  rw [hb, same]

/-- If no key is repeated, an item is found by its key, and nothing else is found by it. -/
theorem find?_eq_some_iff_of_nodup {key : α → String} {as : List α}
    (distinct : (as.map key).Nodup) {k : String} {a : α} :
    as.find? (key · == k) = some a ↔ a ∈ as ∧ key a = k := by
  constructor
  · intro found
    exact ⟨List.mem_of_find?_eq_some found, by simpa using List.find?_some found⟩
  · rintro ⟨ha, rfl⟩
    have backwards : (as.reverse.map key).Nodup := by
      rw [List.map_reverse]
      exact List.nodup_reverse.mpr distinct
    have found := find?_reverse_eq_some_of_mem backwards (List.mem_reverse.mpr ha)
    rwa [List.reverse_reverse] at found

/-- If no key is repeated, the items of a list are known from their keys. -/
theorem eq_of_subset_of_map_eq {f : α → String} {as bs : List α}
    (distinct : (bs.map f).Nodup) (subset : as ⊆ bs) (same : as.map f = bs.map f) :
    as = bs := by
  have length : as.length = bs.length := by
    have read := congrArg List.length same
    rwa [List.length_map, List.length_map] at read
  refine List.ext_getElem length fun i ha hb => ?_
  refine List.inj_on_of_nodup_map distinct (subset (List.getElem_mem ha))
    (List.getElem_mem hb) ?_
  have here := congrArg (·[i]?) same
  simpa [ha, hb] using here

end SchemaGraph
