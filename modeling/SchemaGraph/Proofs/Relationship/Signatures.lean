import SchemaGraph.Proofs.Relationship.Derived
import Mathlib.Data.String.Basic
import Mathlib.Data.List.Lex

/-!
# Signatures of edges that draw the references

Edges draw the references of a schema if there is one for each reference and none besides. In which
direction they are drawn does not matter, nor how often, as long as no two columns reference each
other: each edge is resolved along its reference. So the signatures of such edges depend on the
references alone, and those of the derived edges are the same as those of any others.
-/

namespace SchemaGraph

variable {α : Type} {tables : List (Table α)} {p q : Place}

/-- Columns that reference each other are one and the same column. -/
def Table.OneWay (tables : List (Table α)) : Prop :=
  ∀ p q, RefersTo tables p q → RefersTo tables q p → p = q

/-- Every reference names a column that is there. -/
def Table.AllMet (tables : List (Table α)) : Prop :=
  ∀ p t c, p.Holds tables t c → c.references ≠ none → ∃ q, RefersTo tables p q

namespace Relationship

variable {rs rs' : List Relationship}

theorem signatureLe_iff {a b : List String} : signatureLe a b = true ↔ a ≤ b := by
  rw [signatureLe, Bool.not_eq_true', ← Bool.not_eq_true, List.lex_eq_true_iff_lt, not_lt]

/-- Signatures are given in order and once each, so which ones there are is all that matters. -/
theorem signatures_congr
    (h : ∀ x, x ∈ (resolveAll tables rs).map Resolved.signature ↔
      x ∈ (resolveAll tables rs').map Resolved.signature) :
    signatures tables rs = signatures tables rs' := by
  have sorted (as : List (List String)) : (as.mergeSort signatureLe).Pairwise (· ≤ ·) := by
    refine (List.pairwise_mergeSort ?_ ?_ as).imp fun h => signatureLe_iff.mp h
    · intro a b c hab hbc
      exact signatureLe_iff.mpr ((signatureLe_iff.mp hab).trans (signatureLe_iff.mp hbc))
    · intro a b
      rw [Bool.or_eq_true, signatureLe_iff, signatureLe_iff]
      exact le_total a b
  have same : ((resolveAll tables rs).map Resolved.signature).eraseDups.Perm
      ((resolveAll tables rs').map Resolved.signature).eraseDups := by
    refine (List.perm_ext_iff_of_nodup (nodup_eraseDups _) (nodup_eraseDups _)).mpr fun x => ?_
    rw [List.mem_eraseDups, List.mem_eraseDups, h]
  exact List.Perm.eq_of_pairwise (fun _ _ _ _ => le_antisymm) (sorted _) (sorted _)
    ((List.mergeSort_perm _ _).trans (same.trans (List.mergeSort_perm _ _).symm))

/-- There is an edge for each reference, and none without one. -/
structure Draw (tables : List (Table α)) (rs : List Relationship) : Prop where
  drawn : ∀ p q, RefersTo tables p q → ∃ r ∈ rs, r.Joins p q
  meant : ∀ r ∈ rs, ∃ p q, RefersTo tables p q ∧ r.Joins p q

theorem Draw.mem_signatures_iff (h : Draw tables rs) (oneWay : Table.OneWay tables)
    {x : List String} :
    x ∈ (resolveAll tables rs).map Resolved.signature ↔
      ∃ p q, RefersTo tables p q ∧ p.pair q = x := by
  constructor
  · intro hx
    obtain ⟨k, hk, rfl⟩ := List.mem_map.mp hx
    obtain ⟨r, hr, resolves⟩ := List.mem_filterMap.mp hk
    obtain ⟨p, q, refers, joins⟩ := h.meant r hr
    obtain ⟨e, resolves', rfl, rfl⟩ := resolve?_of_refersTo joins refers (oneWay p q refers)
    obtain rfl : k = e := Option.some.inj (resolves.symm.trans resolves')
    exact ⟨_, _, refers, rfl⟩
  · rintro ⟨p, q, refers, rfl⟩
    obtain ⟨r, hr, joins⟩ := h.drawn p q refers
    obtain ⟨k, resolves, rfl, rfl⟩ := resolve?_of_refersTo joins refers (oneWay p q refers)
    exact List.mem_map_of_mem (List.mem_filterMap.mpr ⟨r, hr, resolves⟩)

theorem Draw.signatures_eq (h : Draw tables rs) (h' : Draw tables rs')
    (oneWay : Table.OneWay tables) : signatures tables rs = signatures tables rs' :=
  signatures_congr fun _ => (h.mem_signatures_iff oneWay).trans (h'.mem_signatures_iff oneWay).symm

/-- The derived edges draw the references, if each of these names a column that is there. -/
theorem draw_derive (distinct : Table.Distinct tables) (plain : Table.HavePlainIds tables)
    (met : Table.AllMet tables) : Draw tables (derive tables) where
  drawn := by
    rintro p q ⟨t, c, u, d, hp, hq, points⟩
    obtain ⟨ht, hc⟩ := hp.mem
    obtain ⟨hu, hd⟩ := hq.mem
    have means := Column.means_of_pointsAt distinct hu hd points
    exact ⟨along t c u d, (mem_derive_iff plain).mpr ⟨t, ht, c, hc, u, d, means, rfl⟩,
      .inl ⟨hp.eq, hq.eq⟩⟩
  meant := by
    intro r hr
    obtain ⟨t, ht, c, hc, u, d, means, rfl⟩ := (mem_derive_iff plain).mp hr
    have holds := distinct.holds ht hc
    obtain ⟨q, refers⟩ := met _ t c holds means.references_ne_none
    have target := refers.eq_of_means distinct holds means
    exact ⟨_, q, refers, .inl ⟨rfl, target.symm⟩⟩

end Relationship
end SchemaGraph
