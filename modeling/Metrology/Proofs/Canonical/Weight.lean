import Metrology.Proofs.Canonical.Merge

/-!
# What the algebra of canonical products keeps

A result of an operation on merged products is simplified, its bases come from the operands, and its
weight is the product, the quotient or the power of theirs (`weigh_multiply`, `weigh_divide`,
`weigh_pow`). The weight of a root is known by its power (`weigh_root`).
-/

namespace Metrology.Canonical

open Power

variable {M : Type} [DivisionCommMonoid M] {f : NamedUnit → M} {a b c : Canonical} {u : NamedUnit}
  {n : Int32}

/-! ## Terms -/

/-- What an operation leaves: the factors of merged terms. -/
theorem terms_of_eq_ofTerms {terms : List Power} (h : c = ofTerms (terms.filter isLive))
    (hlen : terms.length ≤ slotCount) : c.terms = terms.filter isLive :=
  h ▸ terms_ofTerms ((List.length_filter_le ..).trans hlen)

theorem terms_simplify (c : Canonical) : c.simplify.terms = c.terms.filter isLive :=
  terms_of_eq_ofTerms rfl c.length_terms_le

theorem terms_of_multiply (h : a.multiply b = .ok c) :
    ∃ q, Product.gather pure ⟨a.terms⟩ b.terms = .ok q ∧ c.terms = q.terms.filter isLive := by
  obtain ⟨q, hq, hlen, hc⟩ := multiply_eq_ok_iff.1 h
  exact ⟨q, hq, terms_of_eq_ofTerms hc hlen⟩

theorem terms_of_divide (h : a.divide b = .ok c) :
    ∃ q, Product.gather Power.negated ⟨a.terms⟩ b.terms = .ok q ∧
      c.terms = q.terms.filter isLive := by
  obtain ⟨q, hq, hlen, hc⟩ := divide_eq_ok_iff.1 h
  exact ⟨q, hq, terms_of_eq_ofTerms hc hlen⟩

theorem terms_of_pow (h : a.pow n = .ok c) :
    ∃ terms, List.Forall₂ (Raised n.toInt) a.terms terms ∧ c.terms = terms.filter isLive := by
  obtain ⟨terms, hterms, hc⟩ := pow_eq_ok_iff.1 h
  exact ⟨terms, hterms, terms_of_eq_ofTerms hc (hterms.length_eq ▸ a.length_terms_le)⟩

theorem ne_zero_of_root (h : a.root n = .ok c) : n ≠ 0 := by
  rintro rfl
  cases h

theorem terms_of_root (h : a.root n = .ok c) :
    ∃ terms, List.Forall₂ (Raised n.toInt) terms a.terms ∧ c.terms = terms.filter isLive := by
  obtain ⟨terms, hterms, hc⟩ := (root_eq_ok_iff (ne_zero_of_root h)).1 h
  exact ⟨terms, hterms, terms_of_eq_ofTerms hc (hterms.length_eq ▸ a.length_terms_le)⟩

/-! ## Simplified terms -/

theorem simplified_simplify (hc : Merged c.terms) : Simplified c.simplify.terms :=
  c.terms_simplify ▸ hc.simplified_filter

theorem simplified_multiply (ha : Merged a.terms) (h : a.multiply b = .ok c) :
    Simplified c.terms := by
  obtain ⟨q, hq, hc⟩ := terms_of_multiply h
  exact hc ▸ (Product.merged_gather ha hq).simplified_filter

theorem simplified_divide (ha : Merged a.terms) (h : a.divide b = .ok c) :
    Simplified c.terms := by
  obtain ⟨q, hq, hc⟩ := terms_of_divide h
  exact hc ▸ (Product.merged_gather ha hq).simplified_filter

theorem simplified_pow (ha : Merged a.terms) (h : a.pow n = .ok c) : Simplified c.terms := by
  obtain ⟨terms, hterms, hc⟩ := terms_of_pow h
  exact hc ▸ (ha.of_bases_eq (bases_of_raised hterms)).simplified_filter

theorem simplified_root (ha : Merged a.terms) (h : a.root n = .ok c) : Simplified c.terms := by
  obtain ⟨terms, hterms, hc⟩ := terms_of_root h
  exact hc ▸ (ha.of_bases_eq (bases_of_raised hterms).symm).simplified_filter

/-! ## Weights -/

theorem weigh_multiply (hf : f .unitless = 1) (hs : ∀ u ∈ bases b.terms, Splits f u)
    (h : a.multiply b = .ok c) : weigh f c.terms = weigh f a.terms * weigh f b.terms := by
  obtain ⟨q, hq, hc⟩ := terms_of_multiply h
  rw [hc, weigh_filter_isLive hf, Product.weigh_gather hf hs Product.scales_pure hq, zpow_one]

theorem weigh_divide (hf : f .unitless = 1) (hs : ∀ u ∈ bases b.terms, Splits f u)
    (h : a.divide b = .ok c) : weigh f c.terms = weigh f a.terms / weigh f b.terms := by
  obtain ⟨q, hq, hc⟩ := terms_of_divide h
  rw [hc, weigh_filter_isLive hf, Product.weigh_gather hf hs Product.scales_negated hq,
    zpow_neg_one, div_eq_mul_inv]

theorem weigh_pow (hf : f .unitless = 1) (h : a.pow n = .ok c) :
    weigh f c.terms = weigh f a.terms ^ n.toInt := by
  obtain ⟨terms, hterms, hc⟩ := terms_of_pow h
  rw [hc, weigh_filter_isLive hf, weigh_of_raised hterms]

theorem weigh_root (hf : f .unitless = 1) (h : a.root n = .ok c) :
    weigh f c.terms ^ n.toInt = weigh f a.terms := by
  obtain ⟨terms, hterms, hc⟩ := terms_of_root h
  rw [hc, weigh_filter_isLive hf, weigh_of_raised hterms]

/-! ## Bases -/

theorem mem_bases_filter {terms : List Power} (h : u ∈ bases (terms.filter isLive)) :
    u ∈ bases terms :=
  (List.filter_sublist.map base).subset h

theorem mem_bases_multiply (h : a.multiply b = .ok c) (hu : u ∈ bases c.terms) :
    u ∈ bases a.terms ∨ u ∈ bases b.terms := by
  obtain ⟨q, hq, hc⟩ := terms_of_multiply h
  exact ((Product.mem_bases_gather Product.scales_pure hq).1 (mem_bases_filter (hc ▸ hu))).imp_right
    And.left

theorem mem_bases_divide (h : a.divide b = .ok c) (hu : u ∈ bases c.terms) :
    u ∈ bases a.terms ∨ u ∈ bases b.terms := by
  obtain ⟨q, hq, hc⟩ := terms_of_divide h
  exact ((Product.mem_bases_gather Product.scales_negated hq).1
    (mem_bases_filter (hc ▸ hu))).imp_right And.left

theorem mem_bases_pow (h : a.pow n = .ok c) (hu : u ∈ bases c.terms) : u ∈ bases a.terms := by
  obtain ⟨terms, hterms, hc⟩ := terms_of_pow h
  exact bases_of_raised hterms ▸ mem_bases_filter (hc ▸ hu)

theorem mem_bases_root (h : a.root n = .ok c) (hu : u ∈ bases c.terms) : u ∈ bases a.terms := by
  obtain ⟨terms, hterms, hc⟩ := terms_of_root h
  exact bases_of_raised hterms ▸ mem_bases_filter (hc ▸ hu)

end Metrology.Canonical
