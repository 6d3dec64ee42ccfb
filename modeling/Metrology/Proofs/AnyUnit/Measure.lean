import Metrology.Proofs.AnyUnit.Normal

/-!
# What a unit known at run time measures

The dimension and the magnitude of a unit are the weights of its factors (`value_dimension`,
`value_magnitude`). The operations leave units in simplest form and act on weights as they do on
numbers: `weigh_multiply`, `weigh_divide`, `weigh_checkedPow`, and `weigh_root` for the power that
undoes a root.
-/

namespace Metrology.AnyUnit

open Power

variable {M : Type} [DivisionCommMonoid M] {f : NamedUnit → M} {u v w : AnyUnit} {n : Int32}

theorem weigh_factors (hf : f .unitless = 1) (u : AnyUnit) :
    weigh f u.factors = weigh f u.powers :=
  weigh_filter_isLive hf u.powers

theorem weigh_named (b : NamedUnit) : weigh f (AnyUnit.named b).powers = f b := by
  show weigh f [⟨b, 1⟩] = f b
  rw [weigh_cons, weigh_nil, mul_one]
  exact zpow_one _

theorem value_dimension {d : Dimension} (h : u.dimension = .ok d) :
    d.value = weigh (fun b => b.dimension.value) u.factors := by
  rw [weigh_factors Dimension.value_dimensionless]
  cases u with
  | named b =>
    obtain rfl := Except.ok.inj h
    exact (weigh_named (f := fun b => b.dimension.value) b).symm
  | power p =>
    show d.value = weigh (fun b : NamedUnit => b.dimension.value) [p]
    rw [weigh_cons, weigh_nil, mul_one]
    exact Dimension.value_pow h
  | product q => exact value_totalDimension h

theorem value_magnitude {r : Ratio} (h : u.magnitude = .ok r) :
    r.value = weigh (fun b => b.magnitude.value) u.factors := by
  rw [weigh_factors Ratio.value_one]
  cases u with
  | named b =>
    obtain rfl := Except.ok.inj h
    exact (weigh_named (f := fun b => b.magnitude.value) b).symm
  | power p =>
    show r.value = weigh (fun b : NamedUnit => b.magnitude.value) [p]
    rw [weigh_cons, weigh_nil, mul_one]
    exact Ratio.value_pow h
  | product q => exact value_totalMagnitude h

/-- The origin of the simplest unit is that of the product it is the simplest form of. -/
theorem origin_simplify (terms : List Power) :
    (Product.mk terms).simplify.origin = (Product.mk terms).origin := by
  unfold Product.simplify Product.origin
  split
  · rename_i h
    rw [h]
    rfl
  · rename_i t h
    have ht : t.isLive = true := (List.mem_filter.1 (h ▸ List.mem_singleton_self t)).2
    rw [h, ← simplify_one, simplify_singleton ht]
    by_cases he : t.exponent = 1
    · rw [if_pos he]
      exact (if_pos he).symm
    · rw [if_neg he]
      rfl
  · rename_i h0 h1
    show Product.origin _ = _
    unfold Product.origin
    rw [List.filter_filter]
    simp only [Bool.and_self]

/-- The simplest form has the origin of the unit. -/
theorem origin_of_simplify (u : AnyUnit) : u.simplify.origin = u.origin := by
  cases u with
  | named b => rfl
  | product p => exact origin_simplify p.terms
  | power t =>
    show t.simplify.origin = if t.exponent = 1 then t.base.origin else none
    unfold Power.simplify
    by_cases hb : t.base.isUnitless = true
    · rw [if_pos hb, NamedUnit.isUnitless_iff.1 hb]
      exact (ite_self none).symm
    by_cases h0 : t.exponent = 0
    · rw [if_neg hb, if_pos h0, if_neg (h0 ▸ by decide)]
      rfl
    by_cases h1 : t.exponent = 1
    · rw [if_neg hb, if_neg h0, if_pos h1, if_pos h1]
      rfl
    · rw [if_neg hb, if_neg h0, if_neg h1]
      rfl

/-! ## Simplest forms -/

/-- The simplest unit equal to a product weighs what the product does. -/
theorem weigh_simplify (hf : f .unitless = 1) (terms : List Power) :
    weigh f (Product.mk terms).simplify.factors = weigh f terms := by
  rw [factors_simplify, weigh_filter_isLive hf]

/-- What holds of the unit of pure numbers and of all bases of a product holds of the bases of the
simplest unit equal to it. -/
theorem forall_mem_bases_simplify {P : NamedUnit → Prop} {terms : List Power}
    (hunitless : P .unitless) (hterms : ∀ b ∈ bases terms, P b) :
    ∀ b ∈ bases (Product.mk terms).simplify.powers, P b := by
  have hfilter : ∀ b ∈ bases (terms.filter isLive), P b := fun b hb =>
    hterms b ((List.filter_sublist.map base).subset hb)
  unfold Product.simplify
  split
  · exact List.forall_mem_singleton.2 hunitless
  · rename_i t ht
    rw [ht] at hfilter
    unfold Power.simplify
    split
    · exact List.forall_mem_singleton.2 hunitless
    split
    · exact List.forall_mem_singleton.2 hunitless
    split
    · exact hfilter
    · exact hfilter
  · exact hfilter

theorem normal_simplify_power (t : Power) : t.simplify.Normal := by
  unfold Power.simplify
  split
  · trivial
  split
  · trivial
  split
  · trivial
  · rename_i hb he he1
    exact ⟨isLive_iff.2 ⟨he, mt NamedUnit.isUnitless_iff.2 hb⟩, he1⟩

/-! ## Algebra -/

/-- Whether the exponents of a unit add up with others on their side; in a group all do. -/
def Sided (f : NamedUnit → M) (k : ℤ) (u : AnyUnit) : Prop := ∀ t ∈ u.powers, Power.Sided f k t

theorem sided_of_group {G : Type} [CommGroup G] {f : NamedUnit → G} {k : ℤ} : u.Sided f k :=
  fun _ _ => .inl (splits_of_group _ _)

theorem merged_empty : Merged Product.empty.terms := simplified_nil.merged

section Gather

variable {p : Product}

theorem weigh_gather_powers (hf : f .unitless = 1) (hu : u.Sided f 1)
    (h : Product.gather pure .empty u.powers = .ok p) :
    weigh f p.terms = weigh f u.factors := by
  rw [Product.weigh_gather_empty hf one_ne_zero hu h, weigh_factors hf]

theorem sided_gather_powers (hf : f .unitless = 1) (hu : u.Sided f 1)
    (h : Product.gather pure .empty u.powers = .ok p) : ∀ t ∈ p.terms, Power.Sided f 1 t :=
  Product.sided_gather hf Product.scales_pure one_ne_zero (List.forall_mem_nil _) hu h

end Gather

theorem gather_of_multiply (h : u.multiply v = .ok w) :
    ∃ p q, Product.gather pure .empty u.powers = .ok p ∧
      Product.gather pure p v.powers = .ok q ∧ q.simplify = w := by
  obtain ⟨p, hp, h⟩ := bind_eq_ok_iff.1 h
  obtain ⟨q, hq, h⟩ := bind_eq_ok_iff.1 h
  exact ⟨p, q, hp, hq, Except.ok.inj h⟩

theorem gather_of_divide (h : u.divide v = .ok w) :
    ∃ p q, Product.gather pure .empty u.powers = .ok p ∧
      Product.gather Power.negated p v.powers = .ok q ∧ q.simplify = w := by
  obtain ⟨p, hp, h⟩ := bind_eq_ok_iff.1 h
  obtain ⟨q, hq, h⟩ := bind_eq_ok_iff.1 h
  exact ⟨p, q, hp, hq, Except.ok.inj h⟩

/-- What holds of the unit of pure numbers and of the bases of two units holds of the bases of their
product and of their quotient. -/
theorem forall_mem_bases_of_gather {P : NamedUnit → Prop} {prepare : Power → Calc Power} {k : ℤ}
    {p q : Product} (hk : Product.Scales prepare k) (hunitless : P .unitless)
    (hu : ∀ b ∈ bases u.powers, P b) (hv : ∀ b ∈ bases v.powers, P b)
    (hp : Product.gather pure .empty u.powers = .ok p)
    (hq : Product.gather prepare p v.powers = .ok q) : ∀ b ∈ bases q.simplify.powers, P b := by
  refine forall_mem_bases_simplify hunitless fun b hb => ?_
  rcases (Product.mem_bases_gather hk hq).1 hb with hb | ⟨hb, -⟩
  · rcases (Product.mem_bases_gather Product.scales_pure hp).1 hb with hb | ⟨hb, -⟩
    · cases hb
    · exact hu b hb
  · exact hv b hb

theorem raised_of_checkedPow (h : u.checkedPow n = .ok w) :
    ∃ p terms, Product.gather pure .empty u.powers = .ok p ∧
      List.Forall₂ (Raised n.toInt) p.terms terms ∧ Merged terms ∧
      (Product.mk terms).simplify = w := by
  unfold checkedPow at h
  simp only [bind_eq_ok_iff, pure_eq_ok_iff, liftCalc_eq_ok_iff, liftRefusal_eq_ok_iff,
    mapM_eq_ok_iff, raised_eq_ok_iff] at h
  obtain ⟨p, hp, terms, hterms, q, hq, rfl⟩ := h
  have hmerged : Merged terms :=
    (Product.merged_gather merged_empty hp).of_bases_eq (bases_of_raised hterms)
  rw [Product.ofPowers_of_merged hmerged] at hq
  obtain rfl := Except.ok.inj hq
  exact ⟨p, terms, hp, hterms, hmerged, rfl⟩

theorem ne_zero_of_root (h : u.root n = .ok w) : n ≠ 0 := by
  rintro rfl
  cases h

theorem raised_of_root_power {p : Power} (h : (AnyUnit.power p).root n = .ok w) :
    ∃ q, Raised n.toInt q p ∧ q.simplify = w := by
  have hn := ne_zero_of_root h
  unfold root at h
  rw [if_neg hn] at h
  simpa only [bind_eq_ok_iff, pure_eq_ok_iff, liftRefusal_eq_ok_iff, Power.root_eq_ok_iff hn]
    using h

theorem raised_of_root_product {p : Product} (h : (AnyUnit.product p).root n = .ok w) :
    ∃ terms q, List.Forall₂ (Raised n.toInt) terms p.terms ∧
      Product.gather pure .empty terms = .ok q ∧ q.simplify = w := by
  have hn := ne_zero_of_root h
  unfold root at h
  rw [if_neg hn] at h
  simp only [bind_eq_ok_iff, pure_eq_ok_iff, liftCalc_eq_ok_iff, liftRefusal_eq_ok_iff,
    mapM_eq_ok_iff, Power.root_eq_ok_iff hn, Product.ofPowers_eq] at h
  obtain ⟨terms, hterms, q, hq, rfl⟩ := h
  exact ⟨terms, q, hterms.flip, hq, rfl⟩

/-! ### Simplest forms of results -/

theorem normal_multiply (h : u.multiply v = .ok w) : w.Normal := by
  obtain ⟨p, q, hp, hq, rfl⟩ := gather_of_multiply h
  exact normal_simplify (Product.merged_gather (Product.merged_gather merged_empty hp) hq)

theorem normal_divide (h : u.divide v = .ok w) : w.Normal := by
  obtain ⟨p, q, hp, hq, rfl⟩ := gather_of_divide h
  exact normal_simplify (Product.merged_gather (Product.merged_gather merged_empty hp) hq)

theorem normal_checkedPow (h : u.checkedPow n = .ok w) : w.Normal := by
  obtain ⟨p, terms, -, -, hmerged, rfl⟩ := raised_of_checkedPow h
  exact normal_simplify hmerged

theorem normal_root (h : u.root n = .ok w) : w.Normal := by
  cases u with
  | named b =>
    obtain ⟨terms, hterms, rfl⟩ := (root_named_eq_ok_iff (ne_zero_of_root h)).1 h
    have hb : (AnyUnit.named b).Normal := trivial
    exact normal_of_simplified (hb.simplified.of_raised hterms)
  | power p =>
    obtain ⟨q, -, rfl⟩ := raised_of_root_power h
    exact normal_simplify_power q
  | product p =>
    obtain ⟨terms, q, -, hq, rfl⟩ := raised_of_root_product h
    exact normal_simplify (Product.merged_gather merged_empty hq)

/-! ### Weights of results -/

theorem weigh_multiply (hf : f .unitless = 1) (hu : u.Sided f 1) (hv : v.Sided f 1)
    (h : u.multiply v = .ok w) : weigh f w.factors = weigh f u.factors * weigh f v.factors := by
  obtain ⟨p, q, hp, hq, rfl⟩ := gather_of_multiply h
  have hsided := sided_gather_powers hf hu hp
  rw [weigh_simplify hf, Product.weigh_gather_of_sided hf Product.scales_pure one_ne_zero
    (fun t ht _ => hsided t ht) hv hq, weigh_gather_powers hf hu hp, zpow_one, ← weigh_factors hf v]

theorem weigh_divide (hf : f .unitless = 1) (hu : u.Sided f 1) (hv : v.Sided f (-1))
    (h : u.divide v = .ok w) : weigh f w.factors = weigh f u.factors / weigh f v.factors := by
  obtain ⟨p, q, hp, hq, rfl⟩ := gather_of_divide h
  have hsided := sided_gather_powers hf hu hp
  rw [weigh_simplify hf, Product.weigh_gather_of_sided hf Product.scales_negated one_ne_zero
    (fun t ht _ => hsided t ht) hv hq, weigh_gather_powers hf hu hp, zpow_neg_one,
    ← weigh_factors hf v, div_eq_mul_inv]

theorem weigh_checkedPow (hf : f .unitless = 1) (hu : u.Sided f 1) (h : u.checkedPow n = .ok w) :
    weigh f w.factors = weigh f u.factors ^ n.toInt := by
  obtain ⟨p, terms, hp, hterms, -, rfl⟩ := raised_of_checkedPow h
  rw [weigh_simplify hf, weigh_of_raised hterms, weigh_gather_powers hf hu hp]

theorem weigh_root (hf : f .unitless = 1) (hu : u.Sided f 1) (h : u.root n = .ok w) :
    weigh f w.factors ^ n.toInt = weigh f u.factors := by
  have hn := ne_zero_of_root h
  cases u with
  | named b =>
    obtain ⟨terms, hterms, rfl⟩ := (root_named_eq_ok_iff hn).1 h
    rw [weigh_simplify hf, weigh_of_raised hterms]
  | power p =>
    obtain ⟨q, hq, rfl⟩ := raised_of_root_power h
    have hraised : List.Forall₂ (Raised n.toInt) [q] [p] := .cons hq .nil
    rw [← simplify_one, weigh_simplify hf, weigh_factors hf, ← weigh_of_raised hraised]
    rfl
  | product p =>
    obtain ⟨terms, q, hterms, hq, rfl⟩ := raised_of_root_product h
    have hn0 : n.toInt ≠ 0 := fun h0 => hn (Int32.toInt_inj.1 h0)
    have hsided : ∀ t ∈ terms, Power.Sided f n.toInt t :=
      mul_one n.toInt ▸ forall_sided_of_raised hterms hu
    rw [weigh_simplify hf, Product.weigh_gather_empty hf hn0 hsided hq, weigh_factors hf,
      ← weigh_of_raised hterms]
    rfl

end Metrology.AnyUnit
