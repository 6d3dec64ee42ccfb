import Metrology.Proofs.AnyUnit.Built
import Metrology.Proofs.Power.Range

/-!
# Units with a dimension and a magnitude

The dimension and the magnitude of a unit return exactly when those of its factors stay in range
(`returns_dimension_iff`, `returns_magnitude_iff`). Exponents of bases have one range and exponents of
dimensions the same, so a unit can be `Composed` of named units by operations that return and still
have no dimension. All units that are composed over one base have one exactly when the dimension of
the base has no exponents but zero and one (`returns_dimension_of_bases_iff`).
-/

namespace Metrology.AnyUnit

open Power

variable {u v : AnyUnit} {b : NamedUnit} {n : Int32}

/-! ## Measures in range -/

theorem returns_dimension_iff (u : AnyUnit) :
    Returns u.dimension ↔ DimensionsInRange u.factors := by
  refine Iff.trans ?_ dimensionsInRange_filter_iff.symm
  cases u with
  | named b =>
    refine iff_of_true ⟨_, rfl⟩ (dimensionsInRange_singleton_iff.2 ?_)
    exact (zpow_one b.dimension.value).symm ▸ Dimension.expressible_value b.dimension
  | power t =>
    show Returns t.dimension ↔ DimensionsInRange [t]
    rw [dimensionsInRange_singleton_iff]
    exact Dimension.returns_pow_iff
  | product p => exact returns_totalDimension_iff

/-- A named unit has a magnitude in any case. -/
theorem returns_magnitude_iff (u : AnyUnit) :
    Returns u.magnitude ↔
      (∃ b, u = .named b) ∨ Divisible u.factors ∧ MagnitudesInRange u.factors := by
  have hfactors : Divisible u.factors ∧ MagnitudesInRange u.factors ↔
      Divisible u.powers ∧ MagnitudesInRange u.powers :=
    and_congr divisible_filter_iff magnitudesInRange_filter_iff
  rw [hfactors]
  cases u with
  | named b => exact iff_of_true ⟨_, rfl⟩ (.inl ⟨b, rfl⟩)
  | power t =>
    have hdivisible : Divisible [t] ↔ (t.exponent.toInt < 0 → t.base.magnitude.value ≠ 0) :=
      List.forall_mem_singleton
    show Returns t.magnitude ↔ _ ∨ Divisible [t] ∧ MagnitudesInRange [t]
    rw [or_iff_right (by nofun), hdivisible, magnitudesInRange_singleton_iff]
    exact Ratio.returns_pow_iff
  | product p =>
    rw [or_iff_right (by nofun)]
    exact returns_totalMagnitude_iff

/-! ## Composed units -/

/-- The units that are composed of named units by operations that return. -/
inductive Composed : AnyUnit → Prop
  | named (b : NamedUnit) : Composed (.named b)
  | multiply {u v w : AnyUnit} (hu : Composed u) (hv : Composed v) (h : u.multiply v = .ok w) :
      Composed w
  | divide {u v w : AnyUnit} (hu : Composed u) (hv : Composed v) (h : u.divide v = .ok w) :
      Composed w
  | checkedPow {u w : AnyUnit} {n : Int32} (hu : Composed u) (h : u.checkedPow n = .ok w) :
      Composed w
  | root {u w : AnyUnit} {n : Int32} (hu : Composed u) (h : u.root n = .ok w) : Composed w

theorem Composed.normal (hu : u.Composed) : u.Normal := by
  cases hu with
  | named b => trivial
  | multiply _ _ h => exact normal_multiply h
  | divide _ _ h => exact normal_divide h
  | checkedPow _ h => exact normal_checkedPow h
  | root _ h => exact normal_root h

theorem checkedPow_named (b : NamedUnit) (n : Int32) :
    (AnyUnit.named b).checkedPow n = .ok (Product.mk [⟨b, n⟩]).simplify := by
  rw [checkedPow_eq_ok_iff (u := .named b) trivial]
  by_cases hb : b = .unitless
  · refine ⟨[], hb ▸ .nil, ?_⟩
    rw [simplify_one, hb]
    rfl
  · refine ⟨[⟨b, n⟩], ?_, rfl⟩
    rw [factors_named hb]
    exact .cons ⟨rfl, (one_mul _).symm⟩ .nil

theorem eq_of_mem_factors_simplify {t : Power} (ht : t ∈ (Product.mk [⟨b, n⟩]).simplify.factors) :
    t.base = b := by
  rw [factors_simplify] at ht
  rw [List.mem_singleton.1 (List.mem_filter.1 ht).1]

/-- A unit over a base has a dimension whatever it is raised to when the exponents of the dimension of
the base are zeros and ones; otherwise the least power of the base has none. -/
theorem returns_dimension_of_bases_iff :
    (∀ {u : AnyUnit}, u.Composed → (∀ t ∈ u.factors, t.base = b) → Returns u.dimension) ↔
      ∀ i, b.dimension.exponent i = 0 ∨ b.dimension.exponent i = 1 := by
  constructor
  · refine fun h => Dimension.forall_expressible_zpow_iff.1 fun n => ?_
    have hpower : (Product.mk [⟨b, n⟩]).simplify.Composed :=
      .checkedPow (.named b) (checkedPow_named b n)
    obtain ⟨d, hd⟩ := h hpower fun t => eq_of_mem_factors_simplify
    have hvalue := value_dimension hd
    rw [weigh_simplify Dimension.value_dimensionless, weigh_cons, weigh_nil, mul_one] at hvalue
    exact hvalue ▸ Dimension.expressible_value d
  · intro h u hu hbases
    have hnormal := hu.normal
    cases u with
    | named b' => exact ⟨_, rfl⟩
    | power t =>
      have ht : t.base = b := hbases t (factors_power hnormal.1 ▸ List.mem_singleton_self t)
      exact Dimension.returns_pow_iff.2
        (ht ▸ Dimension.forall_expressible_zpow_iff.2 h t.exponent)
    | product p =>
      obtain ⟨hsimplified, hlen⟩ := hnormal
      have hfactors : (AnyUnit.product p).factors = p.terms := hsimplified.filter_eq
      rw [hfactors] at hbases
      -- Two factors are of two bases.
      rcases hterms : p.terms with _ | ⟨s, _ | ⟨t, rest⟩⟩
      · simp [hterms] at hlen
      · simp [hterms] at hlen
      · have hnodup := hsimplified.nodup
        rw [hterms] at hnodup hbases
        have hst : s.base = t.base := (hbases s (by simp)).trans (hbases t (by simp)).symm
        exact absurd hnodup (by simp [bases, hst])

end Metrology.AnyUnit
