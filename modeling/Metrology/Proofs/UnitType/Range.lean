import Metrology.Catalog
import Metrology.Proofs.AnyUnit.Simplify
import Metrology.Proofs.Conversion.Faults
import Metrology.Quantity

/-!
# The measures of a unit type at run time

A unit type computes its measures operand by operand, in numbers that are reduced on the way; at run
time they are computed from the merged terms, power by power. The values agree, but the intermediate
results do not: a type with a dimension and a magnitude has them at run time exactly when the powers
of its terms and the products of leading powers stay in range (`returns_magnitude_terms_iff`,
`returns_magnitude_simplify_iff`). Where it has both at run time, what its quantities meet there is
stopped by nothing but the other unit and the coefficients between the two (`measures_at_run_time`).
-/

namespace Metrology

open Power

namespace UnitType

variable {u : UnitType} {c : Canonical} {d : Dimension} {r : Ratio}

/-! ## Magnitudes -/

/-- The magnitude of a composite type is the result of a calculation. -/
theorem representable_magnitude (hu : ∀ t, u ≠ .named t) (hr : u.magnitude = .ok r) :
    Ratio.Representable r.value := by
  cases u with
  | named t => exact absurd rfl (hu t)
  | product a b =>
    obtain ⟨x, -, hr⟩ := bind_eq_ok_iff.1 hr
    obtain ⟨y, -, hr⟩ := bind_eq_ok_iff.1 hr
    rw [Ratio.value_mul hr]
    exact (Ratio.returns_mul_iff.1 ⟨r, hr⟩).2.2
  | per a b =>
    obtain ⟨x, -, hr⟩ := bind_eq_ok_iff.1 hr
    obtain ⟨y, -, hr⟩ := bind_eq_ok_iff.1 hr
    rw [Ratio.value_div hr]
    exact (Ratio.returns_div_iff.1 ⟨r, hr⟩).2.2.2
  | power a n =>
    obtain ⟨x, -, hr⟩ := bind_eq_ok_iff.1 hr
    rw [Ratio.value_pow hr]
    exact (Ratio.returns_pow_iff.1 ⟨r, hr⟩).2
  | root a n =>
    obtain ⟨c, -, hr⟩ := bind_eq_ok_iff.1 hr
    rw [value_totalMagnitude hr]
    exact (returns_totalMagnitude_iff.1 ⟨r, hr⟩).2.weigh

theorem divisible_terms (hc : u.terms = .ok c) : Divisible c.terms := fun t ht _ =>
  forall_mem_bases_terms NamedType.magnitude_unit_ne_zero hc t.base (mem_bases.2 ⟨t, ht, rfl⟩)

/-- A magnitude that is calculated at run time is that of the type. -/
theorem eq_of_magnitude (hc : u.terms = .ok c) (hr : u.magnitude = .ok r) {s : Ratio}
    (hs : c.magnitude = .ok s ∨ (Product.mk c.terms).simplify.magnitude = .ok s) : s = r := by
  have hvalue : s.value = weigh (fun b => b.magnitude.value) c.terms := by
    rcases hs with hs | hs
    · exact value_totalMagnitude hs
    · rw [AnyUnit.value_magnitude hs, AnyUnit.factors_of_simplified (simplified_terms hc)]
  exact Ratio.value_inj.1 (hvalue.trans (value_magnitude hc hr).symm)

theorem returns_magnitude_terms_iff (hc : u.terms = .ok c) :
    Returns c.magnitude ↔ MagnitudesInRange c.terms :=
  returns_totalMagnitude_iff.trans (and_iff_right (divisible_terms hc))

/-- A type of one term is a named type, or its magnitude is the power that the term is. -/
theorem named_or_magnitudesInRange (hc : u.terms = .ok c) (hr : u.magnitude = .ok r)
    (hlen : c.terms.length ≤ 1) :
    (∃ b, (Product.mk c.terms).simplify = .named b) ∨ MagnitudesInRange c.terms := by
  rcases AnyUnit.factors_cases (simplified_terms hc) with hnil | ⟨t, ht, hlive⟩ | htwo
  · rw [hnil]
    exact .inl ⟨_, rfl⟩
  · rw [ht]
    by_cases he : t.exponent = 1
    · rw [AnyUnit.simplify_singleton hlive, if_pos he]
      exact .inl ⟨_, rfl⟩
    · have hu : ∀ n, u ≠ .named n := by
        rintro n rfl
        obtain ⟨b, -, ⟨-, hterms⟩ | ⟨-, hterms⟩⟩ := NamedType.terms_eq_ok hc
        · cases hterms.symm.trans ht
        · obtain rfl := List.singleton_injective (hterms.symm.trans ht)
          exact he rfl
      have hvalue := value_magnitude hc hr
      rw [ht, weigh_cons, weigh_nil, mul_one] at hvalue
      exact .inr (magnitudesInRange_singleton_iff.2 (hvalue ▸ representable_magnitude hu hr))
  · omega

theorem returns_magnitude_simplify_iff (hc : u.terms = .ok c) (hr : u.magnitude = .ok r) :
    Returns (Product.mk c.terms).simplify.magnitude ↔
      c.terms.length ≤ 1 ∨ MagnitudesInRange c.terms := by
  have hsimplified := simplified_terms hc
  rw [AnyUnit.returns_magnitude_iff, AnyUnit.factors_of_simplified hsimplified,
    and_iff_right (divisible_terms hc)]
  constructor
  · rintro (⟨b, hb⟩ | h)
    · refine .inl (by_contra fun hlen => ?_)
      rw [AnyUnit.simplify_of_two_le hsimplified (by omega)] at hb
      cases hb
    · exact .inr h
  · rintro (hlen | h)
    · exact named_or_magnitudesInRange hc hr hlen
    · exact .inr h

/-! ## Dimensions -/

/-- A dimension that is calculated at run time is that of the type. -/
theorem eq_of_dimension (hc : u.terms = .ok c) (hd : u.dimension = .ok d) {e : Dimension}
    (he : c.dimension = .ok e ∨ (Product.mk c.terms).simplify.dimension = .ok e) : e = d := by
  have hvalue : e.value = weigh (fun b => b.dimension.value) c.terms := by
    rcases he with he | he
    · exact value_totalDimension he
    · rw [AnyUnit.value_dimension he, AnyUnit.factors_of_simplified (simplified_terms hc)]
  exact Dimension.value_inj.1 (hvalue.trans (value_dimension hc hd).symm)

/-- The dimension of a type of one term is the power that the term is. -/
theorem dimensionsInRange_of_length_le (hc : u.terms = .ok c) (hd : u.dimension = .ok d)
    (hlen : c.terms.length ≤ 1) : DimensionsInRange c.terms := by
  rcases AnyUnit.factors_cases (simplified_terms hc) with hnil | ⟨t, ht, -⟩ | htwo
  · rw [hnil]
    exact returns_totalDimension_iff.1 ⟨_, rfl⟩
  · have hvalue := value_dimension hc hd
    rw [ht, weigh_cons, weigh_nil, mul_one] at hvalue
    rw [ht, dimensionsInRange_singleton_iff, ← hvalue]
    exact Dimension.expressible_value d
  · omega

theorem dimension_eq_of_inRange (hc : u.terms = .ok c) (hd : u.dimension = .ok d)
    (h : c.terms.length ≤ 1 ∨ DimensionsInRange c.terms) :
    c.dimension = .ok d ∧ (Product.mk c.terms).simplify.dimension = .ok d := by
  have hrange : DimensionsInRange c.terms :=
    h.elim (dimensionsInRange_of_length_le hc hd) id
  have hfactors := AnyUnit.factors_of_simplified (simplified_terms hc)
  obtain ⟨x, hx⟩ : Returns c.dimension := returns_totalDimension_iff.2 hrange
  obtain ⟨y, hy⟩ := (AnyUnit.returns_dimension_iff _).2 (hfactors.symm ▸ hrange)
  exact ⟨eq_of_dimension hc hd (.inl hx) ▸ hx, eq_of_dimension hc hd (.inr hy) ▸ hy⟩

/-! ## At run time -/

/-- A type with terms, a dimension and a magnitude has a unit at run time. The magnitude of the terms
and that of the unit are the one of the type when they return; they stop at nothing but an overflow,
and return exactly when powers and products of leading powers are in range, or the unit is a single
power. In range, the dimension returns as well. Where both return, to compare the unit and to convert
from it and to it stops at no fault but one of the other unit or of the coefficients between them. -/
theorem measures_at_run_time (hc : u.terms = .ok c) (hd : u.dimension = .ok d)
    (hr : u.magnitude = .ok r) :
    ∃ a : AnyUnit, u.toAny = .ok a ∧
      (∀ {α : Type} (q : Quantity u α), q.toAny = .ok ⟨q.value, a⟩) ∧
      OnlyOverflows c.magnitude ∧ OnlyOverflows a.magnitude ∧
      (∀ {s}, c.magnitude = .ok s ∨ a.magnitude = .ok s → s = r) ∧
      (Returns c.magnitude ↔ MagnitudesInRange c.terms) ∧
      (Returns a.magnitude ↔ c.terms.length ≤ 1 ∨ MagnitudesInRange c.terms) ∧
      (c.terms.length ≤ 1 ∨ DimensionsInRange c.terms →
        c.dimension = .ok d ∧ a.dimension = .ok d) ∧
      (Returns a.dimension → Returns a.magnitude → ∀ v : AnyUnit,
        StopsOnly v.Faulty (a.isEquivalent v) ∧ StopsOnly v.Faulty (v.isEquivalent a) ∧
        FaultsOnly (fun fault => v.Faulty fault ∨ Conversion.CoefficientFault a v fault)
          (Conversion.between a v) ∧
        FaultsOnly (fun fault => v.Faulty fault ∨ Conversion.CoefficientFault v a fault)
          (Conversion.between v a)) := by
  have hsized : (AnyUnit.product ⟨c.terms⟩).Sized :=
    forall_mem_bases_terms NamedType.magnitude_unit_ne_zero hc
  have ha := toAny_eq hc
  refine ⟨_, ha, fun q => ?_, AnyUnit.onlyOverflows_magnitude hsized,
    onlyOverflows_magnitude_toAny ha, eq_of_magnitude hc hr, returns_magnitude_terms_iff hc,
    returns_magnitude_simplify_iff hc hr, dimension_eq_of_inRange hc hd, ?_⟩
  · unfold Quantity.toAny
    rw [ha]
    rfl
  · rintro ⟨e, he⟩ ⟨s, hs⟩ v
    have hsound : ∀ fault, ¬ (Product.mk c.terms).simplify.Faulty fault := by
      rintro fault (h | h)
      · cases he.symm.trans h
      · cases hs.symm.trans h
    refine ⟨?_, ?_, ?_, ?_⟩
    · exact (AnyUnit.stopsOnly_isEquivalent _ v).mono fun fault h => h.resolve_left (hsound fault)
    · exact (AnyUnit.stopsOnly_isEquivalent v _).mono fun fault h => h.resolve_right (hsound fault)
    · exact (Conversion.faultsOnly_between _ v).mono fun fault h =>
        h.imp_left fun h => h.resolve_left (hsound fault)
    · exact (Conversion.faultsOnly_between v _).mono fun fault h =>
        h.imp_left fun h => h.resolve_right (hsound fault)

/-- Kilometres per hour, whose terms are in range, compared with metres per second. -/
theorem measures_at_run_time_speed :
    ∃ (c : Canonical) (a v : AnyUnit),
      Catalog.kilometerPerHour.terms = .ok c ∧ Catalog.kilometerPerHour.toAny = .ok a ∧
      Catalog.meterPerSecond.toAny = .ok v ∧
      Catalog.kilometerPerHour.magnitude = .ok (.mk 5 18) ∧ MagnitudesInRange c.terms ∧
      a.magnitude = .ok (.mk 5 18) ∧ a.dimension = .ok ⟨-1, 1, 0, 0, 0, 0, 0⟩ ∧
      StopsOnly v.Faulty (a.isEquivalent v) ∧ a.isEquivalent v = .ok false := by
  obtain ⟨c, hc⟩ : Returns Catalog.kilometerPerHour.terms := ⟨_, rfl⟩
  have hmeasures : c.dimension = .ok ⟨-1, 1, 0, 0, 0, 0, 0⟩ ∧ c.magnitude = .ok (.mk 5 18) := by
    obtain rfl := Except.ok.inj hc
    exact ⟨rfl, rfl⟩
  obtain ⟨a, ha, -, -, -, hvalue, hmagnitude, hamagnitude, hdimension, hfaults⟩ :=
    measures_at_run_time (d := ⟨-1, 1, 0, 0, 0, 0, 0⟩) (r := .mk 5 18) hc rfl rfl
  have hrange := hmagnitude.1 ⟨_, hmeasures.2⟩
  obtain ⟨s, hs⟩ := hamagnitude.2 (.inr hrange)
  obtain rfl := hvalue (.inr hs)
  have hd := (hdimension (.inr (returns_totalDimension_iff.1 ⟨_, hmeasures.1⟩))).2
  have hdifferent : ∀ {v}, Catalog.meterPerSecond.toAny = .ok v → a.isEquivalent v = .ok false := by
    intro v hv
    obtain rfl := Except.ok.inj ha
    obtain rfl := Except.ok.inj hv
    rfl
  exact ⟨c, a, _, hc, ha, rfl, rfl, hrange, hs, hd, (hfaults ⟨_, hd⟩ ⟨_, hs⟩ _).1, hdifferent rfl⟩

/-- The product of a megawatt and a nanosecond is a thousandth, and so its cube has a magnitude; but
the nanosecond alone has no cube. -/
theorem magnitude_overflows_megawatt :
    ∃ (u : UnitType) (c : Canonical) (a : AnyUnit),
      u = .power (.product (.named Catalog.megawatt) (.named Catalog.nanosecond)) 3 ∧
      u.dimension = .ok ⟨-6, 6, 3, 0, 0, 0, 0⟩ ∧ u.magnitude = .ok (.mk 1 1000000000) ∧
      u.origin = .ok none ∧ u.terms = .ok c ∧ u.toAny = .ok a ∧
      c.magnitude = .error .ratioOverflow ∧ a.magnitude = .error .ratioOverflow :=
  ⟨_, _, _, rfl, rfl, rfl, rfl, rfl, rfl, rfl, rfl⟩

end UnitType

end Metrology
