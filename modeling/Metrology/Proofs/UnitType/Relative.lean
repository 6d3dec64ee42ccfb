import Metrology.Catalog
import Metrology.Proofs.AnyUnit.Overflow
import Metrology.Proofs.Conversion.Verdict
import Metrology.Proofs.UnitType.Difference

/-!
# What the type of differences measures

The type of differences can have fewer terms than the unit type: bases that differ in the origin only
become one base, and their exponents are added up. Up to that, its terms are those of the unit type
without the origins (`alike_difference`), so it weighs the same wherever the origin has no weight
(`weigh_terms_difference`). From that it has no origin, the same dimension and the same magnitude,
and its unit at run time is equivalent to the relative unit (`difference_is_relative`).
-/

namespace Metrology

open Power

/-! ## Powers of relative bases -/

/-- The same power of the relative base. -/
def Power.relative (t : Power) : Power := ⟨t.base.relative, t.exponent⟩

theorem weigh_map_relative {M : Type} [DivisionCommMonoid M] (f : NamedUnit → M)
    (terms : List Power) :
    weigh f (terms.map Power.relative) = weigh (fun b => f b.relative) terms := by
  unfold weigh
  rw [List.map_map]
  rfl

/-! ## Relative units at run time -/

namespace AnyUnit

variable {u : AnyUnit}

theorem dimension_relative (u : AnyUnit) : u.relative.dimension = u.dimension := by
  cases u <;> rfl

theorem magnitude_relative (u : AnyUnit) : u.relative.magnitude = u.magnitude := by
  cases u <;> rfl

/-- In simplest form, only named units are absolute. -/
theorem origin_relative (hu : u.Normal) : u.relative.origin = none := by
  cases u with
  | named b => rfl
  | power t => exact if_neg hu.2
  | product p =>
    obtain ⟨terms⟩ := p
    show (Product.mk terms).origin = none
    unfold Product.origin
    rw [hu.1.filter_eq]
    rcases terms with _ | ⟨s, _ | ⟨t, rest⟩⟩
    · rfl
    · exact absurd hu.2 (by simp)
    · rfl

/-- A weight that does not see origins does not see the difference. -/
theorem weigh_factors_relative {M : Type} [DivisionCommMonoid M] {f : NamedUnit → M}
    (hf : f .unitless = 1) (hrelative : ∀ b, f b.relative = f b) (u : AnyUnit) :
    weigh f u.relative.factors = weigh f u.factors := by
  cases u with
  | named b =>
    rw [weigh_factors hf, weigh_factors hf, weigh_named]
    exact (weigh_named _).trans (hrelative b)
  | power t => rfl
  | product p => rfl

end AnyUnit

/-! ## Types of differences -/

namespace NamedType

theorem dimension_difference (t : NamedType) : t.difference.dimension = t.dimension := by
  rcases t with _ | ⟨symbol, dimension, magnitude, _ | origin⟩ | _ | _ <;> rfl

theorem magnitude_difference (t : NamedType) : t.difference.magnitude = t.magnitude := by
  rcases t with _ | ⟨symbol, dimension, magnitude, _ | origin⟩ | _ | _ <;> rfl

theorem origin_difference (t : NamedType) : t.difference.origin = none := by
  rcases t with _ | ⟨symbol, dimension, magnitude, _ | origin⟩ | _ | _ <;> rfl

theorem difference_difference (t : NamedType) : t.difference.difference = t.difference := by
  rcases t with _ | ⟨symbol, dimension, magnitude, _ | origin⟩ | _ | _ <;> rfl

end NamedType

namespace UnitType

variable {u : UnitType} {c x : Canonical} {M : Type} [DivisionCommMonoid M] {f : NamedUnit → M}

theorem difference_difference (u : UnitType) : u.difference.difference = u.difference := by
  induction u with
  | named t => exact congrArg named t.difference_difference
  | product a b iha ihb => exact congrArg₂ product iha ihb
  | per a b iha ihb => exact congrArg₂ per iha ihb
  | power a n ih => exact congrArg (power · n) ih
  | root a n ih => exact congrArg (root · n) ih

/-! ### Terms -/

/-- The terms of the type of differences have the exponents that the terms have once the origins of
their bases are taken off. -/
theorem alike_difference (hc : u.terms = .ok c) (hx : u.difference.terms = .ok x) :
    Alike x.terms (c.terms.map Power.relative) := by
  intro f hf
  rw [weigh_difference hf hc hx, weigh_map_relative]

theorem weigh_terms_difference (hf : f .unitless = 1) (hrelative : ∀ b, f b.relative = f b)
    (hs : ∀ {t : NamedType} {m}, t.unit = .ok m → Splits f m) (hc : u.terms = .ok c)
    (hx : u.difference.terms = .ok x) : weigh f x.terms = weigh f c.terms := by
  have hsplits : ∀ b ∈ bases (c.terms.map Power.relative), Splits f b := by
    intro b hb
    obtain ⟨t, ht, rfl⟩ := mem_bases.1 hb
    obtain ⟨s, hmem, rfl⟩ := List.mem_map.1 ht
    have hbase := forall_mem_bases_terms hs hc s.base (mem_bases.2 ⟨s, hmem, rfl⟩)
    show ∀ m n : ℤ, f s.base.relative ^ (m + n) = f s.base.relative ^ m * f s.base.relative ^ n
    rwa [hrelative]
  rw [(alike_difference hc hx).weigh_eq hf (forall_mem_bases_terms hs hx) hsplits,
    weigh_map_relative]
  exact weigh_congr fun b _ => hrelative b

/-! ### Origin -/

/-- A base that is left alone is relative, since the origins of all bases are off. -/
theorem origin_terms_difference (hx : u.difference.terms = .ok x) : x.origin = none := by
  unfold Canonical.origin
  rcases hnamed : x.asNamed with _ | b
  · rfl
  have hterms := Canonical.asNamed_eq_some_iff.1 hnamed
  have hmark := weigh_difference (f := mark fun b => b.origin.isSome = true) rfl hx
    (u.difference_difference.symm ▸ hx)
  rw [hterms] at hmark
  have hb : b.origin.isSome = true ↔ b.relative.origin.isSome = true :=
    mark_eq_iff.1 (by simpa using hmark)
  exact Option.not_isSome_iff_eq_none.1 (mt hb.1 Bool.false_ne_true)

/-- The type of differences is not absolute. -/
theorem origin_difference {o : Origin} (h : u.difference.origin = .ok o) : o = none := by
  cases u with
  | named t => exact Except.ok.inj h ▸ t.origin_difference
  | product a b =>
    obtain ⟨x, hx, rfl⟩ := map_eq_ok_iff.1 h
    exact origin_terms_difference (u := product a b) hx
  | per a b =>
    obtain ⟨x, hx, rfl⟩ := map_eq_ok_iff.1 h
    exact origin_terms_difference (u := per a b) hx
  | power a n =>
    obtain ⟨x, hx, rfl⟩ := map_eq_ok_iff.1 h
    exact origin_terms_difference (u := power a n) hx
  | root a n =>
    obtain ⟨x, hx, rfl⟩ := map_eq_ok_iff.1 h
    exact origin_terms_difference (u := root a n) hx

/-! ### Dimension and magnitude -/

theorem agree_dimension_difference (u : UnitType) : Agree u.difference.dimension u.dimension := by
  induction u with
  | named t =>
    show Agree t.difference.dimension t.dimension
    exact t.dimension_difference ▸ agree_refl _
  | product a b iha ihb => exact iha.bind fun _ => ihb.bind fun _ => agree_refl _
  | per a b iha ihb => exact iha.bind fun _ => ihb.bind fun _ => agree_refl _
  | power a n ih => exact ih.bind fun _ => agree_refl _
  | root a n =>
    intro d e hd he
    obtain ⟨x, hx, hd⟩ := bind_eq_ok_iff.1 hd
    obtain ⟨c, hc, he⟩ := bind_eq_ok_iff.1 he
    rw [← Dimension.value_inj, value_totalDimension hd, value_totalDimension he]
    exact weigh_terms_difference Dimension.value_dimensionless (fun _ => rfl)
      (fun _ => splits_of_group _ _) hc hx

theorem agree_magnitude_difference (u : UnitType) : Agree u.difference.magnitude u.magnitude := by
  induction u with
  | named t =>
    show Agree t.difference.magnitude t.magnitude
    exact t.magnitude_difference ▸ agree_refl _
  | product a b iha ihb => exact iha.bind fun _ => ihb.bind fun _ => agree_refl _
  | per a b iha ihb => exact iha.bind fun _ => ihb.bind fun _ => agree_refl _
  | power a n ih => exact ih.bind fun _ => agree_refl _
  | root a n =>
    intro m k hm hk
    obtain ⟨x, hx, hm⟩ := bind_eq_ok_iff.1 hm
    obtain ⟨c, hc, hk⟩ := bind_eq_ok_iff.1 hk
    rw [← Ratio.value_inj, value_totalMagnitude hm, value_totalMagnitude hk]
    exact weigh_terms_difference Ratio.value_one (fun _ => rfl)
      (fun h => splits_of_ne_zero (NamedType.magnitude_unit_ne_zero h)) hc hx

/-! ### At run time -/

/-- The unit of the type of differences is equivalent to the relative unit, unless a number leaves
its range when they are compared. -/
theorem isEquivalent_relative {a b : AnyUnit} (ha : u.difference.toAny = .ok a)
    (hb : u.toAny = .ok b) :
    a.isEquivalent b.relative = .ok true ∨
      ∃ fault : Fault, fault.isOverflow = true ∧ a.isEquivalent b.relative = .error fault := by
  have hoverflow : OnlyOverflows (a.isEquivalent b.relative) :=
    AnyUnit.onlyOverflows_isEquivalent (onlyOverflows_magnitude_toAny ha)
      (b.magnitude_relative ▸ onlyOverflows_magnitude_toAny hb)
  obtain ⟨x, hx, -⟩ := bind_eq_ok_iff.1 ha
  obtain ⟨c, hc, -⟩ := bind_eq_ok_iff.1 hb
  obtain rfl := Except.ok.inj ((toAny_eq hx).symm.trans ha)
  obtain rfl := Except.ok.inj ((toAny_eq hc).symm.trans hb)
  have hxs := simplified_terms hx
  have hcs := simplified_terms hc
  rcases hresult : AnyUnit.isEquivalent _ _ with fault | r
  · exact .inr ⟨fault, hoverflow fault hresult, rfl⟩
  refine .inl (congrArg Except.ok ((AnyUnit.isEquivalent_iff hresult).2 ⟨?_, ?_, ?_⟩))
  · rw [AnyUnit.weigh_factors_relative Dimension.value_dimensionless fun _ => rfl,
      AnyUnit.factors_of_simplified hxs, AnyUnit.factors_of_simplified hcs]
    exact weigh_terms_difference Dimension.value_dimensionless (fun _ => rfl)
      (fun _ => splits_of_group _ _) hc hx
  · rw [AnyUnit.weigh_factors_relative Ratio.value_one fun _ => rfl,
      AnyUnit.factors_of_simplified hxs, AnyUnit.factors_of_simplified hcs]
    exact weigh_terms_difference Ratio.value_one (fun _ => rfl)
      (fun h => splits_of_ne_zero (NamedType.magnitude_unit_ne_zero h)) hc hx
  · rw [AnyUnit.origin_relative (AnyUnit.normal_of_simplified hcs), AnyUnit.origin_simplify,
      ← Canonical.origin_eq hxs, origin_terms_difference hx]

/-- The type of differences is not absolute, it has the dimension and the magnitude of the unit type,
and at run time it is the relative unit. -/
theorem difference_is_relative (u : UnitType) :
    (∀ {o}, u.difference.origin = .ok o → o = none) ∧
    Agree u.difference.dimension u.dimension ∧
    Agree u.difference.magnitude u.magnitude ∧
    ∀ {a b}, u.difference.toAny = .ok a → u.toAny = .ok b →
      (a.isEquivalent b.relative = .ok true ∨
        ∃ fault : Fault, fault.isOverflow = true ∧ a.isEquivalent b.relative = .error fault) ∧
      (Returns a.dimension → Returns b.dimension → Returns a.magnitude → Returns b.magnitude →
        a.isEquivalent b.relative = .ok true) := by
  refine ⟨origin_difference, agree_dimension_difference u, agree_magnitude_difference u,
    fun {a b} ha hb => ⟨isEquivalent_relative ha hb, fun hda hdb hma hmb => ?_⟩⟩
  rcases isEquivalent_relative ha hb with h | ⟨fault, -, h⟩
  · exact h
  · rw [← b.dimension_relative] at hdb
    rw [← b.magnitude_relative] at hmb
    obtain ⟨r, hr⟩ := AnyUnit.returns_isEquivalent hda hdb hma hmb
    cases h.symm.trans hr

/-- A temperature times the ratio of a temperature to a difference of temperatures: in the type of
differences, all three are one base. -/
theorem difference_is_relative_kelvin :
    ∃ (kelvin : NamedUnit) (u : UnitType) (a b : AnyUnit),
      kelvin = .plain "K" .ofTemperature .one (some .zero) ∧
      u = .product (.named Catalog.kelvin)
        (.per (.named Catalog.kelvin) (.named (.relative Catalog.kelvin))) ∧
      u.difference.toAny = .ok a ∧ a = .named kelvin.relative ∧
      u.toAny = .ok b ∧ b = .product ⟨[⟨kelvin, 2⟩, ⟨kelvin.relative, -1⟩]⟩ ∧
      u.difference.origin = .ok none ∧ Agree u.difference.magnitude u.magnitude ∧
      a.isEquivalent b.relative = .ok true := by
  obtain ⟨-, -, hmagnitude, hequivalent⟩ := difference_is_relative
    (.product (.named Catalog.kelvin) (.per (.named Catalog.kelvin)
      (.named (.relative Catalog.kelvin))))
  have ha : (UnitType.product (.named Catalog.kelvin) (.per (.named Catalog.kelvin)
      (.named (.relative Catalog.kelvin)))).difference.toAny =
      .ok (.named (.plain "K" .ofTemperature .one none)) := rfl
  have hb : (UnitType.product (.named Catalog.kelvin) (.per (.named Catalog.kelvin)
      (.named (.relative Catalog.kelvin)))).toAny =
      .ok (.product ⟨[⟨.plain "K" .ofTemperature .one (some .zero), 2⟩,
        ⟨.plain "K" .ofTemperature .one none, -1⟩]⟩) := rfl
  obtain ⟨-, hreturns⟩ := hequivalent ha hb
  exact ⟨_, _, _, _, rfl, rfl, ha, rfl, hb, rfl, rfl, hmagnitude,
    hreturns ⟨_, rfl⟩ ⟨_, rfl⟩ ⟨_, rfl⟩ ⟨_, rfl⟩⟩

end UnitType

end Metrology
