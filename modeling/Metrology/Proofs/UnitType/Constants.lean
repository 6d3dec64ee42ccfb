import Metrology.Catalog
import Metrology.Proofs.AnyUnit.Overflow
import Metrology.Proofs.UnitType.Terms

/-!
# The constants of a unit type

A unit type has a dimension and a magnitude that are computed operand by operand, an origin and a
name; its terms have all four as well, and so has the unit that it is at run time. Wherever two of
the three are calculated they are the same, and no magnitude is zero (`constants_agree`).
-/

namespace Metrology

open Power

namespace NamedType

variable {t : NamedType} {n : NamedUnit}

theorem dimension_eq (h : t.unit = .ok n) : t.dimension = .ok n.dimension := by
  induction t generalizing n with
  | unitless => exact Except.ok.inj h ▸ rfl
  | declared => exact Except.ok.inj h ▸ rfl
  | multiple factor of _ =>
    unfold dimension
    rw [h]
    rfl
  | relative of ih =>
    obtain ⟨m, hm, h⟩ := bind_eq_ok_iff.1 h
    rw [← Except.ok.inj h]
    have hof : of.dimension = .ok m.dimension := ih hm
    exact hof

theorem magnitude_eq (h : t.unit = .ok n) : t.magnitude = .ok n.magnitude := by
  induction t generalizing n with
  | unitless => exact Except.ok.inj h ▸ rfl
  | declared => exact Except.ok.inj h ▸ rfl
  | multiple factor of _ =>
    unfold magnitude
    rw [h]
    rfl
  | relative of ih =>
    obtain ⟨m, hm, h⟩ := bind_eq_ok_iff.1 h
    rw [← Except.ok.inj h]
    have hof : of.magnitude = .ok m.magnitude := ih hm
    exact hof

end NamedType

namespace UnitType

variable {u : UnitType} {c : Canonical}

/-! ## Dimension and magnitude -/

theorem measures_dimension :
    Measures (fun b => b.dimension.value) Dimension.value dimension where
  named := by
    intro t m x hm hx
    rw [Except.ok.inj (hx.symm.trans (NamedType.dimension_eq hm))]
  product := by
    intro a b x hx
    obtain ⟨y, hy, hx⟩ := bind_eq_ok_iff.1 hx
    obtain ⟨z, hz, hx⟩ := bind_eq_ok_iff.1 hx
    exact ⟨y, z, hy, hz, Dimension.value_mul hx⟩
  per := by
    intro a b x hx
    obtain ⟨y, hy, hx⟩ := bind_eq_ok_iff.1 hx
    obtain ⟨z, hz, hx⟩ := bind_eq_ok_iff.1 hx
    exact ⟨y, z, hy, hz, Dimension.value_div hx⟩
  power := by
    intro a n x hx
    obtain ⟨y, hy, hx⟩ := bind_eq_ok_iff.1 hx
    exact ⟨y, hy, Dimension.value_pow hx⟩
  root := by
    intro a n x c _ hc hx
    obtain ⟨c', hc', hx⟩ := bind_eq_ok_iff.1 hx
    obtain rfl := Except.ok.inj (hc.symm.trans hc')
    exact value_totalDimension hx

theorem measures_magnitude : Measures (fun b => b.magnitude.value) Ratio.value magnitude where
  named := by
    intro t m x hm hx
    rw [Except.ok.inj (hx.symm.trans (NamedType.magnitude_eq hm))]
  product := by
    intro a b x hx
    obtain ⟨y, hy, hx⟩ := bind_eq_ok_iff.1 hx
    obtain ⟨z, hz, hx⟩ := bind_eq_ok_iff.1 hx
    exact ⟨y, z, hy, hz, Ratio.value_mul hx⟩
  per := by
    intro a b x hx
    obtain ⟨y, hy, hx⟩ := bind_eq_ok_iff.1 hx
    obtain ⟨z, hz, hx⟩ := bind_eq_ok_iff.1 hx
    exact ⟨y, z, hy, hz, Ratio.value_div hx⟩
  power := by
    intro a n x hx
    obtain ⟨y, hy, hx⟩ := bind_eq_ok_iff.1 hx
    exact ⟨y, hy, Ratio.value_pow hx⟩
  root := by
    intro a n x c _ hc hx
    obtain ⟨c', hc', hx⟩ := bind_eq_ok_iff.1 hx
    obtain rfl := Except.ok.inj (hc.symm.trans hc')
    exact value_totalMagnitude hx

theorem value_dimension {d : Dimension} (hc : u.terms = .ok c) (hd : u.dimension = .ok d) :
    d.value = weigh (fun b => b.dimension.value) c.terms :=
  measures_dimension.value_eq Dimension.value_dimensionless (fun _ => splits_of_group _ _) hc hd

theorem value_magnitude {r : Ratio} (hc : u.terms = .ok c) (hr : u.magnitude = .ok r) :
    r.value = weigh (fun b => b.magnitude.value) c.terms :=
  measures_magnitude.value_eq Ratio.value_one
    (fun h => splits_of_ne_zero (NamedType.magnitude_unit_ne_zero h)) hc hr

theorem magnitude_ne_zero {r : Ratio} (hc : u.terms = .ok c) (hr : u.magnitude = .ok r) :
    r.value ≠ 0 := by
  rw [value_magnitude hc hr]
  exact weigh_ne_zero (forall_mem_bases_terms NamedType.magnitude_unit_ne_zero hc)

/-! ## Origin -/

theorem origin_eq (hc : u.terms = .ok c) : u.origin = .ok c.origin := by
  cases u with
  | named t =>
    obtain ⟨n, hn, h⟩ := NamedType.terms_eq_ok hc
    show Except.ok t.origin = _
    rw [← NamedType.origin_unit hn, Canonical.origin]
    rcases h with ⟨rfl, hterms⟩ | ⟨-, hterms⟩
    · unfold Canonical.asNamed
      rw [hterms]
      rfl
    · rw [Canonical.asNamed_eq_some_iff.2 hterms]
      rfl
  | product a b => exact map_eq_ok_iff.2 ⟨c, hc, rfl⟩
  | per a b => exact map_eq_ok_iff.2 ⟨c, hc, rfl⟩
  | power a n => exact map_eq_ok_iff.2 ⟨c, hc, rfl⟩
  | root a n => exact map_eq_ok_iff.2 ⟨c, hc, rfl⟩

/-! ## At run time -/

theorem toAny_eq (hc : u.terms = .ok c) : u.toAny = .ok (Product.mk c.terms).simplify := by
  unfold toAny
  rw [hc]
  exact Canonical.ofCanonical_eq (simplified_terms hc).merged

theorem onlyOverflows_magnitude_toAny {a : AnyUnit} (ha : u.toAny = .ok a) :
    OnlyOverflows a.magnitude := by
  obtain ⟨c, hc, -⟩ := bind_eq_ok_iff.1 ha
  obtain rfl := Except.ok.inj ((toAny_eq hc).symm.trans ha)
  refine AnyUnit.onlyOverflows_magnitude (AnyUnit.forall_mem_bases_simplify ?_ ?_)
  · exact Ratio.value_one ▸ one_ne_zero
  · exact forall_mem_bases_terms NamedType.magnitude_unit_ne_zero hc

/-- The constants of a unit type, those of its terms and those of its unit at run time agree, and
its magnitude is not zero. -/
theorem constants_agree (hc : u.terms = .ok c) :
    ∃ a, u.toAny = .ok a ∧
      Agree u.dimension c.dimension ∧ Agree u.dimension a.dimension ∧
      Agree c.dimension a.dimension ∧
      Agree u.magnitude c.magnitude ∧ Agree u.magnitude a.magnitude ∧
      Agree c.magnitude a.magnitude ∧
      (∀ {r}, u.magnitude = .ok r → r.isZero = false) ∧
      u.origin = .ok c.origin ∧ a.origin = c.origin ∧
      u.name = .ok a.name := by
  have hsimplified := simplified_terms hc
  have hfactors := AnyUnit.factors_of_simplified hsimplified
  have hdimension : ∀ {d}, (Product.mk c.terms).simplify.dimension = .ok d →
      d.value = weigh (fun b => b.dimension.value) c.terms :=
    fun h => hfactors ▸ AnyUnit.value_dimension h
  have hmagnitude : ∀ {r}, (Product.mk c.terms).simplify.magnitude = .ok r →
      r.value = weigh (fun b => b.magnitude.value) c.terms :=
    fun h => hfactors ▸ AnyUnit.value_magnitude h
  refine ⟨_, toAny_eq hc, ?_, ?_, ?_, ?_, ?_, ?_, ?_, origin_eq hc, ?_, ?_⟩
  · exact agree_of_value Dimension.value_inj.1 (value_dimension hc) value_totalDimension
  · exact agree_of_value Dimension.value_inj.1 (value_dimension hc) hdimension
  · exact agree_of_value Dimension.value_inj.1 value_totalDimension hdimension
  · exact agree_of_value Ratio.value_inj.1 (value_magnitude hc) value_totalMagnitude
  · exact agree_of_value Ratio.value_inj.1 (value_magnitude hc) hmagnitude
  · exact agree_of_value Ratio.value_inj.1 value_totalMagnitude hmagnitude
  · intro r hr
    exact Bool.eq_false_iff.2 (mt Ratio.isZero_iff.1 (magnitude_ne_zero hc hr))
  · rw [AnyUnit.origin_simplify, Canonical.origin_eq hsimplified]
  · rw [AnyUnit.name_of_simplified hsimplified]
    exact map_eq_ok_iff.2 ⟨c, hc, rfl⟩

/-- A temperature gradient, taken apart and put together by a power and a root. -/
theorem constants_agree_gradient :
    ∃ (u : UnitType) (c : Canonical) (a : AnyUnit),
      u = .root (.power (.per (.named Catalog.celsius)
        (.product (.named Catalog.kilometer) (.named (.relative Catalog.kelvin)))) 2) 2 ∧
      u.terms = .ok c ∧ u.toAny = .ok a ∧ Returns u.magnitude ∧ Agree u.magnitude a.magnitude ∧
      u.origin = .ok c.origin ∧ u.name = .ok a.name := by
  obtain ⟨c, hc⟩ : Returns (UnitType.root (.power (.per (.named Catalog.celsius)
    (.product (.named Catalog.kilometer) (.named (.relative Catalog.kelvin)))) 2) 2).terms :=
    ⟨_, rfl⟩
  obtain ⟨a, ha, -, -, -, -, hmagnitude, -, -, horigin, -, hname⟩ := constants_agree hc
  exact ⟨_, c, a, rfl, hc, ha, ⟨_, rfl⟩, hmagnitude, horigin, hname⟩

end UnitType

end Metrology
