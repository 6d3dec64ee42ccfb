import Metrology.Proofs.AnyUnit.Follows
import Metrology.Proofs.AnyUnit.Group
import Metrology.Proofs.AnyUnit.Overflow
import Metrology.Proofs.AnyUnit.Range
import Metrology.Proofs.Conversion.Verdict
import Metrology.Proofs.Power.Cancellation

/-!
# The order of factors

The two products of two units have the same factors in two orders (`perm_multiply_comm`). The order
never matters to what is calculated of them: their origins are the same, and so are their dimensions
and their magnitudes where both are calculated, so that they are equivalent whenever they are compared
(`eq_true_of_isEquivalent`). It can matter to whether a magnitude is calculated at all, as the products
of leading factors differ, but not where there are two factors at most or nothing cancels
(`returns_magnitude_iff_of_perm`).
-/

namespace Metrology.AnyUnit

open Power

variable {u v a b x y : AnyUnit}

/-! ## Units with the same factors -/

theorem origin_eq_of_perm (hu : u.Normal) (hv : v.Normal) (h : u.factors.Perm v.factors) :
    u.origin = v.origin := by
  rw [← simplify_factors hu, ← simplify_factors hv, origin_simplify, origin_simplify,
    origin_of_perm h]

theorem agree_dimension_of_perm (h : u.factors.Perm v.factors) : Agree u.dimension v.dimension :=
  agree_of_value Dimension.value_inj.1 value_dimension fun hv =>
    (value_dimension hv).trans (weigh_perm h.symm)

theorem agree_magnitude_of_perm (h : u.factors.Perm v.factors) : Agree u.magnitude v.magnitude :=
  agree_of_value Ratio.value_inj.1 value_magnitude fun hv =>
    (value_magnitude hv).trans (weigh_perm h.symm)

/-- A named unit is the only one with its factors. -/
theorem eq_named_of_perm {c : NamedUnit} (hv : v.Normal)
    (h : (AnyUnit.named c).factors.Perm v.factors) : v = .named c := by
  have hfactors : (AnyUnit.named c).factors = v.factors := by
    by_cases hc : c = .unitless
    · rw [hc, factors_unitless] at h ⊢
      exact h.nil_eq
    · rw [factors_named hc] at h ⊢
      exact List.singleton_perm.1 h
  rw [← simplify_factors hv, ← hfactors, simplify_factors (u := .named c) trivial]

/-! ## Equivalence -/

theorem eq_true_of_isEquivalent {r : Bool} (ho : u.origin = v.origin)
    (h : u.factors.Perm v.factors) (hr : u.isEquivalent v = .ok r) : r = true :=
  (isEquivalent_iff hr).2 ⟨weigh_perm h, weigh_perm h, ho⟩

/-- A unit that can be compared with itself has a dimension and a magnitude. -/
theorem returns_of_isEquivalent_self (h : Returns (u.isEquivalent u)) :
    Returns u.dimension ∧ Returns u.magnitude := by
  obtain ⟨r, h⟩ := h
  obtain ⟨d, hd, h⟩ := bind_eq_ok_iff.1 h
  obtain ⟨e, he, h⟩ := bind_eq_ok_iff.1 h
  obtain rfl := Except.ok.inj (hd.symm.trans he)
  split at h
  · rename_i hne
    exact absurd rfl (bne_iff_ne.1 hne)
  · obtain ⟨m, hm, -⟩ := bind_eq_ok_iff.1 h
    exact ⟨⟨d, hd⟩, m, hm⟩

theorem isEquivalent_of_perm (ho : u.origin = v.origin) (h : u.factors.Perm v.factors)
    (hu : Returns (u.isEquivalent u)) (hv : Returns (v.isEquivalent v)) :
    u.isEquivalent v = .ok true := by
  obtain ⟨hud, hum⟩ := returns_of_isEquivalent_self hu
  obtain ⟨hvd, hvm⟩ := returns_of_isEquivalent_self hv
  obtain ⟨r, hr⟩ := returns_isEquivalent hud hvd hum hvm
  rw [hr, eq_true_of_isEquivalent ho h hr]

/-! ## Magnitudes that return -/

theorem sized_named_iff {c : NamedUnit} : (AnyUnit.named c).Sized ↔ c.magnitude.num ≠ 0 :=
  List.forall_mem_singleton.trans (not_congr Ratio.value_eq_zero_iff)

theorem sized_multiply (ha : a.Sized) (hb : b.Sized) (h : a.multiply b = .ok x) : x.Sized := by
  obtain ⟨p, q, hp, hq, rfl⟩ := gather_of_multiply h
  exact forall_mem_bases_of_gather Product.scales_pure (Ratio.value_one ▸ one_ne_zero) ha hb hp hq

theorem Sized.factors (hu : u.Sized) : ∀ b ∈ bases u.factors, b.magnitude.value ≠ 0 :=
  fun b hb => hu b ((List.filter_sublist.map base).subset hb)

theorem returns_magnitude_iff_of_sized (hu : u.Sized) :
    Returns u.magnitude ↔ (∃ c, u = .named c) ∨ MagnitudesInRange u.factors := by
  rw [returns_magnitude_iff]
  refine or_congr_right (and_iff_right fun t ht _ => ?_)
  exact hu.factors t.base (mem_bases.2 ⟨t, ht, rfl⟩)

/-- Units with the same factors have a magnitude both or neither when there are two factors at most or
nothing cancels. -/
theorem returns_magnitude_iff_of_perm (hu : u.Normal) (hv : v.Normal) (hus : u.Sized)
    (hvs : v.Sized) (hperm : u.factors.Perm v.factors)
    (h : u.factors.length ≤ 2 ∨ Uncancelled u.factors) :
    Returns u.magnitude ↔ Returns v.magnitude := by
  rw [returns_magnitude_iff_of_sized hus, returns_magnitude_iff_of_sized hvs]
  refine or_congr ?_ (magnitudesInRange_perm hperm hus.factors h)
  constructor
  · rintro ⟨c, rfl⟩
    exact ⟨c, eq_named_of_perm hv hperm⟩
  · rintro ⟨c, rfl⟩
    exact ⟨c, eq_named_of_perm hu hperm.symm⟩

/-! ## Both products of two units -/

/-- The two products of units that have a size have the same factors and the same origin, one
dimension and one magnitude where both are calculated, and are equivalent whenever they are compared.
The magnitude of each is stopped by nothing but an overflow, and it returns when the product is a
named unit or when the magnitudes of its factors and of their leading products are in range; with two
factors at most, or where nothing cancels, this is so for both products or for neither. -/
theorem factor_order (ha : a.Sized) (hb : b.Sized) (hx : a.multiply b = .ok x)
    (hy : b.multiply a = .ok y) :
    x.factors.Perm y.factors ∧ x.origin = y.origin ∧ Agree x.dimension y.dimension ∧
    Agree x.magnitude y.magnitude ∧
    OnlyOverflows x.magnitude ∧ OnlyOverflows y.magnitude ∧
    (Returns x.magnitude ↔ (∃ c, x = .named c) ∨ MagnitudesInRange x.factors) ∧
    (Returns y.magnitude ↔ (∃ c, y = .named c) ∨ MagnitudesInRange y.factors) ∧
    (x.factors.length ≤ 2 ∨ Uncancelled x.factors →
      (Returns x.magnitude ↔ Returns y.magnitude)) ∧
    (∀ {r : Bool}, x.isEquivalent y = .ok r → r = true) ∧
    (Returns (x.isEquivalent x) → Returns (y.isEquivalent y) → x.isEquivalent y = .ok true) := by
  have hxn := normal_multiply hx
  have hyn := normal_multiply hy
  have hxs := sized_multiply ha hb hx
  have hys := sized_multiply hb ha hy
  have hperm := perm_multiply_comm hx hy
  have horigin := origin_eq_of_perm hxn hyn hperm
  refine ⟨hperm, horigin, agree_dimension_of_perm hperm, agree_magnitude_of_perm hperm,
    onlyOverflows_magnitude hxs, onlyOverflows_magnitude hys,
    returns_magnitude_iff_of_sized hxs, returns_magnitude_iff_of_sized hys, ?_, ?_, ?_⟩
  · exact returns_magnitude_iff_of_perm hxn hyn hxs hys hperm
  · exact eq_true_of_isEquivalent horigin hperm
  · exact isEquivalent_of_perm horigin hperm

/-- Kilometres, degrees Fahrenheit without an origin and kilowatts, with the kilometres in front and
behind. Nothing cancels, so that the second magnitude returns because the first does, although the
products of leading factors differ. -/
theorem factor_order_kilometer :
    ∃ (kilometer fahrenheit kilowatt : NamedUnit) (a b x y : AnyUnit),
      kilometer = .plain "km" .ofLength (.ofInt 1000) none ∧
      fahrenheit = .plain "°F" .ofTemperature (.mk 5 9) none ∧
      kilowatt = .plain "kW" ⟨-3, 2, 1, 0, 0, 0, 0⟩ (.ofInt 1000) none ∧
      a = .named kilometer ∧ (AnyUnit.named fahrenheit).multiply (.named kilowatt) = .ok b ∧
      a.Sized ∧ b.Sized ∧ a.multiply b = .ok x ∧ b.multiply a = .ok y ∧
      x = .product ⟨[⟨kilometer, 1⟩, ⟨fahrenheit, 1⟩, ⟨kilowatt, 1⟩]⟩ ∧
      y = .product ⟨[⟨fahrenheit, 1⟩, ⟨kilowatt, 1⟩, ⟨kilometer, 1⟩]⟩ ∧
      x.factors.Perm y.factors ∧ Uncancelled x.factors ∧
      x.magnitude = .ok (.mk 5000000 9) ∧ MagnitudesInRange x.factors ∧
      Returns y.magnitude ∧ MagnitudesInRange y.factors ∧ x.isEquivalent y = .ok true := by
  have hkilometer : (AnyUnit.named (.plain "km" .ofLength (.ofInt 1000) none)).Sized :=
    sized_named_iff.2 (by decide)
  have hfahrenheit : (AnyUnit.named (.plain "°F" .ofTemperature (.mk 5 9) none)).Sized :=
    sized_named_iff.2 (by decide)
  have hkilowatt :
      (AnyUnit.named (.plain "kW" ⟨-3, 2, 1, 0, 0, 0, 0⟩ (.ofInt 1000) none)).Sized :=
    sized_named_iff.2 (by decide)
  have hb := sized_multiply hfahrenheit hkilowatt rfl
  obtain ⟨hperm, -, -, -, -, -, hx, hy, hreturns, -, hequivalent⟩ :=
    factor_order hkilometer hb rfl rfl
  have huncancelled := uncancelled_map_iff.2
    (show [NamedUnit.plain "km" .ofLength (.ofInt 1000) none,
      .plain "°F" .ofTemperature (.mk 5 9) none,
      .plain "kW" ⟨-3, 2, 1, 0, 0, 0, 0⟩ (.ofInt 1000) none].Pairwise _ by decide)
  have hyr := (hreturns (.inr huncancelled)).1 ⟨_, rfl⟩
  have hproduct {p : Product} : ¬∃ c, AnyUnit.product p = .named c := nofun
  refine ⟨_, _, _, _, _, _, _, rfl, rfl, rfl, rfl, rfl, hkilometer, hb, rfl, rfl, rfl, rfl, hperm,
    huncancelled, rfl, ?_, hyr, ?_, ?_⟩
  · exact (hx.1 ⟨_, rfl⟩).resolve_left hproduct
  · exact (hy.1 hyr).resolve_left hproduct
  · exact hequivalent ⟨_, rfl⟩ ⟨_, rfl⟩

/-- Terametres times picometres times picoseconds have a magnitude. With the terametres behind, the
product of the leading factors is too small a number. -/
theorem magnitude_overflows_terameter :
    ∃ (terameter picometer picosecond : NamedUnit) (a b x y : AnyUnit),
      terameter = .plain "Tm" .ofLength (.ofInt 1000000000000) none ∧
      picometer = .plain "pm" .ofLength (.mk 1 1000000000000) none ∧
      picosecond = .plain "ps" .ofTime (.mk 1 1000000000000) none ∧
      a = .named terameter ∧ (AnyUnit.named picometer).multiply (.named picosecond) = .ok b ∧
      a.multiply b = .ok x ∧ b.multiply a = .ok y ∧
      x.magnitude = .ok (.mk 1 1000000000000) ∧ y.magnitude = .error .ratioOverflow ∧
      x.isEquivalent x = .ok true ∧ x.isEquivalent y = .error .ratioOverflow ∧
      ¬∀ {a b x y : AnyUnit}, a.Sized → b.Sized → a.multiply b = .ok x → b.multiply a = .ok y →
        (Returns x.magnitude ↔ Returns y.magnitude) := by
  obtain ⟨terameter, hterameter⟩ :
      ∃ u, u = NamedUnit.plain "Tm" .ofLength (.ofInt 1000000000000) none := ⟨_, rfl⟩
  obtain ⟨picometer, hpicometer⟩ :
      ∃ u, u = NamedUnit.plain "pm" .ofLength (.mk 1 1000000000000) none := ⟨_, rfl⟩
  obtain ⟨picosecond, hpicosecond⟩ :
      ∃ u, u = NamedUnit.plain "ps" .ofTime (.mk 1 1000000000000) none := ⟨_, rfl⟩
  have hproduct : (AnyUnit.named picometer).multiply (.named picosecond) =
      .ok (.product ⟨[⟨picometer, 1⟩, ⟨picosecond, 1⟩]⟩) := by
    subst hpicometer hpicosecond
    rfl
  have hx : (AnyUnit.named terameter).multiply
      (.product ⟨[⟨picometer, 1⟩, ⟨picosecond, 1⟩]⟩) =
      .ok (.product ⟨[⟨terameter, 1⟩, ⟨picometer, 1⟩, ⟨picosecond, 1⟩]⟩) := by
    subst hterameter hpicometer hpicosecond
    rfl
  have hy : (AnyUnit.product ⟨[⟨picometer, 1⟩, ⟨picosecond, 1⟩]⟩).multiply
      (.named terameter) =
      .ok (.product ⟨[⟨picometer, 1⟩, ⟨picosecond, 1⟩, ⟨terameter, 1⟩]⟩) := by
    subst hterameter hpicometer hpicosecond
    rfl
  have hmx : (AnyUnit.product ⟨[⟨terameter, 1⟩, ⟨picometer, 1⟩, ⟨picosecond, 1⟩]⟩).magnitude =
      .ok (.mk 1 1000000000000) := by
    subst hterameter hpicometer hpicosecond
    rfl
  have hmy : (AnyUnit.product ⟨[⟨picometer, 1⟩, ⟨picosecond, 1⟩, ⟨terameter, 1⟩]⟩).magnitude =
      .error .ratioOverflow := by
    subst hterameter hpicometer hpicosecond
    rfl
  refine ⟨terameter, picometer, picosecond, _, _, _, _, hterameter, hpicometer, hpicosecond, rfl,
    hproduct, hx, hy, hmx, hmy, ?_, ?_, fun h => ?_⟩
  · subst hterameter hpicometer hpicosecond
    rfl
  · subst hterameter hpicometer hpicosecond
    rfl
  · have ha : (AnyUnit.named terameter).Sized := sized_named_iff.2 (hterameter ▸ by decide)
    have hb := sized_multiply (sized_named_iff.2 (hpicometer ▸ by decide))
      (sized_named_iff.2 (hpicosecond ▸ by decide)) hproduct
    obtain ⟨r, hr⟩ := (h ha hb hx hy).1 ⟨_, hmx⟩
    cases hmy.symm.trans hr

end Metrology.AnyUnit
