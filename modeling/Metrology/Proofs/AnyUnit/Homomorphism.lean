import Metrology.Catalog
import Metrology.Proofs.AnyUnit.Measure

/-!
# Dimension and magnitude of composed units

Wherever both are calculated, the dimension of a product of units is the product of their
dimensions, and so on for quotients, powers and roots, and the same holds of the magnitudes
(`measures_homomorphic`). Units need not be in simplest form for this. A magnitude of zero has no
negative power, so the exponents of a unit of that size have one sign as soon as the magnitude is
calculated (`sided_of_magnitude`), and then they add up like those of other units.
-/

namespace Metrology

open Power

/-! ## Exponents of units without a size -/

namespace Power

variable {t : Power} {terms : List Power}

/-- Powers whose measures are multiplied up are each measured. -/
theorem returns_of_foldlM {β : Type} {mul : β → β → Calc β} {measure : Power → Calc β} {s r : β}
    (h : terms.foldlM (fun total p => do mul total (← measure p)) s = .ok r) :
    ∀ t ∈ terms, Returns (measure t) := by
  induction terms generalizing s with
  | nil => exact List.forall_mem_nil _
  | cons t terms ih =>
    simp only [List.foldlM_cons, bind_eq_ok_iff] at h
    obtain ⟨x, ⟨y, hy, -⟩, hr⟩ := h
    exact List.forall_mem_cons.2 ⟨⟨y, hy⟩, ih hr⟩

theorem sided_of_magnitude (h : Returns t.magnitude) :
    Sided (fun b => b.magnitude.value) 1 t := by
  obtain ⟨r, hr⟩ := h
  by_cases hneg : t.exponent.toInt < 0
  · exact .inl (splits_of_ne_zero (Ratio.value_ne_zero_of_pow hneg hr))
  · exact .inr (by omega)

/-- A weight other than zero has no factor of zero. -/
theorem zpow_ne_zero_of_weigh {f : NamedUnit → ℚ} (h : weigh f terms ≠ 0) :
    ∀ t ∈ terms, f t.base ^ t.exponent.toInt ≠ 0 := by
  induction terms with
  | nil => exact List.forall_mem_nil _
  | cons t terms ih =>
    rw [weigh_cons] at h
    exact List.forall_mem_cons.2 ⟨left_ne_zero_of_mul h, ih (right_ne_zero_of_mul h)⟩

theorem sided_of_zpow_ne_zero {f : NamedUnit → ℚ} {k : ℤ}
    (h : f t.base ^ t.exponent.toInt ≠ 0) : Sided f k t := by
  by_cases h0 : f t.base = 0
  · have he : t.exponent.toInt = 0 := by
      by_contra he
      rw [h0, zero_zpow _ he] at h
      exact h rfl
    exact .inr (by rw [he, zero_mul])
  · exact .inl (splits_of_ne_zero h0)

end Power

namespace AnyUnit

variable {u v w : AnyUnit} {n : Int32} {r : Ratio}

theorem sided_of_magnitude (h : u.magnitude = .ok r) :
    u.Sided (fun b => b.magnitude.value) 1 := by
  cases u with
  | named b => exact fun t ht =>
      List.mem_singleton.1 ht ▸ .inr (show 0 ≤ (1 : Int32).toInt * 1 by decide)
  | power p => exact fun t ht => List.mem_singleton.1 ht ▸ Power.sided_of_magnitude ⟨r, h⟩
  | product p => exact fun t ht => Power.sided_of_magnitude (returns_of_foldlM h t ht)

/-- A unit that is divided by has a size, and then its exponents add up on either side. -/
theorem sided_of_magnitude_ne_zero {k : ℤ} (h : u.magnitude = .ok r) (hr : r.value ≠ 0) :
    u.Sided (fun b => b.magnitude.value) k := by
  rw [value_magnitude h, weigh_factors Ratio.value_one] at hr
  exact fun t ht => sided_of_zpow_ne_zero (zpow_ne_zero_of_weigh hr t ht)

/-! ## Dimensions -/

theorem dimension_multiply (h : u.multiply v = .ok w) :
    Agree w.dimension (do (← u.dimension).mul (← v.dimension)) := by
  intro d e hd he
  obtain ⟨x, hx, he⟩ := bind_eq_ok_iff.1 he
  obtain ⟨y, hy, he⟩ := bind_eq_ok_iff.1 he
  rw [← Dimension.value_inj, value_dimension hd, Dimension.value_mul he, value_dimension hx,
    value_dimension hy]
  exact weigh_multiply Dimension.value_dimensionless sided_of_group sided_of_group h

theorem dimension_divide (h : u.divide v = .ok w) :
    Agree w.dimension (do (← u.dimension).div (← v.dimension)) := by
  intro d e hd he
  obtain ⟨x, hx, he⟩ := bind_eq_ok_iff.1 he
  obtain ⟨y, hy, he⟩ := bind_eq_ok_iff.1 he
  rw [← Dimension.value_inj, value_dimension hd, Dimension.value_div he, value_dimension hx,
    value_dimension hy]
  exact weigh_divide Dimension.value_dimensionless sided_of_group sided_of_group h

theorem dimension_checkedPow (h : u.checkedPow n = .ok w) :
    Agree w.dimension (do (← u.dimension).pow n) := by
  intro d e hd he
  obtain ⟨x, hx, he⟩ := bind_eq_ok_iff.1 he
  rw [← Dimension.value_inj, value_dimension hd, Dimension.value_pow he, value_dimension hx]
  exact weigh_checkedPow Dimension.value_dimensionless sided_of_group h

theorem dimension_root (h : u.root n = .ok w) :
    Agree (do (← w.dimension).pow n) u.dimension := by
  intro d e hd he
  obtain ⟨x, hx, hd⟩ := bind_eq_ok_iff.1 hd
  rw [← Dimension.value_inj, Dimension.value_pow hd, value_dimension hx, value_dimension he]
  exact weigh_root Dimension.value_dimensionless sided_of_group h

/-! ## Magnitudes -/

theorem magnitude_multiply (h : u.multiply v = .ok w) :
    Agree w.magnitude (do (← u.magnitude).mul (← v.magnitude)) := by
  intro r s hr hs
  obtain ⟨x, hx, hs⟩ := bind_eq_ok_iff.1 hs
  obtain ⟨y, hy, hs⟩ := bind_eq_ok_iff.1 hs
  rw [← Ratio.value_inj, value_magnitude hr, Ratio.value_mul hs, value_magnitude hx,
    value_magnitude hy]
  exact weigh_multiply Ratio.value_one (sided_of_magnitude hx) (sided_of_magnitude hy) h

theorem magnitude_divide (h : u.divide v = .ok w) :
    Agree w.magnitude (do (← u.magnitude).div (← v.magnitude)) := by
  intro r s hr hs
  obtain ⟨x, hx, hs⟩ := bind_eq_ok_iff.1 hs
  obtain ⟨y, hy, hs⟩ := bind_eq_ok_iff.1 hs
  have hsided := sided_of_magnitude_ne_zero (k := -1) hy (Ratio.value_ne_zero_of_div hs)
  rw [← Ratio.value_inj, value_magnitude hr, Ratio.value_div hs, value_magnitude hx,
    value_magnitude hy]
  exact weigh_divide Ratio.value_one (sided_of_magnitude hx) hsided h

theorem magnitude_checkedPow (h : u.checkedPow n = .ok w) :
    Agree w.magnitude (do (← u.magnitude).pow n) := by
  intro r s hr hs
  obtain ⟨x, hx, hs⟩ := bind_eq_ok_iff.1 hs
  rw [← Ratio.value_inj, value_magnitude hr, Ratio.value_pow hs, value_magnitude hx]
  exact weigh_checkedPow Ratio.value_one (sided_of_magnitude hx) h

theorem magnitude_root (h : u.root n = .ok w) :
    Agree (do (← w.magnitude).pow n) u.magnitude := by
  intro r s hr hs
  obtain ⟨x, hx, hr⟩ := bind_eq_ok_iff.1 hr
  rw [← Ratio.value_inj, Ratio.value_pow hr, value_magnitude hx, value_magnitude hs]
  exact weigh_root Ratio.value_one (sided_of_magnitude hs) h

/-! ## All operations -/

/-- Dimension and magnitude take the operations on units to those on dimensions and on ratios. -/
theorem measures_homomorphic (u v : AnyUnit) (n : Int32) :
    (∀ {w}, u.multiply v = .ok w →
      Agree w.dimension (do (← u.dimension).mul (← v.dimension)) ∧
      Agree w.magnitude (do (← u.magnitude).mul (← v.magnitude))) ∧
    (∀ {w}, u.divide v = .ok w →
      Agree w.dimension (do (← u.dimension).div (← v.dimension)) ∧
      Agree w.magnitude (do (← u.magnitude).div (← v.magnitude))) ∧
    (∀ {w}, u.checkedPow n = .ok w →
      Agree w.dimension (do (← u.dimension).pow n) ∧
      Agree w.magnitude (do (← u.magnitude).pow n)) ∧
    ∀ {w}, u.root n = .ok w →
      Agree (do (← w.dimension).pow n) u.dimension ∧
      Agree (do (← w.magnitude).pow n) u.magnitude := by
  refine ⟨fun h => ⟨?_, ?_⟩, fun h => ⟨?_, ?_⟩, fun h => ⟨?_, ?_⟩, fun h => ⟨?_, ?_⟩⟩
  · exact dimension_multiply h
  · exact magnitude_multiply h
  · exact dimension_divide h
  · exact magnitude_divide h
  · exact dimension_checkedPow h
  · exact magnitude_checkedPow h
  · exact dimension_root h
  · exact magnitude_root h

/-- An area that is not in simplest form and a wave number, both in inches. -/
theorem measures_homomorphic_inch :
    ∃ (inch second : NamedUnit) (area wave length volume square : AnyUnit),
      inch = .plain "in" .ofLength (.mk 127 5000) none ∧ second = .plain "s" .ofTime .one none ∧
      area = .product ⟨[⟨inch, 2⟩, ⟨second, 0⟩]⟩ ∧ wave = .power ⟨inch, -1⟩ ∧
      area.multiply wave = .ok length ∧ area.divide wave = .ok volume ∧
      area.checkedPow 2 = .ok square ∧ area.root 2 = .ok length ∧
      length.magnitude = .ok (.mk 127 5000) ∧
      (do (← area.magnitude).mul (← wave.magnitude)) = .ok (.mk 127 5000) ∧
      Agree length.magnitude (do (← area.magnitude).mul (← wave.magnitude)) ∧
      Agree volume.magnitude (do (← area.magnitude).div (← wave.magnitude)) ∧
      Agree square.dimension (do (← area.dimension).pow 2) ∧
      Agree (do (← length.dimension).pow 2) area.dimension := by
  obtain ⟨inch, hinch⟩ : ∃ inch, inch = NamedUnit.plain "in" .ofLength (.mk 127 5000) none :=
    ⟨_, rfl⟩
  obtain ⟨hmultiply, hdivide, hpow, hroot⟩ := measures_homomorphic
    (.product ⟨[⟨inch, 2⟩, ⟨.plain "s" .ofTime .one none, 0⟩]⟩) (.power ⟨inch, -1⟩) 2
  subst hinch
  exact ⟨_, _, _, _, _, _, _, rfl, rfl, rfl, rfl, rfl, rfl, rfl, rfl, rfl, rfl,
    (hmultiply rfl).2, (hdivide rfl).2, (hpow rfl).1, (hroot rfl).1⟩

end AnyUnit

end Metrology
