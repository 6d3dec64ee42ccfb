import Mathlib.Tactic.FieldSimp
import Mathlib.Tactic.Ring
import Metrology.Conversion
import Metrology.Proofs.Ratio.Value

/-!
# Conversions as affine maps

A conversion between two scales is an affine map of the rational numbers, and the coefficients are
exact (`value_multiplier`, `value_offset`). So it keeps the place of a number in base units
(`place_affine`), conversions that follow each other are one conversion (`affine_make_make`), and
the conversion back is the one that is made with the scales exchanged (`inverse_eq_make`).
-/

namespace Metrology.Conversion

variable {m m₁ m₂ m₃ : Ratio} {o o₁ o₂ o₃ : Origin} {c d e i : Conversion}

/-- The affine map of a conversion. -/
def affine (c : Conversion) (x : ℚ) : ℚ := x * c.multiplier.value + c.offset.value

/-- Where a number of a scale stands in base units. -/
def place (m : Ratio) (o : Origin) (x : ℚ) : ℚ := x * m.value + o.orZero.value

theorem ext_value (hm : c.multiplier.value = d.multiplier.value)
    (ho : c.offset.value = d.offset.value) : c = d := by
  obtain ⟨cm, co⟩ := c
  obtain ⟨dm, dO⟩ := d
  obtain rfl := Ratio.value_inj.1 hm
  obtain rfl := Ratio.value_inj.1 ho
  rfl

/-! ## Coefficients -/

section Make

variable (h : make m₁ o₁ m₂ o₂ = .ok c)
include h

theorem value_multiplier : c.multiplier.value = m₁.value / m₂.value := by
  obtain ⟨multiplier, hm, h⟩ := bind_eq_ok_iff.1 h
  obtain ⟨start, -, h⟩ := bind_eq_ok_iff.1 h
  obtain ⟨newStart, -, h⟩ := bind_eq_ok_iff.1 h
  obtain ⟨offset, -, h⟩ := bind_eq_ok_iff.1 h
  rw [← Except.ok.inj h]
  exact Ratio.value_div hm

theorem value_offset :
    c.offset.value = (o₁.orZero.value - o₂.orZero.value) / m₂.value := by
  obtain ⟨multiplier, -, h⟩ := bind_eq_ok_iff.1 h
  obtain ⟨start, hs, h⟩ := bind_eq_ok_iff.1 h
  obtain ⟨newStart, hn, h⟩ := bind_eq_ok_iff.1 h
  obtain ⟨offset, ho, h⟩ := bind_eq_ok_iff.1 h
  rw [← Except.ok.inj h]
  show offset.value = _
  rw [Ratio.value_sub ho, Ratio.value_div hs, Ratio.value_div hn, sub_div]

/-- The scale that is converted to has a size. -/
theorem target_ne_zero : m₂.value ≠ 0 := by
  obtain ⟨multiplier, hm, -⟩ := bind_eq_ok_iff.1 h
  exact Ratio.value_ne_zero_of_div hm

/-- A conversion keeps the place in base units. -/
theorem place_affine (x : ℚ) : place m₂ o₂ (c.affine x) = place m₁ o₁ x := by
  have hm := target_ne_zero h
  unfold place affine
  rw [value_multiplier h, value_offset h]
  field_simp
  ring

end Make

theorem place_injective (hm : m.value ≠ 0) {x y : ℚ} (h : place m o x = place m o y) : x = y :=
  mul_right_cancel₀ hm (add_right_cancel h)

/-- Two conversions one after the other are the conversion from the first scale to the last. -/
theorem affine_make_make (h₁₂ : make m₁ o₁ m₂ o₂ = .ok c) (h₂₃ : make m₂ o₂ m₃ o₃ = .ok d)
    (h₁₃ : make m₁ o₁ m₃ o₃ = .ok e) (x : ℚ) : d.affine (c.affine x) = e.affine x := by
  apply place_injective (target_ne_zero h₁₃)
  rw [place_affine h₂₃, place_affine h₁₂, place_affine h₁₃]

/-! ## The conversion back -/

theorem value_multiplier_inverse (h : c.inverse = .ok i) :
    i.multiplier.value = c.multiplier.value⁻¹ := by
  obtain ⟨multiplier, hm, h⟩ := bind_eq_ok_iff.1 h
  obtain ⟨scaled, -, h⟩ := bind_eq_ok_iff.1 h
  obtain ⟨offset, -, h⟩ := bind_eq_ok_iff.1 h
  rw [← Except.ok.inj h]
  exact Ratio.value_inverse hm

theorem value_offset_inverse (h : c.inverse = .ok i) :
    i.offset.value = -(c.offset.value / c.multiplier.value) := by
  obtain ⟨multiplier, hm, h⟩ := bind_eq_ok_iff.1 h
  obtain ⟨scaled, hs, h⟩ := bind_eq_ok_iff.1 h
  obtain ⟨offset, ho, h⟩ := bind_eq_ok_iff.1 h
  rw [← Except.ok.inj h]
  show offset.value = _
  rw [Ratio.value_sub ho, Ratio.value_mul hs, Ratio.value_inverse hm, Ratio.value_zero, zero_sub,
    div_eq_mul_inv]

theorem multiplier_ne_zero_of_inverse (h : c.inverse = .ok i) : c.multiplier.value ≠ 0 := by
  obtain ⟨multiplier, hm, -⟩ := bind_eq_ok_iff.1 h
  exact mt Ratio.value_eq_zero_iff.1 (Ratio.inverse_eq_ok_iff.1 hm).1

/-- The conversion back is the one made with the scales exchanged. -/
theorem inverse_eq_make (h : make m₁ o₁ m₂ o₂ = .ok c) (hi : c.inverse = .ok i)
    (hd : make m₂ o₂ m₁ o₁ = .ok d) : i = d := by
  have hm₁ := target_ne_zero hd
  have hm₂ := target_ne_zero h
  apply ext_value
  · rw [value_multiplier_inverse hi, value_multiplier h, value_multiplier hd, inv_div]
  · rw [value_offset_inverse hi, value_multiplier h, value_offset h, value_offset hd]
    field_simp
    ring

/-- The conversion back from the conversion back is the conversion. -/
theorem inverse_inverse (hi : c.inverse = .ok i) (hd : i.inverse = .ok d) : d = c := by
  have hm := multiplier_ne_zero_of_inverse hi
  apply ext_value
  · rw [value_multiplier_inverse hd, value_multiplier_inverse hi, inv_inv]
  · rw [value_offset_inverse hd, value_offset_inverse hi, value_multiplier_inverse hi]
    field_simp

/-- Conversions between scales form a groupoid of affine maps that keep the place in base units. -/
theorem conversions_groupoid (m₁ m₂ m₃ : Ratio) (o₁ o₂ o₃ : Origin) :
    (∀ {c}, make m₁ o₁ m₂ o₂ = .ok c → ∀ x : ℚ,
      (x * c.multiplier.value + c.offset.value) * m₂.value + o₂.orZero.value =
        x * m₁.value + o₁.orZero.value) ∧
    (∀ {c d e}, make m₁ o₁ m₂ o₂ = .ok c → make m₂ o₂ m₃ o₃ = .ok d →
      make m₁ o₁ m₃ o₃ = .ok e → d.affine ∘ c.affine = e.affine) ∧
    (∀ {c i d}, make m₁ o₁ m₂ o₂ = .ok c → c.inverse = .ok i → make m₂ o₂ m₁ o₁ = .ok d →
      i = d) ∧
    ∀ {c i d : Conversion}, make m₁ o₁ m₂ o₂ = .ok c → c.inverse = .ok i → i.inverse = .ok d →
      d = c := by
  refine ⟨fun h x => place_affine h x, fun h₁₂ h₂₃ h₁₃ => ?_, inverse_eq_make,
    fun _ => inverse_inverse⟩
  exact funext (affine_make_make h₁₂ h₂₃ h₁₃)

/-- Degrees Celsius to degrees Fahrenheit to kelvins, and back. -/
theorem conversions_groupoid_temperature :
    ∃ c d e i : Conversion,
      make .one (some (.mk 5463 20)) (.mk 5 9) (some (.mk 45967 180)) = .ok c ∧
      make (.mk 5 9) (some (.mk 45967 180)) .one (some .zero) = .ok d ∧
      make .one (some (.mk 5463 20)) .one (some .zero) = .ok e ∧
      d.affine ∘ c.affine = e.affine ∧ c.inverse = .ok i ∧ i.inverse = .ok c ∧
      make (.mk 5 9) (some (.mk 45967 180)) .one (some (.mk 5463 20)) = .ok i := by
  obtain ⟨-, hcompose, -⟩ := conversions_groupoid .one (.mk 5 9) .one (some (.mk 5463 20))
    (some (.mk 45967 180)) (some .zero)
  have hc : make .one (some (.mk 5463 20)) (.mk 5 9) (some (.mk 45967 180)) =
      .ok ⟨.mk 9 5, .mk 32 1⟩ := rfl
  have hd : make (.mk 5 9) (some (.mk 45967 180)) .one (some .zero) =
      .ok ⟨.mk 5 9, .mk 45967 180⟩ := rfl
  have he : make .one (some (.mk 5463 20)) .one (some .zero) = .ok ⟨.one, .mk 5463 20⟩ := rfl
  have hi : inverse ⟨.mk 9 5, .mk 32 1⟩ = .ok ⟨.mk 5 9, .mk (-160) 9⟩ := rfl
  have hii : inverse ⟨.mk 5 9, .mk (-160) 9⟩ = .ok ⟨.mk 9 5, .mk 32 1⟩ := rfl
  exact ⟨_, _, _, _, hc, hd, he, hcompose hc hd he, hi, hii, rfl⟩

end Metrology.Conversion
