import Metrology.Proofs.Conversion.Affine
import Metrology.Proofs.Fault.Results
import Metrology.Quantity

/-!
# When units convert

What the checks of a conversion find out, between unit types (`isConvertible_eq_true`,
`isEqual_eq_true`) and between units at run time (`between_eq_ok_iff`), what a conversion between
equal scales does to a number (`apply_of_same`), and what conversion by unit types does to a quantity
(`value_convert`).
-/

namespace Metrology

namespace UnitType

variable {u v : UnitType}

/-- Equal unit types have one dimension, one magnitude and one origin. -/
theorem isEqual_eq_true (h : u.isEqual v = .ok true) :
    ∃ d m o, u.dimension = .ok d ∧ v.dimension = .ok d ∧ u.magnitude = .ok m ∧
      v.magnitude = .ok m ∧ u.origin = .ok o ∧ v.origin = .ok o := by
  unfold isEqual at h
  obtain ⟨d, hd, h⟩ := bind_eq_ok_iff.1 h
  obtain ⟨d', hd', h⟩ := bind_eq_ok_iff.1 h
  split at h
  · cases h
  rename_i hsame
  obtain rfl : d = d' := Dimension.sameAs_iff.1 (by simpa using hsame)
  obtain ⟨m, hm, h⟩ := bind_eq_ok_iff.1 h
  obtain ⟨m', hm', h⟩ := bind_eq_ok_iff.1 h
  split at h
  · cases h
  rename_i hsame
  obtain rfl : m = m' := Ratio.sameAs_iff.1 (by simpa using hsame)
  obtain ⟨o, ho, h⟩ := bind_eq_ok_iff.1 h
  obtain ⟨o', ho', h⟩ := bind_eq_ok_iff.1 h
  obtain rfl := Origin.sameAs_iff.1 (Except.ok.inj h)
  exact ⟨d, m, o, hd, hd', hm, hm', ho, ho'⟩

/-- Unit types that convert have one dimension, and both have an origin or none has. -/
theorem isConvertible_eq_true (h : u.isConvertible v = .ok true) :
    ∃ d o o', u.dimension = .ok d ∧ v.dimension = .ok d ∧ u.origin = .ok o ∧ v.origin = .ok o' ∧
      o.isSome = o'.isSome := by
  unfold isConvertible at h
  obtain ⟨d, hd, h⟩ := bind_eq_ok_iff.1 h
  obtain ⟨d', hd', h⟩ := bind_eq_ok_iff.1 h
  split at h
  · cases h
  rename_i hsame
  obtain rfl : d = d' := Dimension.sameAs_iff.1 (by simpa using hsame)
  obtain ⟨x, hx, h⟩ := bind_eq_ok_iff.1 h
  obtain ⟨y, hy, h⟩ := bind_eq_ok_iff.1 h
  obtain ⟨o, ho, rfl⟩ := map_eq_ok_iff.1 hx
  obtain ⟨o', ho', rfl⟩ := map_eq_ok_iff.1 hy
  exact ⟨d, o, o', hd, hd', ho, ho', by simpa using Except.ok.inj h⟩

end UnitType

namespace Conversion

variable {u v : AnyUnit} {c : Conversion} {d : Dimension} {m : Ratio} {o : Origin}

/-- Between equal scales nothing is computed, so nothing is rounded. -/
theorem apply_of_same {α : Type} [Scalar α] (h : make m o m o = .ok c) (x : α) : c.apply x = x := by
  have hmultiplier : c.multiplier = .one := by
    rw [← Ratio.value_inj, value_multiplier h, div_self (target_ne_zero h), Ratio.value_one]
  have hoffset : c.offset.isZero = true := by
    rw [Ratio.isZero_iff, value_offset h, sub_self, zero_div]
  unfold apply
  rw [if_pos hoffset, if_pos (Ratio.sameAs_iff.2 hmultiplier)]

/-- Past the checks, a conversion is a calculation. -/
theorem between_of_dimension_eq (hu : u.dimension = .ok d) (hv : v.dimension = .ok d)
    (habs : u.isAbsolute = v.isAbsolute) :
    between u v =
      liftM (do make (← u.magnitude) u.origin (← v.magnitude) v.origin : Calc Conversion) := by
  have hboth : ¬(u.isAbsolute != v.isAbsolute) = true := by simp [habs]
  have hsame : ¬(d != d) = true := by simp
  unfold between
  rw [hu, hv]
  show (if d != d then _ else if u.isAbsolute != v.isAbsolute then _
    else do make (← u.magnitude) u.origin (← v.magnitude) v.origin : Attempt Conversion) = _
  rw [if_neg hsame, if_neg hboth]
  rcases u.magnitude with fault | m
  · rfl
  rcases v.magnitude with fault | n
  · rfl
  · rfl

/-- What the checks of a conversion have found out. -/
theorem between_eq_ok_iff :
    between u v = .ok c ↔
      ∃ d m n, u.dimension = .ok d ∧ v.dimension = .ok d ∧ u.isAbsolute = v.isAbsolute ∧
        u.magnitude = .ok m ∧ v.magnitude = .ok n ∧ make m u.origin n v.origin = .ok c := by
  constructor
  · intro h
    obtain ⟨d, hd, h⟩ := bind_eq_ok_iff.1 h
    obtain ⟨e, he, h⟩ := bind_eq_ok_iff.1 h
    replace h : (if d != e then .error (.unit (.dimensionMismatch u.name v.name))
      else if u.isAbsolute != v.isAbsolute then .error (.unit (.affineMismatch u.name v.name))
      else do make (← u.magnitude) u.origin (← v.magnitude) v.origin : Attempt Conversion) =
        .ok c := h
    split at h
    · cases h
    rename_i hde
    split at h
    · cases h
    rename_i habs
    obtain ⟨m, hm, h⟩ := bind_eq_ok_iff.1 h
    obtain ⟨n, hn, h⟩ := bind_eq_ok_iff.1 h
    obtain rfl : d = e := by simpa using hde
    exact ⟨d, m, n, liftCalc_eq_ok_iff.1 hd, liftCalc_eq_ok_iff.1 he, by simpa using habs,
      liftCalc_eq_ok_iff.1 hm, liftCalc_eq_ok_iff.1 hn, liftCalc_eq_ok_iff.1 h⟩
  · rintro ⟨d, m, n, hd, he, habs, hm, hn, hc⟩
    rw [between_of_dimension_eq hd he habs, hm, hn]
    exact liftCalc_eq_ok_iff.2 hc

/-- Without a fault, units of one dimension that are both absolute or both relative convert. -/
theorem between_eq_ok (hdimension : ∀ {x y}, u.dimension = .ok x → v.dimension = .ok y → x = y)
    (habsolute : u.isAbsolute = v.isAbsolute) (h : NoFault (between u v)) :
    ∃ m n c, u.magnitude = .ok m ∧ v.magnitude = .ok n ∧
      make m u.origin n v.origin = .ok c ∧ between u v = .ok c := by
  obtain ⟨x, hx, hrest⟩ := h.of_liftCalc_bind
  obtain ⟨y, hy, -⟩ := hrest.of_liftCalc_bind
  obtain rfl := hdimension hx hy
  rw [between_of_dimension_eq hx hy habsolute] at h ⊢
  obtain ⟨c, hc⟩ := noFault_liftCalc_iff.1 h
  obtain ⟨m, hm, hmake⟩ := bind_eq_ok_iff.1 hc
  obtain ⟨n, hn, hmake⟩ := bind_eq_ok_iff.1 hmake
  exact ⟨m, n, c, hm, hn, hmake, liftCalc_eq_ok_iff.2 hc⟩

end Conversion

/-- Conversion by unit types, also where they are equal and the value is left alone, is what the
conversion between their scales makes of the value. -/
theorem Quantity.value_convert {α : Type} [Scalar α] {u v : UnitType} {q : Quantity u α}
    {s : Quantity v α} (h : q.convert v = .ok s) :
    ∃ m o n o', u.magnitude = .ok m ∧ u.origin = .ok o ∧ v.magnitude = .ok n ∧
      v.origin = .ok o' ∧ ∀ {c}, Conversion.make m o n o' = .ok c → s.value = c.apply q.value := by
  obtain ⟨same, hsame, h⟩ := bind_eq_ok_iff.1 h
  cases same with
  | true =>
    obtain ⟨_, m, o, -, -, hmu, hmv, hou, hov⟩ := UnitType.isEqual_eq_true hsame
    obtain rfl := Except.ok.inj h
    exact ⟨m, o, m, o, hmu, hou, hmv, hov, fun hc => (Conversion.apply_of_same hc _).symm⟩
  | false =>
    obtain ⟨c, hc, h⟩ := bind_eq_ok_iff.1 h
    obtain rfl := Except.ok.inj h
    obtain ⟨m, hmu, hc⟩ := bind_eq_ok_iff.1 hc
    obtain ⟨o, hou, hc⟩ := bind_eq_ok_iff.1 hc
    obtain ⟨n, hmv, hc⟩ := bind_eq_ok_iff.1 hc
    obtain ⟨o', hov, hc⟩ := bind_eq_ok_iff.1 hc
    refine ⟨m, o, n, o', hmu, hou, hmv, hov, fun hc' => ?_⟩
    obtain rfl := Except.ok.inj (hc.symm.trans hc')
    rfl

end Metrology
