import Mathlib.Algebra.Group.Torsion
import Mathlib.Algebra.Order.Ring.Int
import Metrology.Proofs.UnitType.Terms

/-!
# The terms of a type of differences

The type of differences takes the origin off every absolute unit that occurs in a unit type, whether
or not it cancels out. On the terms that amounts to taking the origins off the bases
(`weigh_difference`).
-/

namespace Metrology

open Power

theorem NamedType.unit_difference {t : NamedType} {n : NamedUnit} (h : t.unit = .ok n) :
    t.difference.unit = .ok n.relative := by
  cases t with
  | unitless => exact Except.ok.inj h ▸ rfl
  | declared symbol dimension magnitude origin =>
    obtain rfl := Except.ok.inj h
    cases origin <;> rfl
  | multiple factor of => exact (NamedUnit.relative_eq_self (origin_unit h)).symm ▸ h
  | relative of => exact (NamedUnit.relative_eq_self (origin_unit h)).symm ▸ h

namespace UnitType

variable {u : UnitType} {c x : Canonical} {f : NamedUnit → Multiplicative ℤ}

theorem measures_difference (hf : f .unitless = 1) :
    Measures (fun b => f b.relative) (fun x => weigh f x.terms) fun u => u.difference.terms where
  named := by
    intro t m x hm hx
    obtain ⟨n, hn, h⟩ := NamedType.terms_eq_ok hx
    obtain rfl := Except.ok.inj (hn.symm.trans (NamedType.unit_difference hm))
    rcases h with ⟨hn, hx⟩ | ⟨-, hx⟩
    · rw [hx, hn, hf, weigh_nil]
    · rw [hx, weigh_cons, weigh_nil, mul_one]
      exact zpow_one _
  product := by
    intro a b x hx
    obtain ⟨y, hy, hx⟩ := bind_eq_ok_iff.1 hx
    obtain ⟨z, hz, hx⟩ := bind_eq_ok_iff.1 hx
    exact ⟨y, z, hy, hz, Canonical.weigh_multiply hf (fun _ _ => splits_of_group _ _) hx⟩
  per := by
    intro a b x hx
    obtain ⟨y, hy, hx⟩ := bind_eq_ok_iff.1 hx
    obtain ⟨z, hz, hx⟩ := bind_eq_ok_iff.1 hx
    exact ⟨y, z, hy, hz, Canonical.weigh_divide hf (fun _ _ => splits_of_group _ _) hx⟩
  power := by
    intro a n x hx
    obtain ⟨y, hy, hx⟩ := bind_eq_ok_iff.1 hx
    exact ⟨y, hy, Canonical.weigh_pow hf hx⟩
  root := by
    intro a n x c ih hc hx
    obtain ⟨c', hc', hc⟩ := bind_eq_ok_iff.1 hc
    obtain ⟨y, hy, hx⟩ := bind_eq_ok_iff.1 hx
    have hn0 : n.toInt ≠ 0 := fun h => Canonical.ne_zero_of_root hc (Int32.toInt_inj.1 h)
    -- A root is known by its power, and integers have at most one root.
    refine zpow_left_injective hn0 ?_
    show weigh f x.terms ^ n.toInt = weigh _ c.terms ^ n.toInt
    rw [Canonical.weigh_root hf hx, ih hc' hy]
    exact (Canonical.weigh_root (f := fun b => f b.relative) hf hc).symm

theorem weigh_difference (hf : f .unitless = 1) (hc : u.terms = .ok c)
    (hx : u.difference.terms = .ok x) :
    weigh f x.terms = weigh (fun b => f b.relative) c.terms :=
  (measures_difference hf).value_eq hf (fun _ => splits_of_group _ _) hc hx

end UnitType

end Metrology
