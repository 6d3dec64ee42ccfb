import Mathlib.Algebra.Group.Torsion
import Mathlib.Algebra.Order.Ring.Int
import Metrology.Proofs.AnyUnit.Measure
import Metrology.Proofs.Canonical.Weight
import Metrology.Proofs.Power.Exponents

/-!
# Units that follow a canonical product

A unit at run time follows a canonical product when it has the same factors in any order. That is
all that a calculation at run time can rely on: the order in which bases come depends on how a unit
was put together. Products, quotients, powers and roots of units that follow canonical products
follow the results there, and units that follow one product are equivalent (`isEquivalent_iff`).
-/

namespace Metrology

open Power

namespace Canonical

/-- Whether taking the origins off all bases takes the origin off the product only: it is a bare
named unit, or none of its bases is absolute. -/
def Plain (c : Canonical) : Prop :=
  c.asNamed.isSome = true ∨ ∀ u ∈ bases c.terms, u.origin = none

end Canonical

namespace AnyUnit

variable {d e w : AnyUnit} {a b c : Canonical} {n : Int32}

/-- Whether a unit has the exponents of a canonical product. -/
structure Follows (d : AnyUnit) (c : Canonical) : Prop where
  normal : d.Normal
  simplified : Simplified c.terms
  alike : Alike d.factors c.terms

theorem follows_simplify (h : Simplified c.terms) : (Product.mk c.terms).simplify.Follows c where
  normal := normal_of_simplified h
  simplified := h
  alike := fun f _ => by rw [factors_of_simplified h]

namespace Follows

theorem perm (h : d.Follows c) : d.factors.Perm c.terms :=
  h.alike.perm h.normal.simplified h.simplified

theorem weigh_eq {M : Type} [DivisionCommMonoid M] {f : NamedUnit → M} (h : d.Follows c) :
    weigh f d.factors = weigh f c.terms :=
  weigh_perm h.perm

theorem origin_eq (h : d.Follows c) : d.origin = c.origin :=
  calc d.origin = (Product.mk d.factors).simplify.origin := by rw [simplify_factors h.normal]
    _ = (Product.mk d.factors).origin := origin_simplify _
    _ = (Product.mk c.terms).origin := origin_of_perm h.perm
    _ = c.origin := (Canonical.origin_eq h.simplified).symm

/-! ## Algebra -/

theorem multiply (hd : d.Follows a) (he : e.Follows b) (hw : d.multiply e = .ok w)
    (hc : a.multiply b = .ok c) : w.Follows c where
  normal := normal_multiply hw
  simplified := Canonical.simplified_multiply hd.simplified.merged hc
  alike := fun f hf => by
    rw [weigh_multiply hf sided_of_group sided_of_group hw,
      Canonical.weigh_multiply hf (fun _ _ => splits_of_group _ _) hc, hd.weigh_eq, he.weigh_eq]

theorem divide (hd : d.Follows a) (he : e.Follows b) (hw : d.divide e = .ok w)
    (hc : a.divide b = .ok c) : w.Follows c where
  normal := normal_divide hw
  simplified := Canonical.simplified_divide hd.simplified.merged hc
  alike := fun f hf => by
    rw [weigh_divide hf sided_of_group sided_of_group hw,
      Canonical.weigh_divide hf (fun _ _ => splits_of_group _ _) hc, hd.weigh_eq, he.weigh_eq]

theorem pow (hd : d.Follows a) (hw : d.pow n = .ok w) (hc : a.pow n = .ok c) : w.Follows c := by
  have hw : d.checkedPow n = .ok w := mapError_eq_ok_iff.1 hw
  exact {
    normal := normal_checkedPow hw
    simplified := Canonical.simplified_pow hd.simplified.merged hc
    alike := fun f hf => by
      rw [weigh_checkedPow hf sided_of_group hw, Canonical.weigh_pow hf hc, hd.weigh_eq] }

/-- Where the canonical product has a root, the unit has one. -/
theorem root (hd : d.Follows a) (hc : a.root n = .ok c) :
    ∃ w, d.root n = .ok w ∧ w.Follows c := by
  have hn := Canonical.ne_zero_of_root hc
  have hn0 : n.toInt ≠ 0 := fun h => hn (Int32.toInt_inj.1 h)
  obtain ⟨terms, hterms, -⟩ := (Canonical.root_eq_ok_iff hn).1 hc
  -- The factors are those of the canonical product, so each of them is divisible as well.
  obtain ⟨factors, hfactors⟩ : ∃ factors, List.Forall₂ (Raised n.toInt) factors d.factors :=
    exists_raised_iff.2 fun q hq => exists_raised_iff.1 ⟨terms, hterms⟩ q (hd.perm.subset hq)
  have hw := (root_eq_ok_iff hd.normal hn).2 ⟨factors, hfactors, rfl⟩
  refine ⟨_, hw, normal_root hw, Canonical.simplified_root hd.simplified.merged hc, ?_⟩
  intro f hf
  refine zpow_left_injective hn0 ?_
  show weigh f _ ^ n.toInt = weigh f _ ^ n.toInt
  rw [weigh_root hf sided_of_group hw, Canonical.weigh_root hf hc, hd.weigh_eq]

end Follows

/-! ## Differences -/

theorem normal_relative (hd : d.Normal) : d.relative.Normal := by
  cases d with
  | named u => trivial
  | power p => exact hd
  | product p => exact hd

/-- The unit of differences of a plain unit has the relative bases. -/
theorem weigh_relative {f : NamedUnit → Multiplicative ℤ} (hf : f .unitless = 1)
    (hd : d.Follows a) (ha : a.Plain) :
    weigh f d.relative.factors = weigh (fun u => f u.relative) a.terms := by
  rcases ha with ha | ha
  · obtain ⟨u, hu⟩ := Option.isSome_iff_exists.1 ha
    have hterms := Canonical.asNamed_eq_some_iff.1 hu
    have hfactors : d.factors = [⟨u, 1⟩] := List.perm_singleton.1 (hterms ▸ hd.perm)
    have hlive := hd.normal.simplified.live ⟨u, 1⟩ (hfactors ▸ List.mem_singleton_self _)
    have hnamed : d = .named u := by
      rw [← simplify_factors hd.normal, hfactors, simplify_singleton hlive]
      rfl
    rw [hnamed, hterms, weigh_factors hf]
    show weigh f (AnyUnit.named u.relative).powers = _
    rw [weigh_named, weigh_cons, weigh_nil, mul_one]
    exact (zpow_one _).symm
  · have hself : d.relative = d := by
      cases d with
      | named u =>
        by_cases hu : u = .unitless
        · rw [hu]
          rfl
        · have hmem : (⟨u, 1⟩ : Power) ∈ a.terms :=
            hd.perm.subset (factors_named hu ▸ List.mem_singleton_self _)
          exact congrArg AnyUnit.named
            (NamedUnit.relative_eq_self (ha u (mem_bases.2 ⟨_, hmem, rfl⟩)))
      | power p => rfl
      | product p => rfl
    rw [hself, hd.weigh_eq]
    exact weigh_congr fun u hu => by rw [NamedUnit.relative_eq_self (ha u hu)]

/-! ## Equivalence -/

theorem isEquivalent_iff {r : Bool} (h : d.isEquivalent e = .ok r) :
    r = true ↔ weigh (fun u => u.dimension.value) d.factors =
        weigh (fun u => u.dimension.value) e.factors ∧
      weigh (fun u => u.magnitude.value) d.factors =
        weigh (fun u => u.magnitude.value) e.factors ∧
      d.origin = e.origin := by
  unfold isEquivalent at h
  obtain ⟨x, hx, h⟩ := bind_eq_ok_iff.1 h
  obtain ⟨y, hy, h⟩ := bind_eq_ok_iff.1 h
  rw [← value_dimension hx, ← value_dimension hy, Dimension.value_inj]
  split at h
  · rename_i hxy
    obtain rfl := Except.ok.inj h
    exact iff_of_false Bool.false_ne_true fun heq => bne_iff_ne.1 hxy heq.1
  rename_i hxy
  obtain ⟨r₁, hr₁, h⟩ := bind_eq_ok_iff.1 h
  obtain ⟨r₂, hr₂, h⟩ := bind_eq_ok_iff.1 h
  rw [← value_magnitude hr₁, ← value_magnitude hr₂, Ratio.value_inj,
    and_iff_right (not_not.1 (mt bne_iff_ne.2 hxy))]
  split at h
  · rename_i hr
    obtain rfl := Except.ok.inj h
    exact iff_of_false Bool.false_ne_true fun heq => bne_iff_ne.1 hr heq.1
  · rename_i hr
    obtain rfl := Except.ok.inj h
    rw [and_iff_right (not_not.1 (mt bne_iff_ne.2 hr))]
    exact Origin.sameAs_iff

/-- Units that follow one canonical product are equivalent. -/
theorem Follows.isEquivalent {r : Bool} (hd : d.Follows c) (he : e.Follows c)
    (h : d.isEquivalent e = .ok r) : r = true := by
  refine (isEquivalent_iff h).2 ⟨?_, ?_, ?_⟩
  · rw [hd.weigh_eq, he.weigh_eq]
  · rw [hd.weigh_eq, he.weigh_eq]
  · rw [hd.origin_eq, he.origin_eq]

end AnyUnit

end Metrology
