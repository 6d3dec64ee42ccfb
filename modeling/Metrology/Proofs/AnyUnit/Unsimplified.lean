import Metrology.Proofs.AnyUnit.Root
import Metrology.Proofs.AnyUnit.Simplify

/-!
# Roots of units in any form

A root divides the exponents of a unit as they are written, whether or not the unit is in simplest
form. A term of exponent zero makes no difference, since every degree divides zero
(`exists_roots_filter_iff`), and so a unit has the roots of its simplest form
(`root_simplify_of_proper`) as long as the unit of pure numbers is none of its bases. It can be one in
a power only. Then the unit is a pure number and its simplest form has a root of every degree, while
the power has one if its exponent is divisible: the root of an `IndivisibleNumber` is refused
(`root_indivisibleNumber`).
-/

namespace Metrology

open Power

namespace Power

variable {n : ℤ} {s t : List Power}

/-- A power has at most one root of a degree. -/
theorem leftUnique_raised (hn : n ≠ 0) : Relator.LeftUnique (Raised n) := by
  intro p q r hp hq
  obtain ⟨u, e⟩ := p
  obtain ⟨v, f⟩ := q
  obtain rfl : u = v := hp.base_eq.symm.trans hq.base_eq
  have he : e.toInt = f.toInt :=
    mul_right_cancel₀ hn (hp.exponent_eq.symm.trans hq.exponent_eq)
  rw [Int32.toInt_inj.1 he]

theorem filter_of_raised (hn : n ≠ 0) (h : List.Forall₂ (Raised n) s t) :
    List.Forall₂ (Raised n) (s.filter isLive) (t.filter isLive) :=
  List.rel_filter (fun _ _ hpq => ⟨hpq.isLive hn, isLive_of_raised hpq⟩) h

/-- Powers have roots when those that are factors do. -/
theorem exists_roots_filter_iff (ht : .unitless ∉ bases t) :
    (∃ s, List.Forall₂ (Raised n) s t) ↔ ∃ s, List.Forall₂ (Raised n) s (t.filter isLive) := by
  rw [exists_raised_iff, exists_raised_iff]
  refine ⟨fun h q hq => h q (List.mem_filter.1 hq).1, fun h q hq => ?_⟩
  by_cases hlive : q.isLive = true
  · exact h q (List.mem_filter.2 ⟨hq, hlive⟩)
  · -- The exponent is zero, and so is its quotient by any degree.
    have hzero : q.exponent = 0 := by
      by_contra he
      refine hlive (isLive_iff.2 ⟨he, fun hb => ht ?_⟩)
      exact mem_bases.2 ⟨q, hq, hb⟩
    refine ⟨q, rfl, ?_⟩
    rw [hzero]
    exact (zero_mul n).symm

/-- The unit that roots are put together to does not depend on the terms that are no factors. -/
theorem simplify_roots_filter_iff (hn : n ≠ 0) (ht : .unitless ∉ bases t) {w : AnyUnit} :
    (∃ s, List.Forall₂ (Raised n) s t ∧ (Product.mk s).simplify = w) ↔
      ∃ s, List.Forall₂ (Raised n) s (t.filter isLive) ∧ (Product.mk s).simplify = w := by
  constructor
  · rintro ⟨s, hs, rfl⟩
    exact ⟨s.filter isLive, filter_of_raised hn hs, AnyUnit.simplify_filter s⟩
  · rintro ⟨r, hr, rfl⟩
    obtain ⟨s, hs⟩ := (exists_roots_filter_iff ht).2 ⟨r, hr⟩
    have hfilter : s.filter isLive = r :=
      List.left_unique_forall₂' (leftUnique_raised hn) (filter_of_raised hn hs) hr
    exact ⟨s, hs, hfilter ▸ (AnyUnit.simplify_filter s).symm⟩

end Power

namespace AnyUnit

variable {u w : AnyUnit} {n : Int32}

/-! ## Units of proper bases -/

theorem root_eq_ok_iff_powers (hu : u.Formed) (hproper : .unitless ∉ bases u.powers) (hn : n ≠ 0) :
    u.root n = .ok w ↔
      ∃ terms, List.Forall₂ (Raised n.toInt) terms u.powers ∧ (Product.mk terms).simplify = w := by
  cases u with
  | named b =>
    have hb : b ≠ .unitless := fun hb => hproper (hb ▸ List.mem_cons_self)
    rw [root_named_eq_ok_iff hn, factors_named hb]
    rfl
  | power t => exact root_power_eq_ok_iff hn
  | product p => exact root_product_eq_ok_iff (hu p rfl) hn

theorem root_simplify_of_proper (hu : u.Formed) (hproper : .unitless ∉ bases u.powers)
    (hn : n ≠ 0) : u.root n = .ok w ↔ u.simplify.root n = .ok w := by
  have hn0 : n.toInt ≠ 0 := fun h => hn (Int32.toInt_inj.1 h)
  rw [root_eq_ok_iff_powers hu hproper hn, root_eq_ok_iff (normal_simplify_of_formed hu) hn,
    factors_of_simplify]
  exact simplify_roots_filter_iff hn0 hproper

/-! ## Powers of the unit of pure numbers -/

/-- Whether a unit is a pure number that is written as a power with an exponent that a degree does not
divide. -/
def IndivisibleNumber (n : Int32) (u : AnyUnit) : Prop :=
  n ≠ 0 ∧ ∃ e : Int32, u = .power ⟨.unitless, e⟩ ∧ ¬∃ q : Int32, e.toInt = q.toInt * n.toInt

/-- The unit of pure numbers is a base of units that are not products only. -/
theorem unitless_mem_bases (hu : u.Formed) (h : .unitless ∈ bases u.powers) :
    u = .named .unitless ∨ ∃ e, u = .power ⟨.unitless, e⟩ := by
  cases u with
  | named b => exact .inl (congrArg AnyUnit.named (List.mem_singleton.1 h).symm)
  | power t =>
    obtain ⟨b, e⟩ := t
    obtain rfl : .unitless = b := List.mem_singleton.1 h
    exact .inr ⟨e, rfl⟩
  | product p => exact absurd h (hu p rfl).proper

theorem simplify_unitless_power (e : Int32) : (Power.mk .unitless e).simplify = .unitless :=
  if_pos (NamedUnit.isUnitless_iff.2 rfl)

theorem root_unitless (hn : n ≠ 0) : unitless.root n = .ok unitless := by
  unfold root
  rw [if_neg hn]
  exact if_pos (NamedUnit.isUnitless_iff.2 rfl)

/-- A power of the unit of pure numbers has its root where the exponent is divisible. -/
theorem root_unitless_power {e : Int32} (hn : n ≠ 0) :
    (AnyUnit.power ⟨.unitless, e⟩).root n = .ok w ↔
      (∃ q : Int32, e.toInt = q.toInt * n.toInt) ∧ unitless = w := by
  rw [root_power_eq_ok_iff hn]
  simp only [List.forall₂_cons_right_iff, List.forall₂_nil_right_iff]
  constructor
  · rintro ⟨_, ⟨⟨b, q⟩, _, ⟨hb, he⟩, rfl, rfl⟩, rfl⟩
    obtain rfl : .unitless = b := hb
    rw [simplify_one, simplify_unitless_power]
    exact ⟨⟨q, he⟩, rfl⟩
  · rintro ⟨⟨q, he⟩, rfl⟩
    exact ⟨_, ⟨⟨.unitless, q⟩, [], ⟨rfl, he⟩, rfl, rfl⟩,
      (simplify_one _).trans (simplify_unitless_power q)⟩

theorem root_simplify_of_divisible (hu : u.Formed) (h : ¬u.IndivisibleNumber n) :
    u.root n = .ok w ↔ u.simplify.root n = .ok w := by
  by_cases hn : n = 0
  · rw [hn]
    exact Iff.rfl
  by_cases hproper : .unitless ∈ bases u.powers
  · rcases unitless_mem_bases hu hproper with rfl | ⟨e, rfl⟩
    · exact Iff.rfl
    · have he : ∃ q : Int32, e.toInt = q.toInt * n.toInt := by
        by_contra he
        exact h ⟨hn, e, rfl, he⟩
      show _ ↔ (Power.mk .unitless e).simplify.root n = .ok w
      rw [root_unitless_power hn, and_iff_right he, simplify_unitless_power, root_unitless hn,
        Except.ok.injEq]
  · exact root_simplify_of_proper hu hproper hn

theorem root_indivisibleNumber (h : u.IndivisibleNumber n) :
    u.simplify.root n = .ok unitless ∧ ¬Returns (u.root n) := by
  obtain ⟨hn, e, rfl, he⟩ := h
  refine ⟨?_, fun ⟨w, hw⟩ => he ((root_unitless_power hn).1 hw).1⟩
  show (Power.mk .unitless e).simplify.root n = _
  rw [simplify_unitless_power, root_unitless hn]

/-- Every unit that a run of operations arrives at has the roots of its simplest form and no others,
unless it is a pure number written as a power of which the degree does not divide the exponent. That
root is refused, whereas the simplest form is its own root. No root ends in a fault. -/
theorem root_of_simplest_form (hu : u.Built) (n : Int32) :
    (¬u.IndivisibleNumber n → ∀ w, u.root n = .ok w ↔ u.simplify.root n = .ok w) ∧
    (u.IndivisibleNumber n →
      u.simplify.root n = .ok unitless ∧ ∃ e, u.root n = .error (.unit e)) ∧
    NoFault (u.root n) ∧ NoFault (u.simplify.root n) := by
  have hfault : NoFault (u.root n) := noFault_root hu.formed
  refine ⟨fun h w => root_simplify_of_divisible hu.formed h, fun h => ?_, hfault, ?_⟩
  · obtain ⟨hsimplify, hrefused⟩ := root_indivisibleNumber h
    exact ⟨hsimplify, hfault.refused_iff.2 hrefused⟩
  · exact noFault_root (normal_simplify_of_formed hu.formed).formed

/-- The square root of an area with a second of exponent zero in it, and of a pure number to the power
of four and of one. -/
theorem root_of_simplest_form_area :
    ∃ (meter second : NamedUnit) (p : Product) (u v w : AnyUnit),
      meter = .plain "m" .ofLength .one none ∧ second = .plain "s" .ofTime .one none ∧
      p = ⟨[⟨meter, 2⟩, ⟨second, 0⟩]⟩ ∧ u = .product p ∧ u.Built ∧
      ¬u.IndivisibleNumber 2 ∧ u.root 2 = .ok (.named meter) ∧
      u.simplify.root 2 = .ok (.named meter) ∧
      v = .power ⟨.unitless, 4⟩ ∧ ¬v.IndivisibleNumber 2 ∧ v.simplify.root 2 = .ok unitless ∧
      v.root 2 = .ok unitless ∧ w = .power ⟨.unitless, 1⟩ ∧ w.IndivisibleNumber 2 ∧
      ∃ e, w.root 2 = .error (.unit e) := by
  have hp : Product.ofPowers [⟨.plain "m" .ofLength .one none, 2⟩,
      ⟨.plain "s" .ofTime .one none, 0⟩] = .ok ⟨_⟩ := rfl
  have hu : (AnyUnit.product _).Built := .product (.ofPowers hp)
  have hproduct : ¬(AnyUnit.product ⟨[⟨.plain "m" .ofLength .one none, 2⟩,
      ⟨.plain "s" .ofTime .one none, 0⟩]⟩).IndivisibleNumber 2 := fun ⟨_, _, h, _⟩ => nomatch h
  have hfour : ¬(AnyUnit.power ⟨.unitless, 4⟩).IndivisibleNumber 2 := by
    rintro ⟨-, e, he, hq⟩
    obtain rfl : 4 = e := (Power.mk.inj (AnyUnit.power.inj he)).2
    exact hq ⟨2, rfl⟩
  have hone : (AnyUnit.power ⟨.unitless, 1⟩).IndivisibleNumber 2 := by
    refine ⟨by decide, 1, rfl, fun ⟨q, hq⟩ => ?_⟩
    have hq : (1 : ℤ) = q.toInt * 2 := hq
    omega
  refine ⟨_, _, _, _, _, _, rfl, rfl, rfl, rfl, hu, hproduct, rfl, ?_, rfl, hfour, rfl, ?_, rfl,
    hone, ?_⟩
  · exact ((root_of_simplest_form hu 2).1 hproduct _).1 rfl
  · exact ((root_of_simplest_form (.power _) 2).1 hfour _).2 rfl
  · exact ((root_of_simplest_form (.power _) 2).2.1 hone).2

/-- A pure number to the power of one has no square root, although its simplest form has one. -/
theorem root_unitless_power_refused :
    ∃ u : AnyUnit, u = .power ⟨.unitless, 1⟩ ∧ u.Built ∧
      u.root 2 = .error (.unit (.nonDivisiblePower "1" 1 2)) ∧
      u.simplify.root 2 = .ok unitless ∧
      ¬∀ {v : AnyUnit}, v.Built → ∀ n : Int32, Returns (v.root n) ↔ Returns (v.simplify.root n) :=
  ⟨_, rfl, .power _, rfl, rfl, fun h => nomatch (h (.power ⟨.unitless, 1⟩) 2).2 ⟨_, rfl⟩⟩

end AnyUnit

end Metrology
