import Mathlib.Data.Finset.Card
import Metrology.Catalog
import Metrology.Proofs.AnyUnit.Normal
import Metrology.Proofs.UnitType.Terms

/-!
# Canonical products and units known at run time

Canonical products and units known at run time are multiplied, divided, raised and rooted by code of
their own. `Mirrors` compares two such calculations: one returns when the other does and the bases
fit the slots, and the results are the same unit with the same name. All four operations mirror each
other (`algebra_mirrors`).
-/

namespace Metrology

open Power

/-- Whether a canonical product is calculated as a unit is at run time, given `room` for its bases:
the one calculation returns when the other does, and then with the same unit and name. -/
structure Mirrors {ε : Type} (room : Prop) (static : Calc Canonical) (dynamic : Except ε AnyUnit) :
    Prop where
  returns_iff : Returns static ↔ Returns dynamic ∧ room
  agrees : ∀ {c}, static = .ok c →
    ∃ u, dynamic = .ok u ∧ AnyUnit.ofCanonical c = .ok u ∧ u.name = c.text

namespace Canonical

variable {a b c : Canonical}

/-! ## Room for the bases -/

/-- The distinct bases of two products. -/
def basesOf (a b : Canonical) : Finset NamedUnit :=
  (bases a.terms).toFinset ∪ (bases b.terms).toFinset

/-- Two products take as many slots as they have distinct bases. -/
theorem length_gather {prepare : Power → Calc Power} {k : ℤ} {q : Product}
    (ha : Simplified a.terms) (hb : Simplified b.terms) (hk : Product.Scales prepare k)
    (h : Product.gather prepare ⟨a.terms⟩ b.terms = .ok q) :
    q.terms.length = (basesOf a b).card := by
  have hbases : (bases q.terms).toFinset = basesOf a b := by
    ext u
    have hproper : u ∈ bases b.terms → u ≠ .unitless := fun hu h0 => hb.merged.proper (h0 ▸ hu)
    rw [basesOf, Finset.mem_union, List.mem_toFinset, List.mem_toFinset, List.mem_toFinset,
      Product.mem_bases_gather hk h]
    tauto
  have hnodup := (Product.merged_gather ha.merged h).nodup
  rw [← hbases, List.toFinset_card_of_nodup hnodup, bases, List.length_map]

/-! ## Algebra -/

section Runs

variable {ε : Type} {room : Prop} {static : Calc Canonical} {dynamic : Except ε AnyUnit}

/-- Calculations of one list of terms mirror each other, when there is room for the list in the
slots. -/
theorem mirrors_of_terms {P : List Power → Prop}
    (hstatic : ∀ {c}, static = .ok c ↔
      ∃ terms, P terms ∧ terms.length ≤ slotCount ∧ c = ofTerms (terms.filter isLive))
    (hdynamic : ∀ {u}, dynamic = .ok u ↔ ∃ terms, P terms ∧ (Product.mk terms).simplify = u)
    (hmerged : ∀ {terms}, P terms → Merged terms)
    (hroom : ∀ {terms}, P terms → (terms.length ≤ slotCount ↔ room)) :
    Mirrors room static dynamic where
  returns_iff := by
    constructor
    · rintro ⟨c, hc⟩
      obtain ⟨terms, hterms, hlen, -⟩ := hstatic.1 hc
      exact ⟨⟨_, hdynamic.2 ⟨terms, hterms, rfl⟩⟩, (hroom hterms).1 hlen⟩
    · rintro ⟨⟨u, hu⟩, hr⟩
      obtain ⟨terms, hterms, -⟩ := hdynamic.1 hu
      exact ⟨_, hstatic.2 ⟨terms, hterms, (hroom hterms).2 hr, rfl⟩⟩
  agrees := by
    intro c hc
    obtain ⟨terms, hterms, hlen, hc⟩ := hstatic.1 hc
    have hsimplified := (hmerged hterms).simplified_filter
    have hct := terms_of_eq_ofTerms hc hlen
    refine ⟨_, hdynamic.2 ⟨terms, hterms, rfl⟩, ?_, ?_⟩
    · rw [ofCanonical_eq (hct ▸ hsimplified.merged), hct, AnyUnit.simplify_filter]
    · rw [← AnyUnit.simplify_filter, AnyUnit.name_of_simplified hsimplified, ← hct]
      rfl

/-- Runs over the terms of both operands mirror each other. -/
theorem mirrors_gather {prepare : Power → Calc Power} {k : ℤ} (hk : Product.Scales prepare k)
    (ha : Simplified a.terms) (hb : Simplified b.terms)
    (hstatic : ∀ {c}, static = .ok c ↔ ∃ q, Product.gather prepare ⟨a.terms⟩ b.terms = .ok q ∧
      q.terms.length ≤ slotCount ∧ c = ofTerms (q.terms.filter isLive))
    (hdynamic : ∀ {u}, dynamic = .ok u ↔
      ∃ q, Product.gather prepare ⟨a.terms⟩ b.terms = .ok q ∧ q.simplify = u) :
    Mirrors ((basesOf a b).card ≤ slotCount) static dynamic := by
  refine mirrors_of_terms
    (P := fun terms => Product.gather prepare ⟨a.terms⟩ b.terms = .ok ⟨terms⟩)
    ?_ ?_ (fun h => Product.merged_gather ha.merged h) (fun h => by rw [← length_gather ha hb hk h])
  · intro c
    rw [hstatic]
    exact ⟨fun ⟨q, h⟩ => ⟨q.terms, h⟩, fun ⟨terms, h⟩ => ⟨⟨terms⟩, h⟩⟩
  · intro u
    rw [hdynamic]
    exact ⟨fun ⟨q, h⟩ => ⟨q.terms, h⟩, fun ⟨terms, h⟩ => ⟨⟨terms⟩, h⟩⟩

end Runs

theorem mirrors_multiply (ha : Simplified a.terms) (hb : Simplified b.terms) :
    Mirrors ((basesOf a b).card ≤ slotCount) (a.multiply b)
      (do (← AnyUnit.ofCanonical a).multiply (← AnyUnit.ofCanonical b)) := by
  refine mirrors_gather Product.scales_pure ha hb multiply_eq_ok_iff ?_
  intro u
  rw [ofCanonical_eq ha.merged, ofCanonical_eq hb.merged]
  show AnyUnit.multiply _ _ = .ok u ↔ _
  rw [AnyUnit.multiply_eq_ok_iff (AnyUnit.normal_of_simplified ha)
    (AnyUnit.normal_of_simplified hb), AnyUnit.factors_of_simplified ha,
    AnyUnit.factors_of_simplified hb]

theorem mirrors_divide (ha : Simplified a.terms) (hb : Simplified b.terms) :
    Mirrors ((basesOf a b).card ≤ slotCount) (a.divide b)
      (do (← AnyUnit.ofCanonical a).divide (← AnyUnit.ofCanonical b)) := by
  refine mirrors_gather Product.scales_negated ha hb divide_eq_ok_iff ?_
  intro u
  rw [ofCanonical_eq ha.merged, ofCanonical_eq hb.merged]
  show AnyUnit.divide _ _ = .ok u ↔ _
  rw [AnyUnit.divide_eq_ok_iff (AnyUnit.normal_of_simplified ha)
    (AnyUnit.normal_of_simplified hb), AnyUnit.factors_of_simplified ha,
    AnyUnit.factors_of_simplified hb]

theorem mirrors_pow (ha : Simplified a.terms) (n : Int32) :
    Mirrors True (a.pow n) (do (← AnyUnit.ofCanonical a).checkedPow n : Attempt AnyUnit) := by
  refine mirrors_of_terms (P := fun terms => List.Forall₂ (Raised n.toInt) a.terms terms) ?_ ?_
    (fun h => ha.merged.of_bases_eq (bases_of_raised h))
    (fun h => iff_true_intro (h.length_eq ▸ a.length_terms_le))
  · intro c
    rw [pow_eq_ok_iff]
    exact exists_congr fun terms => and_congr_right fun h =>
      (and_iff_right (h.length_eq ▸ a.length_terms_le)).symm
  · intro w
    rw [ofCanonical_eq ha.merged]
    show AnyUnit.checkedPow _ n = .ok w ↔ _
    rw [AnyUnit.checkedPow_eq_ok_iff (AnyUnit.normal_of_simplified ha),
      AnyUnit.factors_of_simplified ha]

theorem mirrors_root (ha : Simplified a.terms) (n : Int32) :
    Mirrors True (a.root n) (do (← AnyUnit.ofCanonical a).root n : Attempt AnyUnit) := by
  by_cases hn : n = 0
  · -- No unit has a root of degree zero, in either calculation.
    subst hn
    rw [ofCanonical_eq ha.merged]
    exact ⟨⟨nofun, nofun⟩, nofun⟩
  refine mirrors_of_terms (P := fun terms => List.Forall₂ (Raised n.toInt) terms a.terms) ?_ ?_
    (fun h => (ha.of_raised h).merged)
    (fun h => iff_true_intro (h.length_eq ▸ a.length_terms_le))
  · intro c
    rw [root_eq_ok_iff hn]
    exact exists_congr fun terms => and_congr_right fun h =>
      (and_iff_right (h.length_eq ▸ a.length_terms_le)).symm
  · intro w
    rw [ofCanonical_eq ha.merged]
    show AnyUnit.root _ n = .ok w ↔ _
    rw [AnyUnit.root_eq_ok_iff (AnyUnit.normal_of_simplified ha) hn,
      AnyUnit.factors_of_simplified ha]

/-- The terms of unit types are simplified, and on simplified products the two algebras return
alike, as long as the operands of a product or a quotient have no more distinct bases than there are
slots. -/
theorem algebra_mirrors :
    (∀ {t : UnitType} {c : Canonical}, t.terms = .ok c → Simplified c.terms) ∧
    ∀ {a b : Canonical}, Simplified a.terms → Simplified b.terms → ∀ exponent degree : Int32,
      Mirrors ((basesOf a b).card ≤ slotCount) (a.multiply b)
        (do (← AnyUnit.ofCanonical a).multiply (← AnyUnit.ofCanonical b)) ∧
      Mirrors ((basesOf a b).card ≤ slotCount) (a.divide b)
        (do (← AnyUnit.ofCanonical a).divide (← AnyUnit.ofCanonical b)) ∧
      Mirrors True (a.pow exponent)
        (do (← AnyUnit.ofCanonical a).checkedPow exponent : Attempt AnyUnit) ∧
      Mirrors True (a.root degree)
        (do (← AnyUnit.ofCanonical a).root degree : Attempt AnyUnit) := by
  refine ⟨UnitType.simplified_terms, fun ha hb exponent degree => ?_⟩
  exact ⟨mirrors_multiply ha hb, mirrors_divide ha hb, mirrors_pow ha exponent,
    mirrors_root ha degree⟩

/-- A velocity times the second, as canonical products and as units at run time. -/
theorem algebra_mirrors_velocity :
    ∃ v s, Catalog.meterPerSecond.terms = .ok v ∧
      (UnitType.named Catalog.second).terms = .ok s ∧ Simplified v.terms ∧ Simplified s.terms ∧
      Returns (v.multiply s) ∧
      Mirrors ((basesOf v s).card ≤ slotCount) (v.multiply s)
        (do (← AnyUnit.ofCanonical v).multiply (← AnyUnit.ofCanonical s)) := by
  obtain ⟨c, hc⟩ :
      Returns (UnitType.product Catalog.meterPerSecond (.named Catalog.second)).terms := ⟨_, rfl⟩
  obtain ⟨v, hv, hc⟩ := bind_eq_ok_iff.1 hc
  obtain ⟨s, hs, hc⟩ := bind_eq_ok_iff.1 hc
  have hv' := algebra_mirrors.1 hv
  have hs' := algebra_mirrors.1 hs
  exact ⟨v, s, hv, hs, hv', hs', ⟨c, hc⟩, (algebra_mirrors.2 hv' hs' 1 1).1⟩

end Canonical

end Metrology
