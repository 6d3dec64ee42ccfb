import Metrology.Proofs.AnyUnit.Follows
import Metrology.Proofs.Conversion.Between
import Metrology.Proofs.UnitType.Constants

/-!
# Operations at run time follow the unit types

`Carries q x c` says that a quantity at run time has the value `x` and a unit that follows the
canonical product `c`. For each operation there is one lemma: on operands that carry the values and
the terms of quantities of unit types, it returns what carries their result, provided that it is
not stopped by a fault. A check of units is never what stops it.
-/

namespace Metrology

open Power

namespace AnyUnit

variable {d e : AnyUnit} {a b : Canonical} {u v : UnitType}

/-! ## Units -/

theorem Follows.dimension_eq (hd : d.Follows a) (hu : u.terms = .ok a) {x y : Dimension}
    (hx : d.dimension = .ok x) (hy : u.dimension = .ok y) : x = y := by
  rw [← Dimension.value_inj, value_dimension hx, UnitType.value_dimension hu hy, hd.weigh_eq]

theorem Follows.magnitude_eq (hd : d.Follows a) (hu : u.terms = .ok a) {x y : Ratio}
    (hx : d.magnitude = .ok x) (hy : u.magnitude = .ok y) : x = y := by
  rw [← Ratio.value_inj, value_magnitude hx, UnitType.value_magnitude hu hy, hd.weigh_eq]

theorem Follows.origin_eq_of_terms (hd : d.Follows a) (hu : u.terms = .ok a) {o : Origin}
    (ho : u.origin = .ok o) : d.origin = o := by
  rw [hd.origin_eq]
  exact Except.ok.inj ((UnitType.origin_eq hu).symm.trans ho)

/-- Units that follow equal unit types are equivalent. -/
theorem isEquivalent_of_isEqual (hd : d.Follows a) (he : e.Follows b) (hu : u.terms = .ok a)
    (hv : v.terms = .ok b) (huv : v.isEqual u = .ok true) {r : Bool}
    (h : d.isEquivalent e = .ok r) : r = true := by
  obtain ⟨x, m, o, hdv, hdu, hmv, hmu, hov, hou⟩ := UnitType.isEqual_eq_true huv
  refine (isEquivalent_iff h).2 ⟨?_, ?_, ?_⟩
  · rw [hd.weigh_eq, he.weigh_eq, ← UnitType.value_dimension hu hdu,
      ← UnitType.value_dimension hv hdv]
  · rw [hd.weigh_eq, he.weigh_eq, ← UnitType.value_magnitude hu hmu,
      ← UnitType.value_magnitude hv hmv]
  · rw [hd.origin_eq_of_terms hu hou, he.origin_eq_of_terms hv hov]

end AnyUnit

namespace AnyQuantity

variable {α : Type} {p q r : AnyQuantity α} {x y z : α} {a b c : Canonical} {n : Int32}

/-- Whether a quantity has a given value, and a unit that follows a canonical product. -/
structure Carries (q : AnyQuantity α) (x : α) (c : Canonical) : Prop where
  value_eq : q.value = x
  follows : q.unit.Follows c

/-- The check of units lets quantities of one unit type pass. -/
theorem expectSameUnit_bind {β : Type} {f : PUnit → Attempt β} (hp : p.Carries x c)
    (hq : q.Carries y c) (h : NoFault (p.expectSameUnit q >>= f)) :
    p.expectSameUnit q >>= f = f ⟨⟩ ∧ NoFault (f ⟨⟩) := by
  obtain ⟨hcheck, hf⟩ := noFault_bind_iff.1 h
  obtain ⟨r, hr, -⟩ := NoFault.of_liftCalc_bind hcheck
  have hok : p.expectSameUnit q = .ok ⟨⟩ := by
    unfold expectSameUnit
    rw [hr, hp.follows.isEquivalent hq.follows hr]
    rfl
  rw [hok]
  exact ⟨rfl, hf _ hok⟩

namespace Carries

section Scalar

variable [Scalar α]

/-! ## Arithmetic -/

theorem add (hp : p.Carries x c) (hq : q.Carries y c) (ho : c.origin = none)
    (h : NoFault (p.add q)) : ∃ r, p.add q = .ok r ∧ r.Carries (x + y) c := by
  have habsolute : ¬p.unit.isAbsolute = true := by
    rw [AnyUnit.isAbsolute, hp.follows.origin_eq, ho]
    exact Bool.false_ne_true
  obtain ⟨hadd, -⟩ := expectSameUnit_bind hp hq h
  refine ⟨⟨p.value + q.value, p.unit⟩, ?_, ?_, hp.follows⟩
  · refine hadd.trans ?_
    rw [if_neg habsolute]
    rfl
  · rw [hp.value_eq, hq.value_eq]

/-- At a plain unit, the difference of two quantities has the unit with the relative bases. -/
theorem sub (hp : p.Carries x a) (hq : q.Carries y a) (ha : a.Plain) (hc : Simplified c.terms)
    (hrelative : ∀ f : NamedUnit → Multiplicative ℤ, f .unitless = 1 →
      weigh f c.terms = weigh (fun u => f u.relative) a.terms)
    (h : NoFault (p.sub q)) : ∃ r, p.sub q = .ok r ∧ r.Carries (x - y) c := by
  obtain ⟨hsub, -⟩ := expectSameUnit_bind hp hq h
  refine ⟨_, hsub, ?_, AnyUnit.normal_relative hp.follows.normal, hc, fun f hf => ?_⟩
  · show p.value - q.value = x - y
    rw [hp.value_eq, hq.value_eq]
  · rw [hrelative f hf]
    exact AnyUnit.weigh_relative hf hp.follows ha

theorem mul (hp : p.Carries x a) (hq : q.Carries y b) (hc : a.multiply b = .ok c)
    (h : p.mul q = .ok r) : r.Carries (x * y) c := by
  obtain ⟨w, hw, hr⟩ := bind_eq_ok_iff.1 h
  obtain rfl := Except.ok.inj hr
  refine ⟨?_, hp.follows.multiply hq.follows hw hc⟩
  rw [← hp.value_eq, ← hq.value_eq]

theorem div (hp : p.Carries x a) (hq : q.Carries y b) (hc : a.divide b = .ok c)
    (h : p.div q = .ok r) : r.Carries (x / y) c := by
  obtain ⟨w, hw, hr⟩ := bind_eq_ok_iff.1 h
  obtain rfl := Except.ok.inj hr
  refine ⟨?_, hp.follows.divide hq.follows hw hc⟩
  rw [← hp.value_eq, ← hq.value_eq]

theorem neg (hp : p.Carries x c) : p.neg.Carries (-x) c :=
  ⟨congrArg _ hp.value_eq, hp.follows⟩

theorem scale (hp : p.Carries x c) (s : α) : (p.scale s).Carries (x * s) c :=
  ⟨congrArg (· * s) hp.value_eq, hp.follows⟩

theorem shrink (hp : p.Carries x c) (s : α) : (p.shrink s).Carries (x / s) c :=
  ⟨congrArg (· / s) hp.value_eq, hp.follows⟩

theorem recip (hp : p.Carries x a) (s : α) (hc : Canonical.empty.divide a = .ok c)
    (h : p.recip s = .ok r) : r.Carries (s / x) c := by
  obtain ⟨w, hw, hr⟩ := bind_eq_ok_iff.1 h
  obtain rfl := Except.ok.inj hr
  have hunitless : AnyUnit.unitless.Follows Canonical.empty :=
    AnyUnit.follows_simplify (c := .empty) simplified_nil
  refine ⟨?_, hunitless.divide hp.follows hw hc⟩
  rw [← hp.value_eq]

/-! ## Conversion -/

/-- A conversion that the unit types allow is not refused, and gives the same value. -/
theorem convert {u v : UnitType} {s : Quantity v α} (hp : p.Carries x a) (hu : u.terms = .ok a)
    (hv : v.terms = .ok b) (hconvertible : u.isConvertible v = .ok true)
    (hs : (⟨x⟩ : Quantity u α).convert v = .ok s)
    (h : NoFault (p.convert (Product.mk b.terms).simplify)) :
    ∃ r, p.convert (Product.mk b.terms).simplify = .ok r ∧ r.Carries s.value b := by
  have he := AnyUnit.follows_simplify (UnitType.simplified_terms hv)
  obtain ⟨d, o, o', hdu, hdv, hou, hov, hsome⟩ := UnitType.isConvertible_eq_true hconvertible
  have hp₀ := hp.follows.origin_eq_of_terms hu hou
  have he₀ := he.origin_eq_of_terms hv hov
  obtain ⟨hbetween, -⟩ := noFault_bind_iff.1 h
  obtain ⟨m, n, c, hm, hn, hmake, hc⟩ := Conversion.between_eq_ok
    (fun hx hy => (hp.follows.dimension_eq hu hx hdu).trans (he.dimension_eq hv hy hdv).symm)
    (by rw [AnyUnit.isAbsolute, AnyUnit.isAbsolute, hp₀, he₀, hsome]) hbetween
  rw [hp₀, he₀] at hmake
  obtain ⟨m', k, n', k', hmu, hou', hmv, hov', hvalue⟩ := Quantity.value_convert hs
  obtain rfl := hp.follows.magnitude_eq hu hm hmu
  obtain rfl := he.magnitude_eq hv hn hmv
  obtain rfl := Except.ok.inj (hou.symm.trans hou')
  obtain rfl := Except.ok.inj (hov.symm.trans hov')
  refine ⟨⟨c.apply p.value, _⟩, bind_eq_ok_iff.2 ⟨c, hc, rfl⟩, ?_, he⟩
  rw [hvalue hmake, hp.value_eq]

end Scalar

/-! ## Operations on real numbers -/

section RealScalar

variable [RealScalar α]

theorem powi (hp : p.Carries x a) (hc : a.pow n = .ok c) (h : p.powi n = .ok r) :
    r.Carries (RealScalar.powi x n) c := by
  obtain ⟨w, hw, hr⟩ := bind_eq_ok_iff.1 h
  obtain rfl := Except.ok.inj hr
  refine ⟨?_, hp.follows.pow hw hc⟩
  rw [← hp.value_eq]

theorem sqrt (hp : p.Carries x a) (hc : a.root 2 = .ok c) :
    ∃ r, p.sqrt = .ok r ∧ r.Carries (RealScalar.sqrt x) c := by
  obtain ⟨w, hw, hfollows⟩ := hp.follows.root hc
  exact ⟨⟨RealScalar.sqrt p.value, w⟩, bind_eq_ok_iff.2 ⟨w, hw, rfl⟩,
    congrArg _ hp.value_eq, hfollows⟩

theorem cbrt (hp : p.Carries x a) (hc : a.root 3 = .ok c) :
    ∃ r, p.cbrt = .ok r ∧ r.Carries (RealScalar.cbrt x) c := by
  obtain ⟨w, hw, hfollows⟩ := hp.follows.root hc
  exact ⟨⟨RealScalar.cbrt p.value, w⟩, bind_eq_ok_iff.2 ⟨w, hw, rfl⟩,
    congrArg _ hp.value_eq, hfollows⟩

theorem hypot (hp : p.Carries x c) (hq : q.Carries y c) (h : NoFault (p.hypot q)) :
    ∃ r, p.hypot q = .ok r ∧ r.Carries (RealScalar.hypot x y) c := by
  obtain ⟨hhypot, -⟩ := expectSameUnit_bind hp hq h
  refine ⟨_, hhypot, ?_, hp.follows⟩
  show RealScalar.hypot p.value q.value = _
  rw [hp.value_eq, hq.value_eq]

theorem fma {t : Canonical} {u v : UnitType} (hp : p.Carries x a) (hq : q.Carries y b)
    (hr : r.Carries z c) (ht : a.multiply b = .ok t) (hu : u.terms = .ok t)
    (hv : v.terms = .ok c) (hequal : v.isEqual u = .ok true) (h : NoFault (p.fma q r)) :
    ∃ s, p.fma q r = .ok s ∧ s.Carries (RealScalar.fma x y z) c := by
  obtain ⟨w, hw, h⟩ := NoFault.of_liftCalc_bind h
  obtain ⟨same, hsame, -⟩ := NoFault.of_liftCalc_bind h
  have hproduct := hp.follows.multiply hq.follows hw ht
  obtain rfl := AnyUnit.isEquivalent_of_isEqual hproduct hr.follows hu hv hequal hsame
  refine ⟨⟨RealScalar.fma p.value q.value r.value, r.unit⟩, ?_, ?_, hr.follows⟩
  · refine bind_eq_ok_iff.2 ⟨w, liftCalc_eq_ok_iff.2 hw, ?_⟩
    exact bind_eq_ok_iff.2 ⟨true, liftCalc_eq_ok_iff.2 hsame, rfl⟩
  · show RealScalar.fma p.value q.value r.value = _
    rw [hp.value_eq, hq.value_eq, hr.value_eq]

end RealScalar

end Carries

end AnyQuantity

end Metrology
