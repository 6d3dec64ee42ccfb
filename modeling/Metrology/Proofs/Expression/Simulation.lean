import Metrology.Proofs.AnyQuantity.Carries
import Metrology.Proofs.Expression.Basic
import Metrology.Proofs.UnitType.Difference

/-!
# Evaluation at run time simulates evaluation by unit types

`Simulated` relates the two evaluations of an expression: the one at run time is not refused, and
gives the value of the other with a unit that has the terms of the unit type. Each operation keeps
this, a difference at plain units only, and so does a whole expression (`simulated`).
-/

namespace Metrology

open Power

/-! ## Terms of the operands -/

namespace UnitType

variable {u v : UnitType} {c : Canonical}

theorem origin_of_isAbsolute (h : u.isAbsolute = .ok false) (hc : u.terms = .ok c) :
    c.origin = none := by
  obtain ⟨o, ho, hsome⟩ := map_eq_ok_iff.1 h
  obtain rfl := Except.ok.inj (ho.symm.trans (origin_eq hc))
  exact Option.isSome_eq_false_iff.1 hsome |> Option.isNone_iff_eq_none.1

end UnitType

namespace Expression

variable {α : Type} [RealScalar α] {u v w : UnitType}

/-- Whether an expression, unless it is stopped by a fault, is at run time what carries its value
and the terms of its unit type. -/
def Simulated (e : Expression α u) : Prop :=
  ∀ ⦃q : Quantity u α⦄ ⦃c : Canonical⦄, e.evaluate = .ok q → NoFault e.evaluateAny →
    u.terms = .ok c → ∃ r, e.evaluateAny = .ok r ∧ r.Carries q.value c

namespace Simulated

variable {a b : Expression α u} {d : Expression α v} {e : Expression α w}

/-! ## One operand, two operands -/

/-- An operation on one operand is simulated when it keeps what the operand carries. -/
theorem unary {e : Expression α v} {f : Quantity u α → Quantity v α}
    {g : AnyQuantity α → Attempt (AnyQuantity α)} (ha : a.Simulated)
    (hf : e.evaluate = do return f (← a.evaluate)) (hg : e.evaluateAny = do g (← a.evaluateAny))
    (hstep : ∀ {c}, v.terms = .ok c → ∃ ca, u.terms = .ok ca ∧
      ∀ {x p}, p.Carries x.value ca → NoFault (g p) → ∃ r, g p = .ok r ∧ r.Carries (f x).value c) :
    e.Simulated := by
  intro q c hq h hc
  rw [hf] at hq
  rw [hg] at h ⊢
  obtain ⟨x, hx, hq⟩ := bind_eq_ok_iff.1 hq
  obtain rfl := Except.ok.inj hq
  obtain ⟨ca, hca, hstep⟩ := hstep hc
  obtain ⟨p, hp, h, heq⟩ := h.bind_eq fun h => ha hx h hca
  obtain ⟨r, hr, hcarries⟩ := hstep hp h
  exact ⟨r, heq.trans hr, hcarries⟩

/-- An operation on two operands is simulated when it keeps what the operands carry. -/
theorem binary {f : Quantity u α → Quantity v α → Quantity w α}
    {g : AnyQuantity α → AnyQuantity α → Attempt (AnyQuantity α)} (ha : a.Simulated)
    (hd : d.Simulated) (hf : e.evaluate = do return f (← a.evaluate) (← d.evaluate))
    (hg : e.evaluateAny = do g (← a.evaluateAny) (← d.evaluateAny))
    (hstep : ∀ {c}, w.terms = .ok c → ∃ ca cd, u.terms = .ok ca ∧ v.terms = .ok cd ∧
      ∀ {x y p q}, p.Carries x.value ca → q.Carries y.value cd → NoFault (g p q) →
        ∃ r, g p q = .ok r ∧ r.Carries (f x y).value c) :
    e.Simulated := by
  intro q c hq h hc
  rw [hf] at hq
  rw [hg] at h ⊢
  obtain ⟨x, hx, hq⟩ := bind_eq_ok_iff.1 hq
  obtain ⟨y, hy, hq⟩ := bind_eq_ok_iff.1 hq
  obtain rfl := Except.ok.inj hq
  obtain ⟨ca, cd, hca, hcd, hstep⟩ := hstep hc
  obtain ⟨p, hp, h, heq⟩ := h.bind_eq fun h => ha hx h hca
  obtain ⟨q, hq, h, heq'⟩ := h.bind_eq fun h => hd hy h hcd
  obtain ⟨r, hr, hcarries⟩ := hstep hp hq h
  exact ⟨r, (heq.trans heq').trans hr, hcarries⟩

/-! ## One operation -/

theorem quantity (p : Quantity u α) : (Expression.quantity p).Simulated := by
  intro q c hq _ hc
  obtain rfl := Except.ok.inj hq
  refine ⟨⟨p.value, (Product.mk c.terms).simplify⟩, ?_, rfl,
    AnyUnit.follows_simplify (UnitType.simplified_terms hc)⟩
  exact liftCalc_eq_ok_iff.2 (bind_eq_ok_iff.2 ⟨_, UnitType.toAny_eq hc, rfl⟩)

theorem add (ha : a.Simulated) (hb : b.Simulated) (habsolute : u.isAbsolute = .ok false) :
    (a.add b).Simulated := by
  refine binary ha hb rfl rfl fun hc => ⟨_, _, hc, hc, fun hp hq h => ?_⟩
  exact hp.add hq (UnitType.origin_of_isAbsolute habsolute hc) h

theorem sub {t : Canonical} (ha : a.Simulated) (hb : b.Simulated) (ht : u.terms = .ok t)
    (hplain : t.Plain) : (a.sub b).Simulated := by
  refine binary ha hb rfl rfl fun hc => ⟨_, _, ht, ht, fun hp hq h => ?_⟩
  exact hp.sub hq hplain (UnitType.simplified_terms hc)
    (fun f hf => UnitType.weigh_difference hf ht hc) h

theorem mul (ha : a.Simulated) (hd : d.Simulated) : (a.mul d).Simulated := by
  refine binary ha hd rfl rfl fun hc => ?_
  obtain ⟨ca, hca, hc⟩ := bind_eq_ok_iff.1 hc
  obtain ⟨cd, hcd, hc⟩ := bind_eq_ok_iff.1 hc
  refine ⟨ca, cd, hca, hcd, fun hp hq h => ?_⟩
  obtain ⟨r, hr⟩ := noFault_liftCalc_iff.1 h
  exact ⟨r, liftCalc_eq_ok_iff.2 hr, hp.mul hq hc hr⟩

theorem div (ha : a.Simulated) (hd : d.Simulated) : (a.div d).Simulated := by
  refine binary ha hd rfl rfl fun hc => ?_
  obtain ⟨ca, hca, hc⟩ := bind_eq_ok_iff.1 hc
  obtain ⟨cd, hcd, hc⟩ := bind_eq_ok_iff.1 hc
  refine ⟨ca, cd, hca, hcd, fun hp hq h => ?_⟩
  obtain ⟨r, hr⟩ := noFault_liftCalc_iff.1 h
  exact ⟨r, liftCalc_eq_ok_iff.2 hr, hp.div hq hc hr⟩

theorem neg (ha : a.Simulated) : a.neg.Simulated :=
  unary ha rfl rfl fun hc => ⟨_, hc, fun hp _ => ⟨_, rfl, hp.neg⟩⟩

theorem scale (ha : a.Simulated) (y : α) : (a.scale y).Simulated :=
  unary ha rfl rfl fun hc => ⟨_, hc, fun hp _ => ⟨_, rfl, hp.scale y⟩⟩

theorem shrink (ha : a.Simulated) (y : α) : (a.shrink y).Simulated :=
  unary ha rfl rfl fun hc => ⟨_, hc, fun hp _ => ⟨_, rfl, hp.shrink y⟩⟩

theorem recip (ha : a.Simulated) (y : α) : (Expression.recip y a).Simulated := by
  refine unary ha rfl rfl fun hc => ?_
  obtain ⟨cu, hcu, hc⟩ := bind_eq_ok_iff.1 hc
  obtain rfl := Except.ok.inj hcu
  obtain ⟨ca, hca, hc⟩ := bind_eq_ok_iff.1 hc
  refine ⟨ca, hca, fun hp h => ?_⟩
  obtain ⟨r, hr⟩ := noFault_liftCalc_iff.1 h
  exact ⟨r, liftCalc_eq_ok_iff.2 hr, hp.recip y hc hr⟩

theorem powi (ha : a.Simulated) (n : Int32) : (a.powi n).Simulated := by
  refine unary ha rfl rfl fun hc => ?_
  obtain ⟨ca, hca, hc⟩ := bind_eq_ok_iff.1 hc
  refine ⟨ca, hca, fun hp h => ?_⟩
  obtain ⟨r, hr⟩ := noFault_liftCalc_iff.1 h
  exact ⟨r, liftCalc_eq_ok_iff.2 hr, hp.powi hc hr⟩

theorem sqrt (ha : a.Simulated) : a.sqrt.Simulated := by
  refine unary ha rfl rfl fun hc => ?_
  obtain ⟨ca, hca, hc⟩ := bind_eq_ok_iff.1 hc
  exact ⟨ca, hca, fun hp _ => hp.sqrt hc⟩

theorem cbrt (ha : a.Simulated) : a.cbrt.Simulated := by
  refine unary ha rfl rfl fun hc => ?_
  obtain ⟨ca, hca, hc⟩ := bind_eq_ok_iff.1 hc
  exact ⟨ca, hca, fun hp _ => hp.cbrt hc⟩

theorem hypot (ha : a.Simulated) (hb : b.Simulated) : (a.hypot b).Simulated :=
  binary ha hb rfl rfl fun hc => ⟨_, _, hc, hc, fun hp hq h => hp.hypot hq h⟩

theorem fma (ha : a.Simulated) (hd : d.Simulated) (he : e.Simulated)
    (hequal : w.isEqual (.product u v) = .ok true) : (a.fma d e).Simulated := by
  intro q c hq h hc
  obtain ⟨x, hx, hq⟩ := bind_eq_ok_iff.1 hq
  obtain ⟨y, hy, hq⟩ := bind_eq_ok_iff.1 hq
  obtain ⟨z, hz, hq⟩ := bind_eq_ok_iff.1 hq
  obtain rfl := Except.ok.inj hq
  -- The check has looked at the origin of the product, hence at the terms of both factors.
  obtain ⟨_, _, _, -, hdimension, -, -, -, horigin⟩ := UnitType.isEqual_eq_true hequal
  obtain ⟨t, ht⟩ := UnitType.returns_terms hdimension horigin
  obtain ⟨ca, hca, hmul⟩ := bind_eq_ok_iff.1 ht
  obtain ⟨cd, hcd, hmul⟩ := bind_eq_ok_iff.1 hmul
  obtain ⟨p, hp, h, heq⟩ := h.bind_eq fun h => ha hx h hca
  obtain ⟨r, hr, h, heq'⟩ := h.bind_eq fun h => hd hy h hcd
  obtain ⟨s, hs, h, heq''⟩ := h.bind_eq fun h => he hz h hc
  obtain ⟨f, hf, hcarries⟩ := hp.fma hr hs hmul ht hc hequal h
  exact ⟨f, ((heq.trans heq').trans heq'').trans hf, hcarries⟩

theorem convert (ha : a.Simulated) (hconvertible : u.isConvertible v = .ok true) :
    (a.convert v).Simulated := by
  intro q c hq h hc
  obtain ⟨x, hx, hq⟩ := bind_eq_ok_iff.1 hq
  obtain ⟨_, _, _, hdimension, -, horigin, -⟩ := UnitType.isConvertible_eq_true hconvertible
  obtain ⟨ca, hca⟩ := UnitType.returns_terms hdimension horigin
  obtain ⟨p, hp, h, heq⟩ := h.bind_eq fun h => ha hx h hca
  rw [UnitType.toAny_eq hc] at h
  obtain ⟨s, hs, hcarries⟩ := hp.convert hca hc hconvertible hq h
  refine ⟨s, heq.trans ?_, hcarries⟩
  rw [UnitType.toAny_eq hc]
  exact hs

end Simulated

/-! ## Whole expressions -/

/-- An expression that is checked and has plain differences only is simulated. -/
theorem simulated (e : Expression α u) (hchecked : e.Checked) (hplain : e.PlainDifferences) :
    e.Simulated := by
  induction e with
  | quantity q => exact .quantity q
  | add a b iha ihb =>
    exact (iha hchecked.2.1 hplain.1).add (ihb hchecked.2.2 hplain.2) hchecked.1
  | sub a b iha ihb =>
    obtain ⟨⟨t, ht, hplain⟩, hpa, hpb⟩ := hplain
    exact (iha hchecked.1 hpa).sub (ihb hchecked.2 hpb) ht hplain
  | mul a b iha ihb => exact (iha hchecked.1 hplain.1).mul (ihb hchecked.2 hplain.2)
  | div a b iha ihb => exact (iha hchecked.1 hplain.1).div (ihb hchecked.2 hplain.2)
  | neg a ih => exact (ih hchecked hplain).neg
  | scale a x ih => exact (ih hchecked hplain).scale x
  | shrink a x ih => exact (ih hchecked hplain).shrink x
  | recip x a ih => exact (ih hchecked hplain).recip x
  | powi a n ih => exact (ih hchecked hplain).powi n
  | sqrt a ih => exact (ih hchecked.2 hplain).sqrt
  | cbrt a ih => exact (ih hchecked.2 hplain).cbrt
  | hypot a b iha ihb => exact (iha hchecked.1 hplain.1).hypot (ihb hchecked.2 hplain.2)
  | fma a b c iha ihb ihc =>
    obtain ⟨hequal, hca, hcb, hcc⟩ := hchecked
    exact (iha hca hplain.1).fma (ihb hcb hplain.2.1) (ihc hcc hplain.2.2) hequal
  | convert a v ih => exact (ih hchecked.2 hplain).convert hchecked.1

end Expression

end Metrology
