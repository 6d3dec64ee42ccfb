import Metrology.Number.Floating
import Metrology.Proofs.Expression.Simulation

/-!
# Differences at units that are not plain

A type of differences takes the origin off every base of a unit; at run time only a bare named unit
loses its origin. Unless the unit is plain, a quotient can bring an absolute base back: the
difference of two quantities of a unit `u`, divided by a quantity of `u` per an absolute base of it,
has the origin of that base at run time and another one or none by its unit type (`origin_ne`). So
evaluation at run time simulates evaluation by unit types as far as all differences are plain, and
no further (`evaluateAny_simulates`).
-/

namespace Metrology

open Power

theorem NamedUnit.eq_of_relative_eq {u v : NamedUnit} (hr : u.relative = v.relative)
    (ho : u.origin = v.origin) : u = v := by
  cases u
  cases v
  simp only [NamedUnit.relative, NamedUnit.mk.injEq] at hr ho ⊢
  exact ⟨hr.1, hr.2.1, hr.2.2.1, hr.2.2.2.1, ho⟩

namespace Canonical

variable {c x : Canonical} {m n : NamedUnit}

/-- A unit that is not plain keeps its origins at run time. -/
theorem relative_simplify (hc : Simplified c.terms) (h : ¬c.asNamed.isSome = true) :
    (Product.mk c.terms).simplify.relative = (Product.mk c.terms).simplify := by
  rcases AnyUnit.factors_cases hc with h0 | ⟨t, h1, ht⟩ | h2
  · rw [h0]
    rfl
  · have he : t.exponent ≠ 1 := by
      intro he
      refine h (Option.isSome_iff_exists.2 ⟨t.base, asNamed_eq_some_iff.2 ?_⟩)
      rw [h1, ← he]
    rw [h1, AnyUnit.simplify_singleton ht, if_neg he]
    rfl
  · rw [AnyUnit.simplify_of_two_le hc h2]
    rfl

/-- Taking the origins off all bases of a product, dividing by the product and multiplying by one of
its absolute bases does not make a named unit with the origin of that base. -/
theorem origin_ne (hc : Simplified c.terms) (hm : m ∈ bases c.terms) (ho : m.origin ≠ none)
    (h : ∀ f : NamedUnit → Multiplicative ℤ, f .unitless = 1 →
      f n = weigh (fun u => f u.relative) c.terms / (weigh f c.terms / f m)) :
    n.origin ≠ m.origin := by
  intro horigin
  have hunitless : m ≠ .unitless := fun h0 => ho (h0 ▸ rfl)
  -- The base itself is gone from the numerator, so its exponent is not that of the base alone.
  have hne : n ≠ m := by
    rintro rfl
    obtain ⟨t, ht, rfl⟩ := mem_bases.1 hm
    have hweigh := h (mark (· = t.base)) (mark_of_not hunitless.symm)
    have hrelative : weigh (fun u => mark (· = t.base) u.relative) c.terms = 1 :=
      weigh_eq_one fun u _ => mark_of_not fun h0 => ho (h0 ▸ rfl)
    rw [hrelative, weigh_mark hc.nodup, exponentAt_of_mem hc.nodup ht,
      mark_of (P := (· = t.base)) rfl, one_div, inv_div, eq_div_iff_mul_eq', mul_eq_left] at hweigh
    exact (isLive_iff.1 (hc.live t ht)).1
      (Int32.toInt_inj.1 (Multiplicative.ofAdd.injective hweigh))
  -- Of the units that differ in the origin only, numerator and denominator have equally many.
  have hclass : ∀ k : NamedUnit, k ≠ .unitless → (n.relative = k ↔ m.relative = k) := by
    intro k hk
    have hweigh := h (mark (·.relative = k)) (mark_of_not fun h0 => hk h0.symm)
    have hrelative : weigh (fun u => mark (·.relative = k) u.relative) c.terms =
        weigh (mark (·.relative = k)) c.terms := weigh_congr fun u _ => rfl
    rw [hrelative, div_div_cancel] at hweigh
    exact mark_eq_iff.1 hweigh
  refine hne (NamedUnit.eq_of_relative_eq ?_ horigin)
  by_cases hrm : m.relative = .unitless
  · by_cases hrn : n.relative = .unitless
    · rw [hrm, hrn]
    · exact ((hclass n.relative hrn).1 rfl).symm
  · exact (hclass m.relative hrm).2 rfl

theorem terms_of_origin {o : Ratio} (h : c.origin = some o) :
    ∃ n : NamedUnit, c.terms = [⟨n, 1⟩] ∧ n.origin = some o := by
  obtain ⟨n, hn, ho⟩ := Option.bind_eq_some_iff.1 h
  exact ⟨n, asNamed_eq_some_iff.1 hn, ho⟩

theorem weigh_single {M : Type} [DivisionCommMonoid M] {f : NamedUnit → M}
    (h : c.terms = [⟨m, 1⟩]) : weigh f c.terms = f m := by
  rw [h, weigh_cons, weigh_nil, mul_one]
  exact zpow_one _

end Canonical

namespace Expression

variable {α : Type} [RealScalar α] {u : UnitType} {c : Canonical}

/-! ## A quotient that brings a base back -/

/-- The difference of two quantities, divided by a quantity of their unit per one of its bases. -/
def exposed {t : NamedType} (x y : Quantity u α) (z : Quantity (.per u (.named t)) α) :
    Expression α (.per u.difference (.per u (.named t))) :=
  .div (.sub (.quantity x) (.quantity y)) (.quantity z)

theorem unit_of_quantity {x : Quantity u α} {p : AnyQuantity α} (hc : u.terms = .ok c)
    (hp : (quantity x).evaluateAny = .ok p) : p.unit = (Product.mk c.terms).simplify := by
  obtain ⟨d, hd, hp⟩ := bind_eq_ok_iff.1 (liftCalc_eq_ok_iff.1 hp)
  obtain rfl := Except.ok.inj hp
  exact Except.ok.inj (hd.symm.trans (UnitType.toAny_eq hc))

theorem unit_of_sub {x y : Quantity u α} {p : AnyQuantity α} (hc : u.terms = .ok c)
    (hp : (sub (quantity x) (quantity y)).evaluateAny = .ok p) :
    p.unit = (Product.mk c.terms).simplify.relative := by
  obtain ⟨q, hq, hp⟩ := bind_eq_ok_iff.1 hp
  obtain ⟨r, -, hp⟩ := bind_eq_ok_iff.1 hp
  obtain ⟨_, -, hp⟩ := bind_eq_ok_iff.1 hp
  rw [← Except.ok.inj hp, ← unit_of_quantity hc hq]

section Exposed

variable {t : NamedType} {m : NamedUnit} {c₁ c₂ : Canonical}
variable (hc : u.terms = .ok c) (ht : t.unit = .ok m) (hm : m ≠ .unitless)
include hc ht hm

theorem weigh_per_base {f : NamedUnit → Multiplicative ℤ} (hf : f .unitless = 1)
    (h : (UnitType.per u (.named t)).terms = .ok c₁) :
    weigh f c₁.terms = weigh f c.terms / f m := by
  obtain ⟨c', hc', h⟩ := bind_eq_ok_iff.1 h
  obtain rfl := Except.ok.inj (hc.symm.trans hc')
  obtain ⟨ct, hct, h⟩ := bind_eq_ok_iff.1 h
  obtain ⟨n, hn, hterms⟩ := NamedType.terms_eq_ok hct
  obtain rfl := Except.ok.inj (hn.symm.trans ht)
  rw [Canonical.weigh_divide hf (fun _ _ => splits_of_group _ _) h,
    Canonical.weigh_single (hterms.resolve_left fun h => hm h.1).2]

theorem weigh_exposed {f : NamedUnit → Multiplicative ℤ} (hf : f .unitless = 1)
    (h : (UnitType.per u.difference (.per u (.named t))).terms = .ok c₂) :
    weigh f c₂.terms =
      weigh (fun v => f v.relative) c.terms / (weigh f c.terms / f m) := by
  obtain ⟨cd, hcd, h⟩ := bind_eq_ok_iff.1 h
  obtain ⟨c₁, hc₁, h⟩ := bind_eq_ok_iff.1 h
  rw [Canonical.weigh_divide hf (fun _ _ => splits_of_group _ _) h,
    UnitType.weigh_difference hf hc hcd, weigh_per_base hc ht hm hf hc₁]

/-- At run time the quotient is the base. -/
theorem unit_of_exposed {x y : Quantity u α} {z : Quantity (.per u (.named t)) α}
    {r : AnyQuantity α} (hnamed : ¬c.asNamed.isSome = true)
    (hr : (exposed x y z).evaluateAny = .ok r) : r.unit = .named m := by
  have hs := UnitType.simplified_terms hc
  obtain ⟨p, hp, hr⟩ := bind_eq_ok_iff.1 hr
  obtain ⟨q, hq, hr⟩ := bind_eq_ok_iff.1 hr
  obtain ⟨w, hw, hr⟩ := bind_eq_ok_iff.1 (liftCalc_eq_ok_iff.1 hr)
  obtain rfl := Except.ok.inj hr
  obtain ⟨c₁, hc₁⟩ : Returns (UnitType.per u (.named t)).terms := by
    obtain ⟨d, hd, -⟩ := bind_eq_ok_iff.1 (liftCalc_eq_ok_iff.1 hq)
    obtain ⟨c₁, hc₁, -⟩ := bind_eq_ok_iff.1 hd
    exact ⟨c₁, hc₁⟩
  have hs₁ := UnitType.simplified_terms hc₁
  have hlive : (Power.mk m 1).isLive = true := AnyUnit.isLive_one.2 hm
  rw [unit_of_sub hc hp, Canonical.relative_simplify hs hnamed, unit_of_quantity hc₁ hq] at hw
  have hnormal := AnyUnit.normal_divide hw
  have halike : Alike w.factors [⟨m, 1⟩] := by
    intro f hf
    rw [AnyUnit.weigh_divide hf AnyUnit.sided_of_group AnyUnit.sided_of_group hw,
      AnyUnit.factors_of_simplified hs, AnyUnit.factors_of_simplified hs₁,
      weigh_per_base hc ht hm hf hc₁, div_div_cancel, weigh_cons, weigh_nil, mul_one]
    exact (zpow_one _).symm
  have hfactors : w.factors = [⟨m, 1⟩] := List.perm_singleton.1
    (halike.perm hnormal.simplified (AnyUnit.simplified_singleton hlive))
  show w = .named m
  rw [← AnyUnit.simplify_factors hnormal, hfactors, AnyUnit.simplify_singleton hlive]
  rfl

end Exposed

/-- At a unit that is not plain, there is an expression whose unit at run time is not equivalent to
its unit type. -/
theorem not_isEquivalent_exposed (hc : u.terms = .ok c) (hplain : ¬c.Plain) :
    ∃ t : NamedType, ∀ (x y : Quantity u α) (z : Quantity (.per u (.named t)) α)
      {r : AnyQuantity α} {a : AnyUnit} {b : Bool}, (exposed x y z).evaluateAny = .ok r →
      (UnitType.per u.difference (.per u (.named t))).toAny = .ok a →
      r.unit.isEquivalent a = .ok b → b = false := by
  obtain ⟨hnamed, hbases⟩ := not_or.1 hplain
  obtain ⟨m, hm, ho⟩ : ∃ m ∈ bases c.terms, m.origin ≠ none := by simpa using hbases
  have hunitless : m ≠ .unitless := fun h0 => ho (h0 ▸ rfl)
  obtain ⟨t, ht⟩ := UnitType.forall_mem_bases_terms (P := fun m => ∃ t : NamedType, t.unit = .ok m)
    (fun h => ⟨_, h⟩) hc m hm
  refine ⟨t, fun x y z r a b hr ha hb => Bool.eq_false_iff.2 fun htrue => ?_⟩
  obtain ⟨c₂, hc₂, ha⟩ := bind_eq_ok_iff.1 ha
  have hs₂ := UnitType.simplified_terms hc₂
  obtain rfl := Except.ok.inj (ha.symm.trans (Canonical.ofCanonical_eq hs₂.merged))
  obtain ⟨-, -, horigin⟩ := (AnyUnit.isEquivalent_iff hb).1 htrue
  rw [unit_of_exposed hc ht hunitless hnamed hr, AnyUnit.origin_simplify,
    ← Canonical.origin_eq hs₂] at horigin
  -- With an origin, the unit type is a bare unit as well, and its base is one that cannot be.
  obtain ⟨o, hmo⟩ := Option.ne_none_iff_exists'.1 ho
  obtain ⟨n, hn, hno⟩ := Canonical.terms_of_origin (horigin.symm.trans hmo)
  refine Canonical.origin_ne (UnitType.simplified_terms hc) hm ho (fun f hf => ?_)
    (hno.trans hmo.symm)
  rw [← Canonical.weigh_single (f := f) hn, weigh_exposed hc ht hunitless hf hc₂]

/-! ## How far the simulation goes -/

/-- Without a fault, an expression whose differences are plain has the same value at run time and a
unit equivalent to its unit type; and at every unit that is not plain, there is an expression with
one difference whose units are not equivalent. -/
theorem evaluateAny_simulates (e : Expression α u) :
    (∀ {q : Quantity u α} {a : AnyUnit}, e.Checked → e.PlainDifferences → e.evaluate = .ok q →
      NoFault e.evaluateAny → u.toAny = .ok a →
      ∃ r, e.evaluateAny = .ok r ∧ r.value = q.value ∧
        ∀ {b}, r.unit.isEquivalent a = .ok b → b = true) ∧
    ∀ {v : UnitType} {c : Canonical}, v.terms = .ok c → ¬c.Plain →
      ∃ t : NamedType, ∀ (x y : Quantity v α) (z : Quantity (.per v (.named t)) α),
        (exposed x y z).Checked ∧
        ∀ {r : AnyQuantity α} {a : AnyUnit} {b : Bool}, (exposed x y z).evaluateAny = .ok r →
          (UnitType.per v.difference (.per v (.named t))).toAny = .ok a →
          r.unit.isEquivalent a = .ok b → b = false := by
  constructor
  · intro q a hchecked hplain hq h ha
    obtain ⟨c, hc, ha⟩ := bind_eq_ok_iff.1 ha
    have hs := UnitType.simplified_terms hc
    obtain rfl := Except.ok.inj (ha.symm.trans (Canonical.ofCanonical_eq hs.merged))
    obtain ⟨r, hr, hcarries⟩ := e.simulated hchecked hplain hq h hc
    exact ⟨r, hr, hcarries.value_eq, hcarries.follows.isEquivalent (AnyUnit.follows_simplify hs)⟩
  · intro v c hc hplain
    obtain ⟨t, ht⟩ := not_isEquivalent_exposed (α := α) hc hplain
    exact ⟨t, fun x y z => ⟨⟨⟨trivial, trivial⟩, trivial⟩, ht x y z⟩⟩

/-- A difference of temperatures times a length keeps its unit at run time; a temperature times a
length is not plain. -/
theorem evaluateAny_simulates_kelvin :
    (∃ (e : Expression Float (.product (UnitType.difference (.named Catalog.kelvin))
        (.named Catalog.meter))) (q : Quantity _ Float) (r : AnyQuantity Float) (a : AnyUnit),
      e = .mul (.sub (.quantity ⟨300⟩) (.quantity ⟨280⟩)) (.quantity ⟨2⟩) ∧
      e.Checked ∧ e.PlainDifferences ∧ e.evaluate = .ok q ∧ e.evaluateAny = .ok r ∧
      r.value = q.value ∧ r.unit.isEquivalent a = .ok true) ∧
    ∃ c, (UnitType.product (.named Catalog.kelvin) (.named Catalog.meter)).terms = .ok c ∧
      ¬c.Plain ∧ ∃ t : NamedType, ∀ x y z : Float,
        (exposed (u := .product (.named Catalog.kelvin) (.named Catalog.meter)) (t := t)
          ⟨x⟩ ⟨y⟩ ⟨z⟩).Checked := by
  constructor
  · let e : Expression Float (.product (UnitType.difference (.named Catalog.kelvin))
      (.named Catalog.meter)) := .mul (.sub (.quantity ⟨300⟩) (.quantity ⟨280⟩)) (.quantity ⟨2⟩)
    have hchecked : e.Checked := ⟨⟨trivial, trivial⟩, trivial⟩
    have hplain : e.PlainDifferences := ⟨⟨⟨_, rfl, .inl rfl⟩, trivial, trivial⟩, trivial⟩
    obtain ⟨q, r, a, b, hq, hr, ha, hb⟩ : ∃ q r a b, e.evaluate = .ok q ∧
        e.evaluateAny = .ok r ∧ UnitType.toAny (.product (UnitType.difference
          (.named Catalog.kelvin)) (.named Catalog.meter)) = .ok a ∧
        r.unit.isEquivalent a = .ok b := ⟨_, _, _, _, rfl, rfl, rfl, rfl⟩
    have hfault : NoFault e.evaluateAny := hr ▸ noFault_ok r
    obtain ⟨r', hr', hvalue, hequivalent⟩ :=
      (evaluateAny_simulates e).1 hchecked hplain hq hfault ha
    obtain rfl := Except.ok.inj (hr.symm.trans hr')
    exact ⟨e, q, r, a, rfl, hchecked, hplain, hq, hr, hvalue, hequivalent hb ▸ hb⟩
  · have hplain : ∃ c, (UnitType.product (.named Catalog.kelvin) (.named Catalog.meter)).terms =
        .ok c ∧ ¬c.Plain := by
      refine ⟨_, rfl, ?_⟩
      rintro (h | h)
      · cases h
      · cases h (.plain "K" .ofTemperature .one (some .zero)) List.mem_cons_self
    obtain ⟨c, hc, hplain⟩ := hplain
    let e : Expression Float (.named Catalog.kelvin) := .quantity ⟨0⟩
    obtain ⟨t, ht⟩ := (evaluateAny_simulates e).2 hc hplain
    exact ⟨c, hc, hplain, t, fun x y z => (ht ⟨x⟩ ⟨y⟩ ⟨z⟩).1⟩

/-- The difference of two products of a temperature and a length, divided by a length: a temperature
at run time, by its unit type a difference of temperatures. -/
theorem evaluateAny_not_isEquivalent :
    ∃ (e : Expression Float (.per (UnitType.difference (.product (.named Catalog.kelvin)
        (.named Catalog.meter))) (.named Catalog.meter)))
      (q : Quantity _ Float) (r : AnyQuantity Float) (a : AnyUnit),
      e = .div (.sub (.quantity ⟨600⟩) (.quantity ⟨580⟩)) (.quantity ⟨2⟩) ∧
      e.Checked ∧ e.evaluate = .ok q ∧ e.evaluateAny = .ok r ∧
      UnitType.toAny (.per (UnitType.difference (.product (.named Catalog.kelvin)
        (.named Catalog.meter))) (.named Catalog.meter)) = .ok a ∧
      r.unit.isEquivalent a = .ok false :=
  ⟨_, _, _, _, rfl, ⟨⟨trivial, trivial⟩, trivial⟩, rfl, rfl, rfl, rfl⟩

end Expression

end Metrology
