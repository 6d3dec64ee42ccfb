import Metrology.Proofs.AnyUnit.Overflow
import Metrology.Proofs.Conversion.Exact
import Metrology.Proofs.Conversion.Verdict

/-!
# Amounts

A quantity in a linear unit is an amount in base units, with its dimension (`physical`). Conversion
keeps both, products and quotients of quantities multiply and divide them, and with the unit given
they determine the quantity. So it makes no difference in which units two quantities are multiplied
or divided (`arithmetic_unit_free`), except for the numbers that can leave their range on the way.
-/

namespace Metrology

open Power

/-- An amount in base units, with its dimension. -/
abbrev Physical := ℚ × Multiplicative (Fin 7 → ℤ)

/-- A pure number as an amount. -/
def Physical.number (x : ℚ) : Physical := (x, 1)

theorem Physical.number_mul (x y : ℚ) : number (x * y) = number x * number y :=
  Prod.ext rfl (mul_one _).symm

theorem Physical.number_div (x y : ℚ) : number (x / y) = number x / number y :=
  Prod.ext rfl (div_one _).symm

/-! ## Linear units -/

namespace AnyUnit

variable {u v w : AnyUnit}

/-- Whether no base of a unit has an origin, and each has a size. -/
def Linear (u : AnyUnit) : Prop := ∀ b ∈ bases u.powers, b.origin = none ∧ b.magnitude.value ≠ 0

/-- What one unit is in base units. -/
def physical (u : AnyUnit) : Physical :=
  (weigh (fun b => b.magnitude.value) u.factors, weigh (fun b => b.dimension.value) u.factors)

theorem linear_named {b : NamedUnit} (horigin : b.origin = none) (hsize : b.magnitude.num ≠ 0) :
    (AnyUnit.named b).Linear := fun _ hb =>
  List.mem_singleton.1 hb ▸ ⟨horigin, mt Ratio.value_eq_zero_iff.1 hsize⟩

theorem Linear.origin_eq (hu : u.Linear) : u.origin = none := by
  cases u with
  | named b => exact (hu b (List.mem_singleton_self b)).1
  | power t =>
    show (if t.exponent = 1 then t.base.origin else none) = none
    rw [(hu t.base (List.mem_singleton_self _)).1, ite_self]
  | product p =>
    show p.origin = none
    unfold Product.origin
    split
    · rename_i t ht
      have hmem : t ∈ p.terms.filter isLive := ht ▸ List.mem_singleton_self t
      rw [(hu t.base (mem_bases.2 ⟨t, (List.mem_filter.1 hmem).1, rfl⟩)).1, ite_self]
    · rfl

theorem Linear.size_ne_zero (hu : u.Linear) : u.physical.1 ≠ 0 := by
  show weigh (fun b => b.magnitude.value) u.factors ≠ 0
  rw [weigh_factors Ratio.value_one]
  exact weigh_ne_zero fun b hb => (hu b hb).2

theorem Linear.sided (hu : u.Linear) (k : ℤ) : u.Sided (fun b => b.magnitude.value) k :=
  fun t ht => .inl (splits_of_ne_zero (hu t.base (mem_bases.2 ⟨t, ht, rfl⟩)).2)

theorem Linear.onlyOverflows_magnitude (hu : u.Linear) : OnlyOverflows u.magnitude :=
  AnyUnit.onlyOverflows_magnitude fun b hb => (hu b hb).2

/-! ### Composition -/

theorem linear_of_gather {prepare : Power → Calc Power} {k : ℤ} {p q : Product}
    (hk : Product.Scales prepare k) (hu : u.Linear) (hv : v.Linear)
    (hp : Product.gather pure .empty u.powers = .ok p)
    (hq : Product.gather prepare p v.powers = .ok q) : q.simplify.Linear :=
  forall_mem_bases_of_gather hk ⟨rfl, Ratio.value_one ▸ one_ne_zero⟩ hu hv hp hq

theorem Linear.multiply (hu : u.Linear) (hv : v.Linear) (h : u.multiply v = .ok w) :
    w.Linear := by
  obtain ⟨p, q, hp, hq, rfl⟩ := gather_of_multiply h
  exact linear_of_gather Product.scales_pure hu hv hp hq

theorem Linear.divide (hu : u.Linear) (hv : v.Linear) (h : u.divide v = .ok w) :
    w.Linear := by
  obtain ⟨p, q, hp, hq, rfl⟩ := gather_of_divide h
  exact linear_of_gather Product.scales_negated hu hv hp hq

theorem physical_multiply (hu : u.Linear) (hv : v.Linear) (h : u.multiply v = .ok w) :
    w.physical = u.physical * v.physical := by
  apply Prod.ext
  · exact weigh_multiply Ratio.value_one (hu.sided 1) (hv.sided 1) h
  · exact weigh_multiply (f := fun b => b.dimension.value) Dimension.value_dimensionless
      sided_of_group sided_of_group h

theorem physical_divide (hu : u.Linear) (hv : v.Linear) (h : u.divide v = .ok w) :
    w.physical = u.physical / v.physical := by
  apply Prod.ext
  · exact weigh_divide Ratio.value_one (hu.sided 1) (hv.sided (-1)) h
  · exact weigh_divide (f := fun b => b.dimension.value) Dimension.value_dimensionless
      sided_of_group sided_of_group h

end AnyUnit

/-! ## Amounts of quantities -/

namespace AnyQuantity

variable {a b c p q r s : AnyQuantity Exact} {u v w : AnyUnit}

/-- What a quantity is in base units. -/
def physical (q : AnyQuantity Exact) : Physical := .number q.value.value * q.unit.physical

theorem eq_of_physical (hunit : q.unit = s.unit) (hlinear : q.unit.Linear)
    (h : q.physical = s.physical) : q = s := by
  obtain ⟨⟨x⟩, u⟩ := q
  obtain ⟨⟨y⟩, v⟩ := s
  obtain rfl : u = v := hunit
  obtain rfl : x = y := mul_right_cancel₀ hlinear.size_ne_zero (congrArg Prod.fst h)
  rfl

/-! ### Arithmetic -/

theorem linear_mul (ha : a.unit.Linear) (hb : b.unit.Linear) (h : a.mul b = .ok c) :
    c.unit.Linear := by
  obtain ⟨w, hw, h⟩ := bind_eq_ok_iff.1 h
  exact Except.ok.inj h ▸ ha.multiply hb hw

theorem linear_div (ha : a.unit.Linear) (hb : b.unit.Linear) (h : a.div b = .ok c) :
    c.unit.Linear := by
  obtain ⟨w, hw, h⟩ := bind_eq_ok_iff.1 h
  exact Except.ok.inj h ▸ ha.divide hb hw

theorem physical_mul (ha : a.unit.Linear) (hb : b.unit.Linear) (h : a.mul b = .ok c) :
    c.physical = a.physical * b.physical := by
  obtain ⟨w, hw, h⟩ := bind_eq_ok_iff.1 h
  obtain rfl := Except.ok.inj h
  show Physical.number (a.value.value * b.value.value) * w.physical = _
  rw [Physical.number_mul, AnyUnit.physical_multiply ha hb hw, mul_mul_mul_comm]
  rfl

theorem physical_div (ha : a.unit.Linear) (hb : b.unit.Linear) (h : a.div b = .ok c) :
    c.physical = a.physical / b.physical := by
  obtain ⟨w, hw, h⟩ := bind_eq_ok_iff.1 h
  obtain rfl := Except.ok.inj h
  show Physical.number (a.value.value / b.value.value) * w.physical = _
  rw [Physical.number_div, AnyUnit.physical_divide ha hb hw, div_mul_div_comm]
  rfl

/-! ### Conversion -/

/-- A conversion keeps the amount and the dimension, and has measured the unit it ends in. -/
theorem physical_convert (hq : q.unit.Linear) (hu : u.Linear) (h : q.convert u = .ok s) :
    s.unit = u ∧ s.physical = q.physical ∧ Returns u.dimension := by
  obtain ⟨c, hc, h⟩ := bind_eq_ok_iff.1 h
  obtain rfl := Except.ok.inj h
  obtain ⟨d, m, n, hd, he, -, hm, hn, hmake⟩ := Conversion.between_eq_ok_iff.1 hc
  refine ⟨rfl, Prod.ext ?_ ?_, d, he⟩
  · have hplace := Conversion.place_affine hmake q.value.value
    rw [hq.origin_eq, hu.origin_eq, ← Conversion.value_apply] at hplace
    have h := add_right_cancel hplace
    rwa [AnyUnit.value_magnitude hm, AnyUnit.value_magnitude hn] at h
  · have hdimension := (AnyUnit.value_dimension he).symm.trans (AnyUnit.value_dimension hd)
    exact congrArg (1 * ·) hdimension

/-- A quantity converts to the quantity of another unit that stands for the same, unless a number
leaves its range. -/
theorem convert_of_physical (hq : q.unit.Linear) (hs : s.unit.Linear)
    (h : q.physical = s.physical) (hd : Returns s.unit.dimension) :
    q.convert s.unit = .ok s ∨ Overflows (q.convert s.unit) := by
  obtain ⟨e, he⟩ := hd
  rcases hd : q.unit.dimension with fault | d
  · refine .inr ⟨fault, AnyUnit.onlyOverflows_dimension q.unit fault hd, ?_⟩
    unfold convert Conversion.between
    rw [hd]
    rfl
  obtain rfl : d = e := by
    rw [← Dimension.value_inj, AnyUnit.value_dimension hd, AnyUnit.value_dimension he]
    exact mul_left_cancel (congrArg Prod.snd h)
  have habs : q.unit.isAbsolute = s.unit.isAbsolute := by
    rw [AnyUnit.isAbsolute, AnyUnit.isAbsolute, hq.origin_eq, hs.origin_eq]
  have hbetween := Conversion.between_of_dimension_eq hd he habs
  have honly : OnlyOverflows (do
      Conversion.make (← q.unit.magnitude) q.unit.origin (← s.unit.magnitude) s.unit.origin) := by
    refine hq.onlyOverflows_magnitude.bind fun m _ => ?_
    refine hs.onlyOverflows_magnitude.bind fun n hn => Conversion.onlyOverflows_make ?_
    rw [AnyUnit.value_magnitude hn]
    exact hs.size_ne_zero
  unfold convert
  rw [hbetween]
  refine honly.eq_or_overflows fun {c} hc => congrArg Except.ok ?_
  rw [hc] at hbetween
  obtain ⟨-, hphysical, -⟩ := physical_convert hq hs (bind_eq_ok_iff.2 ⟨c, hbetween, rfl⟩)
  exact eq_of_physical rfl hs (hphysical.trans h)

/-! ## Arithmetic in other units -/

/-- Whether an operation gives a quantity, unless an exponent or another number leaves its range. -/
def Yields (x : Attempt (AnyQuantity Exact)) (s : AnyQuantity Exact) : Prop :=
  x = .ok s ∨ ∃ fault : Fault, (fault.isOverflow = true ∨ fault.IsExponent) ∧
    x = .error (.fault fault)

theorem yields_of_physical {x : Calc (AnyQuantity Exact)} (hx : StopsOnly Fault.IsExponent x)
    (hs : s.unit.Linear) (hd : Returns s.unit.dimension)
    (hr : ∀ {r}, x = .ok r → r.unit.Linear ∧ r.physical = s.physical) :
    Yields (do (← x).convert s.unit) s := by
  rcases hresult : x with fault | r
  · exact .inr ⟨fault, .inr (hx fault hresult), rfl⟩
  obtain ⟨hlinear, hphysical⟩ := hr hresult
  rcases convert_of_physical hlinear hs hphysical hd with h | ⟨fault, hfault, h⟩
  · exact .inl h
  · exact .inr ⟨fault, .inl hfault, h⟩

/-- Quantities in linear units can be multiplied and divided in other units, and the result converts
to the same quantity. -/
theorem arithmetic_unit_free (ha : a.unit.Linear) (hb : b.unit.Linear) (hu : u.Linear)
    (hv : v.Linear) (hw : w.Linear) (hp : a.convert u = .ok p) (hq : b.convert v = .ok q) :
    (∀ {s}, (do (← a.mul b).convert w : Attempt (AnyQuantity Exact)) = .ok s →
      Yields (do (← p.mul q).convert w) s) ∧
    ∀ {s}, (do (← a.div b).convert w : Attempt (AnyQuantity Exact)) = .ok s →
      Yields (do (← p.div q).convert w) s := by
  obtain ⟨rfl, hpa, -⟩ := physical_convert ha hu hp
  obtain ⟨rfl, hqb, -⟩ := physical_convert hb hv hq
  refine ⟨fun {s} h => ?_, fun {s} h => ?_⟩
  · obtain ⟨c, hc, h⟩ := bind_eq_ok_iff.1 h
    have hc := liftCalc_eq_ok_iff.1 hc
    obtain ⟨rfl, hphysical, hd⟩ := physical_convert (linear_mul ha hb hc) hw h
    refine yields_of_physical ?_ hw hd fun hr => ⟨linear_mul hu hv hr, ?_⟩
    · exact (AnyUnit.stopsOnly_multiply _ _).bind fun _ _ => stopsOnly_ok _
    · rw [hphysical, physical_mul hu hv hr, physical_mul ha hb hc, hpa, hqb]
  · obtain ⟨c, hc, h⟩ := bind_eq_ok_iff.1 h
    have hc := liftCalc_eq_ok_iff.1 hc
    obtain ⟨rfl, hphysical, hd⟩ := physical_convert (linear_div ha hb hc) hw h
    refine yields_of_physical ?_ hw hd fun hr => ⟨linear_div hu hv hr, ?_⟩
    · exact (AnyUnit.stopsOnly_divide _ _).bind fun _ _ => stopsOnly_ok _
    · rw [hphysical, physical_div hu hv hr, physical_div ha hb hc, hpa, hqb]

/-- Thirty feet in two minutes are three inches a second, calculated in inches and seconds as well. -/
theorem arithmetic_unit_free_speed :
    ∃ (foot inch minute second : NamedUnit) (a b p q s : AnyQuantity Exact) (w : AnyUnit),
      foot = .plain "ft" .ofLength (.mk 381 1250) none ∧
      inch = .plain "in" .ofLength (.mk 127 5000) none ∧
      minute = .plain "min" .ofTime (.ofInt 60) none ∧ second = .plain "s" .ofTime .one none ∧
      a = ⟨⟨30⟩, .named foot⟩ ∧ b = ⟨⟨2⟩, .named minute⟩ ∧
      w = .product ⟨[⟨inch, 1⟩, ⟨second, -1⟩]⟩ ∧
      a.convert (.named inch) = .ok p ∧ p.value = ⟨360⟩ ∧
      b.convert (.named second) = .ok q ∧ q.value = ⟨120⟩ ∧
      (do (← a.div b).convert w : Attempt (AnyQuantity Exact)) = .ok s ∧ s.value = ⟨3⟩ ∧
      Yields (do (← p.div q).convert w) s := by
  obtain ⟨foot, hfoot⟩ : ∃ u, u = NamedUnit.plain "ft" .ofLength (.mk 381 1250) none := ⟨_, rfl⟩
  obtain ⟨inch, hinch⟩ : ∃ u, u = NamedUnit.plain "in" .ofLength (.mk 127 5000) none := ⟨_, rfl⟩
  obtain ⟨minute, hminute⟩ : ∃ u, u = NamedUnit.plain "min" .ofTime (.ofInt 60) none := ⟨_, rfl⟩
  obtain ⟨second, hsecond⟩ : ∃ u, u = NamedUnit.plain "s" .ofTime .one none := ⟨_, rfl⟩
  obtain ⟨a, ha⟩ : ∃ q, q = AnyQuantity.mk (⟨30⟩ : Exact) (.named foot) := ⟨_, rfl⟩
  obtain ⟨b, hb⟩ : ∃ q, q = AnyQuantity.mk (⟨2⟩ : Exact) (.named minute) := ⟨_, rfl⟩
  obtain ⟨w, hw⟩ : ∃ w, w = AnyUnit.product ⟨[⟨inch, 1⟩, ⟨second, -1⟩]⟩ := ⟨_, rfl⟩
  have hinches : (⟨30⟩ * Ratio.toScalar (.mk 12 1) : Exact) = ⟨360⟩ := by decide +kernel
  have hseconds : (⟨2⟩ * Ratio.toScalar (.mk 60 1) : Exact) = ⟨120⟩ := by decide +kernel
  have hspeed : (⟨30⟩ / ⟨2⟩ * Ratio.toScalar (.mk 1 5) : Exact) = ⟨3⟩ := by decide +kernel
  have hp : a.convert (.named inch) = .ok ⟨⟨360⟩, .named inch⟩ := by
    subst ha hfoot hinch
    exact hinches ▸ rfl
  have hq : b.convert (.named second) = .ok ⟨⟨120⟩, .named second⟩ := by
    subst hb hminute hsecond
    exact hseconds ▸ rfl
  have hdiv : (AnyUnit.named inch).divide (.named second) = .ok w := by
    subst hw hinch hsecond
    rfl
  have hs : (do (← a.div b).convert w : Attempt (AnyQuantity Exact)) = .ok ⟨⟨3⟩, w⟩ := by
    subst ha hb hw hfoot hinch hminute hsecond
    exact hspeed ▸ rfl
  have hlinear : (AnyUnit.named foot).Linear ∧ (AnyUnit.named inch).Linear ∧
      (AnyUnit.named minute).Linear ∧ (AnyUnit.named second).Linear := by
    subst hfoot hinch hminute hsecond
    refine ⟨?_, ?_, ?_, ?_⟩ <;> exact AnyUnit.linear_named rfl (by decide)
  obtain ⟨hfootl, hinchl, hminutel, hsecondl⟩ := hlinear
  obtain ⟨-, hdivide⟩ := arithmetic_unit_free (a := a) (b := b) (ha ▸ hfootl) (hb ▸ hminutel)
    hinchl hsecondl (hinchl.divide hsecondl hdiv) hp hq
  exact ⟨foot, inch, minute, second, a, b, _, _, _, w, hfoot, hinch, hminute, hsecond, ha, hb, hw,
    hp, rfl, hq, rfl, hs, rfl, hdivide hs⟩

end AnyQuantity

end Metrology
