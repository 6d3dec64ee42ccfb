import Metrology.Number.Floating
import Metrology.Proofs.AnyUnit.Built
import Metrology.Proofs.Conversion.Difference

/-!
# Absolute quantities at run time

Quantities on an absolute scale are not added, and their difference is on the relative scale. Two
operations fall short of that.

`AnyUnit.relative` takes the origin off a bare named unit and leaves powers and products alone. In
simplest form that is enough, since there only named units are absolute. An absolute unit that is
written as a power or a product (`Disguised`) stays absolute, so differences in it cannot be added
up (`difference_addable_iff`).

`AnyQuantity.fma` asks for equivalent units and no more. It fails where the product plus the third
quantity does, and it returns where that sum is refused because its unit is absolute
(`fma_mulAdd`), which every absolute unit has a case of (`fma_unitless`).
-/

namespace Metrology

/-! ## Absolute units in disguise -/

namespace AnyUnit

variable {u v : AnyUnit}

/-- Whether a unit is an absolute named unit that is written in another way. -/
def Disguised (u : AnyUnit) : Prop :=
  ∃ b : NamedUnit, b.origin ≠ none ∧ u.simplify = .named b ∧ u ≠ .named b

/-- In simplest form, only named units are absolute. -/
theorem Normal.exists_named (hu : u.Normal) (ho : u.origin ≠ none) : ∃ b, u = .named b := by
  cases u with
  | named b => exact ⟨b, rfl⟩
  | power t => exact absurd (origin_relative hu) ho
  | product p => exact absurd (origin_relative hu) ho

/-- An absolute product has one factor, of exponent one. -/
theorem exists_named_of_product {p : Product} (ho : p.origin ≠ none) :
    ∃ b, p.simplify = .named b := by
  unfold Product.origin at ho
  split at ho
  · rename_i t ht
    have hlive : t.isLive = true := (List.mem_filter.1 (ht ▸ List.mem_singleton_self t)).2
    have hone : t.exponent = 1 := by
      by_contra hne
      exact ho (if_neg hne)
    refine ⟨t.base, ?_⟩
    rw [← simplify_filter p.terms, ht, simplify_singleton hlive, if_pos hone]
  · exact absurd rfl ho

/-- The simplest form of an absolute unit is an absolute named unit. -/
theorem exists_named_of_origin (ho : u.origin ≠ none) :
    ∃ b : NamedUnit, b.origin ≠ none ∧ u.simplify = .named b := by
  have hsimplify := ho
  rw [← origin_of_simplify] at hsimplify
  obtain ⟨b, hb⟩ : ∃ b, u.simplify = .named b := by
    cases u with
    | named b => exact ⟨b, rfl⟩
    | power t => exact (normal_simplify_power t).exists_named hsimplify
    | product p => exact exists_named_of_product ho
  rw [hb] at hsimplify
  exact ⟨b, hsimplify, hb⟩

/-- Units that are not written as a named unit are their own relative unit. -/
theorem relative_eq_self (hu : ∀ b, u ≠ .named b) : u.relative = u := by
  cases u with
  | named b => exact absurd rfl (hu b)
  | power t => rfl
  | product p => rfl

/-- The relative unit is absolute when the unit is an absolute one in disguise. -/
theorem isAbsolute_relative_iff : u.relative.isAbsolute = true ↔ u.Disguised := by
  unfold isAbsolute
  rw [Option.isSome_iff_ne_none]
  by_cases hu : ∃ b, u = .named b
  · obtain ⟨b, rfl⟩ := hu
    refine iff_of_false (fun h => h rfl) ?_
    rintro ⟨c, -, hc, hne⟩
    exact hne hc
  · have hne : ∀ b, u ≠ .named b := not_exists.1 hu
    rw [relative_eq_self hne]
    constructor
    · intro ho
      obtain ⟨b, hb, hsimplify⟩ := exists_named_of_origin ho
      exact ⟨b, hb, hsimplify, hne b⟩
    · rintro ⟨b, hb, hsimplify, -⟩
      rw [← origin_of_simplify, hsimplify]
      exact hb

theorem Normal.not_disguised (hu : u.Normal) : ¬u.Disguised := by
  rw [← isAbsolute_relative_iff, isAbsolute, origin_relative hu]
  exact Bool.false_ne_true

/-- Every absolute named unit can be written in disguise. -/
theorem disguised_of_origin {b : NamedUnit} (hb : b.origin ≠ none) :
    (AnyUnit.power ⟨b, 1⟩).Disguised ∧ (AnyUnit.product ⟨[⟨b, 1⟩]⟩).Disguised := by
  have hlive : (Power.mk b 1).isLive = true := by
    rw [isLive_one]
    rintro rfl
    exact hb rfl
  have hproduct : (Product.mk [⟨b, 1⟩]).simplify = .named b := simplify_singleton hlive
  have hpower : (Power.mk b 1).simplify = .named b := simplify_one _ ▸ hproduct
  exact ⟨⟨b, hb, hpower, nofun⟩, b, hb, hproduct, nofun⟩

/-! ## Equivalent units -/

/-- What equivalent units have in common. -/
theorem isEquivalent_eq_true (h : u.isEquivalent v = .ok true) :
    ∃ d m, u.dimension = .ok d ∧ v.dimension = .ok d ∧ u.magnitude = .ok m ∧
      v.magnitude = .ok m ∧ u.origin = v.origin := by
  have hall := h
  obtain ⟨d, hd, h⟩ := bind_eq_ok_iff.1 h
  obtain ⟨e, he, h⟩ := bind_eq_ok_iff.1 h
  split at h
  · cases h
  obtain ⟨m, hm, h⟩ := bind_eq_ok_iff.1 h
  obtain ⟨n, hn, -⟩ := bind_eq_ok_iff.1 h
  obtain ⟨rfl, rfl, ho⟩ := (isEquivalent_eq_true_iff hd he hm hn).1 hall
  exact ⟨d, m, hd, he, hm, hn, ho⟩

theorem isEquivalent_relative_self (h : u.isEquivalent v = .ok true) :
    u.relative.isEquivalent u.relative = .ok true := by
  obtain ⟨d, m, hd, -, hm, -, -⟩ := isEquivalent_eq_true h
  rw [← u.dimension_relative] at hd
  rw [← u.magnitude_relative] at hm
  exact (isEquivalent_eq_true_iff hd hd hm hm).2 ⟨rfl, rfl, rfl⟩

end AnyUnit

/-! ## Sums and differences -/

namespace AnyQuantity

variable {α : Type} {a b c d p r : AnyQuantity α} {u w : AnyUnit}

theorem expectSameUnit_eq_ok_iff :
    a.expectSameUnit b = .ok ⟨⟩ ↔ a.unit.isEquivalent b.unit = .ok true := by
  unfold expectSameUnit
  rcases a.unit.isEquivalent b.unit with fault | _ | _
  · exact ⟨nofun, nofun⟩
  · exact ⟨nofun, nofun⟩
  · exact ⟨fun _ => rfl, fun _ => rfl⟩

section Scalar

variable [Scalar α]

/-- Past the check of the units, only the origin can refuse a sum. -/
theorem add_of_isEquivalent (h : a.unit.isEquivalent b.unit = .ok true) :
    a.add b = if a.unit.isAbsolute then .error (.unit (.absoluteAddition a.unit.name))
      else .ok ⟨a.value + b.value, a.unit⟩ := by
  unfold add
  rw [expectSameUnit_eq_ok_iff.2 h]
  by_cases habs : a.unit.isAbsolute = true
  · rw [if_pos habs, if_pos habs]
    rfl
  · rw [if_neg habs, if_neg habs]
    rfl

theorem sub_eq_ok_iff :
    a.sub b = .ok d ↔ a.unit.isEquivalent b.unit = .ok true ∧
      d = ⟨a.value - b.value, a.unit.relative⟩ := by
  unfold sub
  rw [bind_eq_ok_iff]
  constructor
  · rintro ⟨⟨⟩, hsame, h⟩
    exact ⟨expectSameUnit_eq_ok_iff.1 hsame, (Except.ok.inj h).symm⟩
  · rintro ⟨hsame, rfl⟩
    exact ⟨⟨⟩, expectSameUnit_eq_ok_iff.2 hsame, rfl⟩

/-- A difference is added to itself unless it is absolute. -/
theorem add_self_of_sub (h : a.sub b = .ok d) :
    d.add d = if d.unit.isAbsolute then .error (.unit (.absoluteAddition d.unit.name))
      else .ok ⟨d.value + d.value, d.unit⟩ := by
  obtain ⟨hequivalent, rfl⟩ := sub_eq_ok_iff.1 h
  exact add_of_isEquivalent (AnyUnit.isEquivalent_relative_self hequivalent)

end Scalar

/-- The relative unit measures what the unit does. Where the unit is not in disguise, which holds of
every unit that an operation has simplified, differences are relative and can be added to themselves;
where it is, differences are absolute and cannot. -/
theorem difference_addable_iff (u : AnyUnit) :
    u.relative.dimension = u.dimension ∧ u.relative.magnitude = u.magnitude ∧
    (u.relative.origin = none ↔ ¬u.Disguised) ∧ (u.Settled → ¬u.Disguised) ∧
    ∀ {α : Type} [Scalar α] {x : α} {b d : AnyQuantity α}, (AnyQuantity.mk x u).sub b = .ok d →
      (¬u.Disguised → d.unit.isAbsolute = false ∧ d.add d = .ok ⟨d.value + d.value, d.unit⟩) ∧
      (u.Disguised → d.unit.isAbsolute = true ∧
        d.add d = .error (.unit (.absoluteAddition d.unit.name))) := by
  refine ⟨u.dimension_relative, u.magnitude_relative, ?_, fun hu => hu.normal.not_disguised,
    fun {α} _ {x b d} h => ?_⟩
  · rw [← AnyUnit.isAbsolute_relative_iff]
    exact Option.not_isSome_iff_eq_none.symm
  · obtain ⟨-, rfl⟩ := sub_eq_ok_iff.1 h
    rw [add_self_of_sub h]
    constructor
    · intro hu
      have habs : u.relative.isAbsolute = false :=
        Bool.eq_false_iff.2 (mt AnyUnit.isAbsolute_relative_iff.1 hu)
      exact ⟨habs, if_neg (Bool.eq_false_iff.1 habs)⟩
    · intro hu
      have habs : u.relative.isAbsolute = true := AnyUnit.isAbsolute_relative_iff.2 hu
      exact ⟨habs, if_pos habs⟩

/-- Temperatures are subtracted in kelvins, and in kelvins to the power of one. -/
theorem difference_addable_iff_kelvin :
    ∃ (kelvin : NamedUnit) (u v : AnyUnit) (d e : AnyQuantity Float),
      kelvin = .plain "K" .ofTemperature .one (some .zero) ∧ u = .named kelvin ∧ u.Settled ∧
      v = .power ⟨kelvin, 1⟩ ∧
      (AnyQuantity.mk 300 u).sub ⟨280, u⟩ = .ok d ∧ d.add d = .ok ⟨d.value + d.value, d.unit⟩ ∧
      (AnyQuantity.mk 300 v).sub ⟨280, v⟩ = .ok e ∧
      e.add e = .error (.unit (.absoluteAddition "K")) := by
  have hu : (AnyUnit.named (.plain "K" .ofTemperature .one (some .zero))).Settled := .ofNamed _
  have hv : (AnyUnit.power ⟨.plain "K" .ofTemperature .one (some .zero), 1⟩).Disguised :=
    (AnyUnit.disguised_of_origin (Option.some_ne_none _)).1
  obtain ⟨-, -, -, hsettled, hplain⟩ :=
    difference_addable_iff (.named (.plain "K" .ofTemperature .one (some .zero)))
  obtain ⟨-, -, -, -, hdisguised⟩ :=
    difference_addable_iff (.power ⟨.plain "K" .ofTemperature .one (some .zero), 1⟩)
  have hd : (AnyQuantity.mk 300 (.named (.plain "K" .ofTemperature .one (some .zero)))).sub
      ⟨(280 : Float), .named (.plain "K" .ofTemperature .one (some .zero))⟩ = .ok ⟨_, _⟩ := rfl
  have he : (AnyQuantity.mk 300 (.power ⟨.plain "K" .ofTemperature .one (some .zero), 1⟩)).sub
      ⟨(280 : Float), .power ⟨.plain "K" .ofTemperature .one (some .zero), 1⟩⟩ = .ok ⟨_, _⟩ := rfl
  exact ⟨_, _, _, _, _, rfl, rfl, hu, rfl, hd, ((hplain hd).1 (hsettled hu)).2, he,
    ((hdisguised he).2 hv).2⟩

/-- Kelvins to the power of one keep the origin of the kelvin when a difference is taken, so the
difference cannot be added to itself. -/
theorem relative_absolute_power :
    ∃ (kelvin : NamedUnit) (u : AnyUnit) (a b d : AnyQuantity Float),
      kelvin = .plain "K" .ofTemperature .one (some .zero) ∧ u = .power ⟨kelvin, 1⟩ ∧ u.Built ∧
      a = ⟨300, u⟩ ∧ b = ⟨280, u⟩ ∧ u.relative.origin = some .zero ∧ a.sub b = .ok d ∧
      d.unit.isAbsolute = true ∧ d.add d = .error (.unit (.absoluteAddition "K")) :=
  ⟨_, _, _, _, _, rfl, rfl, .power _, rfl, rfl, rfl, rfl, rfl, rfl⟩

/-! ## Products with a sum -/

/-- The product of two quantities plus a third, rounded twice. -/
def mulAdd [Scalar α] (a b c : AnyQuantity α) : Attempt (AnyQuantity α) := do
  (← a.mul b).add c

/-- The product of two quantities, when its unit is equivalent to that of a third. -/
def mulLike [Scalar α] (a b c : AnyQuantity α) : Attempt (AnyQuantity α) := do
  let p ← a.mul b
  p.expectSameUnit c
  return p

section RealScalar

variable [RealScalar α]

theorem mulAdd_eq (a b c : AnyQuantity α) : a.mulAdd b c = do
    let p ← a.mulLike b c
    if p.unit.isAbsolute then throw (.unit (.absoluteAddition p.unit.name))
    return ⟨p.value + c.value, p.unit⟩ := by
  unfold mulAdd mulLike add
  simp only [bind_assoc, pure_bind]

theorem fma_eq (a b c : AnyQuantity α) : a.fma b c =
    (fun _ => ⟨RealScalar.fma a.value b.value c.value, c.unit⟩) <$> a.mulLike b c := by
  rcases hw : a.unit.multiply b.unit with fault | w
  · have hmul : a.mul b = .error fault := by
      unfold mul
      rw [hw]
      rfl
    unfold fma mulLike
    rw [hw, hmul]
    rfl
  · have hmul : a.mul b = .ok ⟨a.value * b.value, w⟩ := bind_eq_ok_iff.2 ⟨w, hw, rfl⟩
    have hpure : ∀ {β : Type} (x : β), (liftM (Except.ok x : Calc β) : Attempt β) = pure x :=
      fun _ => rfl
    unfold fma mulLike expectSameUnit
    simp only [hw, hmul, hpure, pure_bind]
    rcases w.isEquivalent c.unit with fault | _ | _ <;> rfl

theorem mulLike_eq_ok_iff : a.mulLike b c = .ok p ↔
    ∃ w, a.unit.multiply b.unit = .ok w ∧ w.isEquivalent c.unit = .ok true ∧
      p = ⟨a.value * b.value, w⟩ := by
  unfold mulLike mul
  simp only [bind_eq_ok_iff, liftCalc_eq_ok_iff, pure_eq_ok_iff]
  constructor
  · rintro ⟨_, ⟨w, hw, rfl⟩, ⟨⟩, hsame, rfl⟩
    exact ⟨w, hw, expectSameUnit_eq_ok_iff.1 hsame, rfl⟩
  · rintro ⟨w, hw, hsame, rfl⟩
    exact ⟨_, ⟨w, hw, rfl⟩, ⟨⟩, expectSameUnit_eq_ok_iff.2 hsame, rfl⟩

/-- The checks that fma makes come first in the sum too. -/
theorem mulAdd_of_fma_error {failure : Failure} (h : a.fma b c = .error failure) :
    a.mulAdd b c = .error failure := by
  rw [fma_eq] at h
  rw [mulAdd_eq]
  rcases hp : a.mulLike b c with cause | p
  · rw [hp] at h
    exact h
  · rw [hp] at h
    cases h

/-- Past the checks that fma makes, only the origin can refuse the sum. -/
theorem mulAdd_of_fma (h : a.fma b c = .ok r) :
    ∃ w, a.unit.multiply b.unit = .ok w ∧ w.isEquivalent r.unit = .ok true ∧
      a.mulAdd b c = if r.unit.isAbsolute then .error (.unit (.absoluteAddition w.name))
        else .ok ⟨a.value * b.value + c.value, w⟩ := by
  rw [fma_eq] at h
  obtain ⟨p, hp, rfl⟩ := map_eq_ok_iff.1 h
  obtain ⟨w, hw, hsame, rfl⟩ := mulLike_eq_ok_iff.1 hp
  obtain ⟨-, -, -, -, -, -, ho⟩ := AnyUnit.isEquivalent_eq_true hsame
  have habs : w.isAbsolute = c.unit.isAbsolute := congrArg Option.isSome ho
  refine ⟨w, hw, hsame, ?_⟩
  rw [mulAdd_eq, hp, ← habs]
  show (if w.isAbsolute = true then _ else _) = _
  by_cases hw' : w.isAbsolute = true
  · rw [if_pos hw', if_pos hw']
    rfl
  · rw [if_neg hw', if_neg hw']
    rfl

theorem fma_eq_ok (hw : a.unit.multiply b.unit = .ok w) (h : w.isEquivalent c.unit = .ok true) :
    a.fma b c = .ok ⟨RealScalar.fma a.value b.value c.value, c.unit⟩ := by
  rw [fma_eq, mulLike_eq_ok_iff.2 ⟨w, hw, h, rfl⟩]
  rfl

/-- A unit in simplest form times the unit of pure numbers. -/
theorem multiply_unitless (hu : u.Normal) : u.multiply .unitless = .ok u := by
  have hunitless : AnyUnit.unitless.Normal := trivial
  refine (AnyUnit.multiply_eq_ok_iff hu hunitless).2 ⟨⟨u.factors⟩, ?_, AnyUnit.simplify_factors hu⟩
  exact Product.gather_nil

/-- In every unit, absolute or not, fma takes a quantity times a number plus a quantity. -/
theorem fma_unitless (hu : u.Normal) (hmeasured : u.Measured) (x y z : α) :
    (AnyQuantity.mk x u).fma (unitless y) ⟨z, u⟩ = .ok ⟨RealScalar.fma x y z, u⟩ := by
  obtain ⟨d, m, hd, hm, -⟩ := hmeasured
  have hsame := (AnyUnit.isEquivalent_eq_true_iff hd hd hm hm).2 ⟨rfl, rfl, rfl⟩
  exact fma_eq_ok (multiply_unitless hu) hsame

end RealScalar

/-- Where fma fails, the product plus the third quantity fails in the same way. Where fma returns, the
sum returns in an equivalent unit if the unit is relative, and it is refused if the unit is absolute.
So the two differ exactly where fma returns in an absolute unit. -/
theorem fma_mulAdd {α : Type} [RealScalar α] (a b c : AnyQuantity α) :
    (∀ failure, a.fma b c = .error failure → a.mulAdd b c = .error failure) ∧
    (∀ r, a.fma b c = .ok r → ∃ w, a.unit.multiply b.unit = .ok w ∧
      w.isEquivalent r.unit = .ok true ∧
      a.mulAdd b c = if r.unit.isAbsolute then .error (.unit (.absoluteAddition w.name))
        else .ok ⟨a.value * b.value + c.value, w⟩) ∧
    ((Returns (a.fma b c) ↔ Returns (a.mulAdd b c)) ↔
      ∀ r, a.fma b c = .ok r → r.unit.isAbsolute = false) := by
  refine ⟨fun _ => mulAdd_of_fma_error, fun _ => mulAdd_of_fma, ?_⟩
  rcases hfma : a.fma b c with failure | r
  · rw [mulAdd_of_fma_error hfma]
    exact iff_of_true ⟨nofun, nofun⟩ nofun
  · obtain ⟨w, -, -, hadd⟩ := mulAdd_of_fma hfma
    rw [hadd]
    by_cases habs : r.unit.isAbsolute = true
    · rw [if_pos habs]
      refine iff_of_false (fun h => ?_) fun h => ?_
      · obtain ⟨_, hr⟩ := h.1 ⟨r, rfl⟩
        cases hr
      · exact Bool.false_ne_true ((h r rfl).symm.trans habs)
    · rw [if_neg habs]
      refine iff_of_true ⟨fun _ => ⟨_, rfl⟩, fun _ => ⟨r, rfl⟩⟩ fun s hs => ?_
      exact Except.ok.inj hs ▸ Bool.eq_false_iff.2 habs

/-- Three times 2 kelvins and 5 kelvins, on the relative scale and on the absolute one. -/
theorem fma_mulAdd_kelvin :
    ∃ (degree kelvin : AnyUnit) (r s t : AnyQuantity Float),
      degree = .named (.plain "K" .ofTemperature .one none) ∧
      kelvin = .named (.plain "K" .ofTemperature .one (some .zero)) ∧
      (AnyQuantity.mk (2 : Float) degree).fma (unitless 3) ⟨5, degree⟩ = .ok r ∧
      (AnyQuantity.mk 2 degree).mulAdd (unitless 3) ⟨5, degree⟩ = .ok s ∧
      s.unit.isEquivalent r.unit = .ok true ∧
      (AnyQuantity.mk 2 kelvin).fma (unitless 3) ⟨5, kelvin⟩ = .ok t ∧
      (AnyQuantity.mk (2 : Float) kelvin).mulAdd (unitless 3) ⟨5, kelvin⟩ =
        .error (.unit (.absoluteAddition "K")) := by
  have hone : Ratio.one.value ≠ 0 := Ratio.value_one ▸ one_ne_zero
  have hr := fma_unitless (u := .named (.plain "K" .ofTemperature .one none)) (by trivial)
    ⟨_, .one, rfl, rfl, hone⟩ (2 : Float) 3 5
  have ht := fma_unitless (u := .named (.plain "K" .ofTemperature .one (some .zero))) (by trivial)
    ⟨_, .one, rfl, rfl, hone⟩ (2 : Float) 3 5
  obtain ⟨w, hw, hsame, hs⟩ := (fma_mulAdd _ _ _).2.1 _ hr
  obtain ⟨w', hw', -, hadd⟩ := (fma_mulAdd _ _ _).2.1 _ ht
  obtain rfl : w' = .named (.plain "K" .ofTemperature .one (some .zero)) :=
    (Except.ok.inj hw').symm
  exact ⟨_, _, _, _, _, rfl, rfl, hr, hs, hsame, ht, hadd⟩

/-- In kelvins, fma adds two absolute quantities. -/
theorem fma_absolute :
    ∃ (kelvin : AnyUnit) (a b c r : AnyQuantity Float),
      kelvin = .named (.plain "K" .ofTemperature .one (some .zero)) ∧
      a = ⟨2, kelvin⟩ ∧ b = unitless 3 ∧ c = ⟨5, kelvin⟩ ∧
      a.fma b c = .ok r ∧ r.unit = kelvin ∧ r.unit.isAbsolute = true ∧
      a.mulAdd b c = .error (.unit (.absoluteAddition "K")) :=
  ⟨_, _, _, _, _, rfl, rfl, rfl, rfl, rfl, rfl, rfl, rfl⟩

end AnyQuantity

end Metrology
