import Metrology.Proofs.Dimension.Range
import Metrology.Proofs.Power.Weight
import Metrology.Proofs.Ratio.Range

/-!
# Products of powers in range

A list of powers is multiplied up from the left. `StaysIn` says that each power on its own and each
product of leading powers has a given property, which is when the product of the dimensions and the
product of the magnitudes return (`returns_totalDimension_iff`, `returns_totalMagnitude_iff`). The
whole product is only the last of the leading ones.
-/

namespace Metrology.Power

section StaysIn

variable {M : Type} [DivisionCommMonoid M] {room : M → Prop} {f : NamedUnit → M}
  {terms : List Power} {t : Power}

/-- Whether each power of a list and each product of its leading powers has a property. -/
structure StaysIn (room : M → Prop) (f : NamedUnit → M) (terms : List Power) : Prop where
  power : ∀ t ∈ terms, room (f t.base ^ t.exponent.toInt)
  leading : ∀ part, part <+: terms → room (weigh f part)

theorem StaysIn.weigh (h : StaysIn room f terms) : room (weigh f terms) :=
  h.leading terms (List.prefix_refl terms)

theorem staysIn_singleton_iff (h : room 1) :
    StaysIn room f [t] ↔ room (f t.base ^ t.exponent.toInt) := by
  refine ⟨fun ht => ht.power t (List.mem_singleton_self t), fun ht => ⟨?_, fun part hpart => ?_⟩⟩
  · exact List.forall_mem_singleton.2 ht
  · rcases List.prefix_cons_iff.1 hpart with rfl | ⟨rest, rfl, hrest⟩
    · exact h
    · rwa [List.prefix_nil.1 hrest, weigh_cons, weigh_nil, mul_one]

/-- The factors of a list stay in range when the list does. -/
theorem staysIn_filter_iff (hf : f .unitless = 1) (h : room 1) :
    StaysIn room f (terms.filter isLive) ↔ StaysIn room f terms := by
  constructor
  · rintro ⟨hpower, hleading⟩
    refine ⟨fun t ht => ?_, fun part hpart => ?_⟩
    · by_cases hlive : t.isLive = true
      · exact hpower t (List.mem_filter.2 ⟨ht, hlive⟩)
      · rwa [zpow_of_not_isLive hf hlive]
    · rw [← weigh_filter_isLive hf]
      exact hleading _ (hpart.filter isLive)
  · rintro ⟨hpower, hleading⟩
    refine ⟨fun t ht => hpower t (List.mem_filter.1 ht).1, fun part hpart => ?_⟩
    obtain ⟨whole, hwhole, rfl⟩ := List.prefix_filter_iff.1 hpart
    rw [weigh_filter_isLive hf]
    exact hleading whole hwhole

/-- Whether a measure of powers is exact, and there is room for a product exactly when it returns. -/
structure Bounds {β : Type} (room : M → Prop) (f : NamedUnit → M) (value : β → M)
    (mul : β → β → Calc β) (measure : Power → Calc β) : Prop where
  returns_mul : ∀ {x y}, Returns (mul x y) ↔
    room (value x) ∧ room (value y) ∧ room (value x * value y)
  value_mul : ∀ {x y z}, mul x y = .ok z → value z = value x * value y
  value_measure : ∀ {t y}, measure t = .ok y → value y = f t.base ^ t.exponent.toInt
  room_measure : ∀ {t y}, measure t = .ok y → room (value y)

/-- A product that is built from the left returns when each factor does and there is room for every
product on the way. -/
theorem Bounds.returns_foldlM_iff {β : Type} {value : β → M} {mul : β → β → Calc β}
    {measure : Power → Calc β} (h : Bounds room f value mul measure) {s : β}
    (hs : room (value s)) :
    Returns (terms.foldlM (fun total p => do mul total (← measure p)) s) ↔
      (∀ t ∈ terms, Returns (measure t)) ∧
        ∀ part, part <+: terms → room (value s * Power.weigh f part) := by
  induction terms generalizing s with
  | nil =>
    refine iff_of_true ⟨s, rfl⟩ ⟨List.forall_mem_nil _, fun part hpart => ?_⟩
    rwa [List.prefix_nil.1 hpart, weigh_nil, mul_one]
  | cons t terms ih =>
    have hcons : ∀ {x y}, measure t = .ok y → mul s y = .ok x → ∀ part,
        value x * Power.weigh f part = value s * Power.weigh f (t :: part) := by
      intro x y hy hx part
      rw [weigh_cons, ← h.value_measure hy, h.value_mul hx, mul_assoc]
    rw [List.foldlM_cons, returns_bind_iff, List.forall_mem_cons]
    simp only [bind_eq_ok_iff]
    constructor
    · rintro ⟨x, ⟨y, hy, hx⟩, hrest⟩
      have hx' : room (value x) := h.value_mul hx ▸ (h.returns_mul.1 ⟨x, hx⟩).2.2
      obtain ⟨hterms, hparts⟩ := (ih hx').1 hrest
      refine ⟨⟨⟨y, hy⟩, hterms⟩, fun part hpart => ?_⟩
      rcases List.prefix_cons_iff.1 hpart with rfl | ⟨rest, rfl, hrest⟩
      · rwa [weigh_nil, mul_one]
      · rw [← hcons hy hx]
        exact hparts rest hrest
    · rintro ⟨⟨⟨y, hy⟩, hterms⟩, hparts⟩
      have hfirst := hparts [t] (List.prefix_append [t] terms)
      rw [weigh_cons, weigh_nil, mul_one, ← h.value_measure hy] at hfirst
      obtain ⟨x, hx⟩ := h.returns_mul.2 ⟨hs, h.room_measure hy, hfirst⟩
      refine ⟨x, ⟨y, hy, hx⟩, (ih (h.value_mul hx ▸ hfirst)).2 ⟨hterms, fun rest hrest => ?_⟩⟩
      rw [hcons hy hx]
      exact hparts (t :: rest) (List.prefix_cons_iff.2 (.inr ⟨rest, rfl, hrest⟩))

end StaysIn

variable {terms : List Power} {t : Power}

theorem bounds_dimension :
    Bounds Dimension.Expressible (fun b => b.dimension.value) Dimension.value Dimension.mul
      dimension where
  returns_mul {x y} := by
    rw [Dimension.returns_mul_iff, and_iff_right (Dimension.expressible_value x),
      and_iff_right (Dimension.expressible_value y)]
  value_mul := Dimension.value_mul
  value_measure := Dimension.value_pow
  room_measure _ := Dimension.expressible_value _

theorem bounds_magnitude :
    Bounds Ratio.Representable (fun b => b.magnitude.value) Ratio.value Ratio.mul magnitude where
  returns_mul := Ratio.returns_mul_iff
  value_mul := Ratio.value_mul
  value_measure := Ratio.value_pow
  room_measure {t y} hy := by
    rw [Ratio.value_pow hy]
    exact (Ratio.returns_pow_iff.1 ⟨y, hy⟩).2

/-- Whether the dimension of each power and of each product of leading powers is expressible. -/
def DimensionsInRange (terms : List Power) : Prop :=
  StaysIn Dimension.Expressible (fun b => b.dimension.value) terms

theorem dimensionsInRange_singleton_iff :
    DimensionsInRange [t] ↔
      Dimension.Expressible (t.base.dimension.value ^ t.exponent.toInt) :=
  staysIn_singleton_iff Dimension.expressible_one

theorem dimensionsInRange_filter_iff :
    DimensionsInRange (terms.filter isLive) ↔ DimensionsInRange terms :=
  staysIn_filter_iff Dimension.value_dimensionless Dimension.expressible_one

theorem returns_totalDimension_iff : Returns (totalDimension terms) ↔ DimensionsInRange terms := by
  refine (bounds_dimension.returns_foldlM_iff (Dimension.expressible_value _)).trans ?_
  rw [Dimension.value_dimensionless]
  simp only [one_mul]
  constructor
  · rintro ⟨hpower, hleading⟩
    exact ⟨fun t ht => Dimension.returns_pow_iff.1 (hpower t ht), hleading⟩
  · rintro ⟨hpower, hleading⟩
    exact ⟨fun t ht => Dimension.returns_pow_iff.2 (hpower t ht), hleading⟩

/-- Whether the magnitude of each power and of each product of leading powers is representable. -/
def MagnitudesInRange (terms : List Power) : Prop :=
  StaysIn Ratio.Representable (fun b => b.magnitude.value) terms

theorem magnitudesInRange_singleton_iff :
    MagnitudesInRange [t] ↔ Ratio.Representable (t.base.magnitude.value ^ t.exponent.toInt) :=
  staysIn_singleton_iff Ratio.representable_one

theorem magnitudesInRange_filter_iff :
    MagnitudesInRange (terms.filter isLive) ↔ MagnitudesInRange terms :=
  staysIn_filter_iff Ratio.value_one Ratio.representable_one

/-- Whether no base without a size has a negative exponent. -/
def Divisible (terms : List Power) : Prop :=
  ∀ t ∈ terms, t.exponent.toInt < 0 → t.base.magnitude.value ≠ 0

theorem divisible_filter_iff : Divisible (terms.filter isLive) ↔ Divisible terms := by
  refine ⟨fun h t ht hneg => ?_, fun h t ht => h t (List.mem_filter.1 ht).1⟩
  by_cases hlive : t.isLive = true
  · exact h t (List.mem_filter.2 ⟨ht, hlive⟩) hneg
  · intro hzero
    have hone := zpow_of_not_isLive (f := fun b => b.magnitude.value) Ratio.value_one hlive
    rw [hzero, zero_zpow _ (by omega)] at hone
    exact zero_ne_one hone

theorem returns_totalMagnitude_iff :
    Returns (totalMagnitude terms) ↔ Divisible terms ∧ MagnitudesInRange terms := by
  have hone : Ratio.Representable Ratio.one.value := Ratio.value_one ▸ Ratio.representable_one
  refine (bounds_magnitude.returns_foldlM_iff hone).trans ?_
  rw [Ratio.value_one]
  simp only [one_mul]
  constructor
  · rintro ⟨hpower, hleading⟩
    have hpower := fun t ht => Ratio.returns_pow_iff.1 (hpower t ht)
    exact ⟨fun t ht => (hpower t ht).1, fun t ht => (hpower t ht).2, hleading⟩
  · rintro ⟨hdivisible, hpower, hleading⟩
    exact ⟨fun t ht => Ratio.returns_pow_iff.2 ⟨hdivisible t ht, hpower t ht⟩, hleading⟩

end Metrology.Power
