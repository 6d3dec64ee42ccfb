import Metrology.Proofs.Conversion.Exact
import Metrology.Proofs.UnitType.Relative

/-!
# Conversion of differences

Between relative scales a conversion keeps the multiplier and has no offset (`make_relative`), and it
is made whenever the conversion between the scales with origins is. So over exact payloads it does
not matter whether two quantities are converted first or subtracted first, neither at run time nor by
unit types (`convert_sub_comm`).
-/

namespace Metrology

/-! ## Relative scales -/

namespace Conversion

variable {m n : Ratio} {o o' : Origin} {c : Conversion} {u v : AnyUnit}

theorem make_relative (h : make m o n o' = .ok c) :
    make m none n none = .ok ⟨c.multiplier, .zero⟩ := by
  obtain ⟨multiplier, hm, h⟩ := bind_eq_ok_iff.1 h
  obtain ⟨start, -, h⟩ := bind_eq_ok_iff.1 h
  obtain ⟨newStart, -, h⟩ := bind_eq_ok_iff.1 h
  obtain ⟨offset, -, h⟩ := bind_eq_ok_iff.1 h
  obtain rfl := Except.ok.inj h
  have hzero : (Origin.orZero none).div n = .ok .zero := Ratio.zero_div hm
  unfold make
  rw [hm, hzero]
  rfl

/-- Offsets cancel out. -/
theorem apply_sub (c : Conversion) (x y : Exact) :
    c.apply x - c.apply y = (Conversion.mk c.multiplier .zero).apply (x - y) := by
  apply Exact.ext
  rw [Exact.value_sub, value_apply, value_apply, value_apply, Exact.value_sub]
  unfold affine
  rw [Ratio.value_zero]
  ring

theorem between_relative (hu : u.Normal) (hv : v.Normal) (h : between u v = .ok c) :
    between u.relative v.relative = .ok ⟨c.multiplier, .zero⟩ := by
  obtain ⟨d, m, n, hd, he, -, hm, hn, hmake⟩ := between_eq_ok_iff.1 h
  rw [between_eq_ok_iff, u.dimension_relative, v.dimension_relative, u.magnitude_relative,
    v.magnitude_relative, AnyUnit.isAbsolute, AnyUnit.isAbsolute, AnyUnit.origin_relative hu,
    AnyUnit.origin_relative hv]
  exact ⟨d, m, n, hd, he, rfl, hm, hn, make_relative hmake⟩

end Conversion

/-! ## Quantities at run time -/

namespace AnyQuantity

variable {α : Type} [Scalar α] {u v : AnyUnit} {c : Conversion}

theorem convert_of_between (h : Conversion.between u v = .ok c) (x : α) :
    (AnyQuantity.mk x u).convert v = .ok ⟨c.apply x, v⟩ :=
  bind_eq_ok_iff.2 ⟨c, h, rfl⟩

/-- Quantities of one unit are subtracted once the unit is measured. -/
theorem sub_of_returns (hd : Returns u.dimension) (hm : Returns u.magnitude) (x y : α) :
    (AnyQuantity.mk x u).sub (.mk y u) = .ok ⟨x - y, u.relative⟩ := by
  obtain ⟨d, hd⟩ := hd
  obtain ⟨m, hm⟩ := hm
  have hsame : u.isEquivalent u = .ok true :=
    (AnyUnit.isEquivalent_eq_true_iff hd hd hm hm).2 ⟨rfl, rfl, rfl⟩
  unfold sub expectSameUnit
  rw [hsame]
  rfl

end AnyQuantity

/-! ## Unit types -/

namespace UnitType

variable {s t u v : UnitType}

/-- Whether the dimension, the magnitude and the origin of a unit type are calculated. -/
structure Evaluates (u : UnitType) : Prop where
  dimension : Returns u.dimension
  magnitude : Returns u.magnitude
  origin : Returns u.origin

theorem returns_isEqual (hu : u.Evaluates) (hv : v.Evaluates) : Returns (u.isEqual v) := by
  obtain ⟨⟨d, hd⟩, ⟨m, hm⟩, ⟨o, ho⟩⟩ := hu
  obtain ⟨⟨e, he⟩, ⟨n, hn⟩, ⟨o', ho'⟩⟩ := hv
  unfold isEqual
  rw [hd, he, hm, hn, ho, ho']
  show Returns (if !d.sameAs e then Except.ok false else if !m.sameAs n then Except.ok false
    else Except.ok (Origin.sameAs o o') : Calc Bool)
  split
  · exact ⟨false, rfl⟩
  split
  · exact ⟨false, rfl⟩
  · exact ⟨_, rfl⟩

theorem isConvertible_difference (hs : s.difference.Evaluates) (ht : t.difference.Evaluates)
    (h : s.isConvertible t = .ok true) : s.difference.isConvertible t.difference = .ok true := by
  obtain ⟨d, o, o', hds, hdt, -, -, -⟩ := isConvertible_eq_true h
  obtain ⟨⟨x, hx⟩, -, ⟨p, hp⟩⟩ := hs
  obtain ⟨⟨y, hy⟩, -, ⟨q, hq⟩⟩ := ht
  obtain rfl := agree_dimension_difference s hx hds
  obtain rfl := agree_dimension_difference t hy hdt
  obtain rfl := origin_difference hp
  obtain rfl := origin_difference hq
  have hsame : (!y.sameAs y) = false := by simp [Dimension.sameAs_iff]
  unfold isConvertible isAbsolute
  rw [hx, hy, hp, hq]
  show (if !y.sameAs y then Except.ok false else Except.ok true : Calc Bool) = .ok true
  rw [hsame]
  rfl

/-- Unit types that convert are evaluated when the conversion is made. -/
theorem evaluates_of_ofTypes {c : Conversion} (h : s.isConvertible t = .ok true)
    (hc : Conversion.ofTypes s t = .ok c) : s.Evaluates ∧ t.Evaluates := by
  obtain ⟨d, o, o', hds, hdt, hos, hot, -⟩ := isConvertible_eq_true h
  obtain ⟨m, hm, hc⟩ := bind_eq_ok_iff.1 hc
  obtain ⟨_, -, hc⟩ := bind_eq_ok_iff.1 hc
  obtain ⟨n, hn, -⟩ := bind_eq_ok_iff.1 hc
  exact ⟨⟨⟨d, hds⟩, ⟨m, hm⟩, ⟨o, hos⟩⟩, ⟨d, hdt⟩, ⟨n, hn⟩, ⟨o', hot⟩⟩

theorem ofTypes_difference {c : Conversion} (hs : s.difference.Evaluates)
    (ht : t.difference.Evaluates) (hc : Conversion.ofTypes s t = .ok c) :
    Conversion.ofTypes s.difference t.difference = .ok ⟨c.multiplier, .zero⟩ := by
  obtain ⟨-, ⟨m', hm'⟩, ⟨p, hp⟩⟩ := hs
  obtain ⟨-, ⟨n', hn'⟩, ⟨q, hq⟩⟩ := ht
  obtain ⟨m, hm, hc⟩ := bind_eq_ok_iff.1 hc
  obtain ⟨o, -, hc⟩ := bind_eq_ok_iff.1 hc
  obtain ⟨n, hn, hc⟩ := bind_eq_ok_iff.1 hc
  obtain ⟨o', -, hc⟩ := bind_eq_ok_iff.1 hc
  obtain rfl := agree_magnitude_difference s hm' hm
  obtain rfl := agree_magnitude_difference t hn' hn
  obtain rfl := origin_difference hp
  obtain rfl := origin_difference hq
  unfold Conversion.ofTypes
  rw [hm', hp, hn', hq]
  exact Conversion.make_relative hc

end UnitType

namespace Quantity

variable {α : Type} [Scalar α] {u v : UnitType} {c : Conversion}

/-- Conversion by unit types is that of the conversion between them, on the fast path as well. -/
theorem convert_of_ofTypes (hu : u.Evaluates) (hv : v.Evaluates)
    (h : Conversion.ofTypes u v = .ok c) (q : Quantity u α) :
    q.convert v = .ok ⟨c.apply q.value⟩ := by
  obtain ⟨same, hsame⟩ := UnitType.returns_isEqual hu hv
  cases same with
  | true =>
    obtain ⟨d, m, o, -, -, hmu, hmv, hou, hov⟩ := UnitType.isEqual_eq_true hsame
    rw [Conversion.ofTypes, hmu, hou, hmv, hov] at h
    rw [Conversion.convert_of_isEqual hsame, Conversion.apply_of_same h]
  | false =>
    unfold convert
    rw [hsame, h]
    rfl

end Quantity

/-! ## Converting and subtracting -/

namespace Conversion

/-- Converting two quantities and subtracting them is subtracting them and converting the difference,
between units at run time and between unit types. -/
theorem convert_sub_comm :
    (∀ {u v : AnyUnit} {c : Conversion}, u.Normal → v.Normal → between u v = .ok c →
      ∃ d : Conversion, between u.relative v.relative = .ok d ∧ d.multiplier = c.multiplier ∧
        d.offset = .zero ∧ ∀ x y : Exact, c.apply x - c.apply y = d.apply (x - y) ∧
          (do (← (AnyQuantity.mk x u).convert v).sub (← (AnyQuantity.mk y u).convert v)) =
            .ok ⟨c.apply x - c.apply y, v.relative⟩ ∧
          (do (← (AnyQuantity.mk x u).sub (.mk y u)).convert v.relative) =
            .ok ⟨c.apply x - c.apply y, v.relative⟩) ∧
    ∀ {s t : UnitType} {c : Conversion}, s.isConvertible t = .ok true → ofTypes s t = .ok c →
      s.difference.Evaluates → t.difference.Evaluates →
      ∃ d : Conversion, s.difference.isConvertible t.difference = .ok true ∧
        ofTypes s.difference t.difference = .ok d ∧ d.multiplier = c.multiplier ∧
        d.offset = .zero ∧ ∀ x y : Quantity s Exact,
          c.apply x.value - c.apply y.value = d.apply (x.value - y.value) ∧
          (do return (← x.convert t).sub (← y.convert t) : Calc (Quantity t.difference Exact)) =
            .ok ⟨c.apply x.value - c.apply y.value⟩ ∧
          (x.sub y).convert t.difference = .ok ⟨c.apply x.value - c.apply y.value⟩ := by
  refine ⟨fun {u v c} hu hv h => ?_, fun {s t c} h hc hs ht => ?_⟩
  · obtain ⟨d, m, n, hd, he, -, hm, hn, -⟩ := between_eq_ok_iff.1 h
    have hrelative := between_relative hu hv h
    refine ⟨_, hrelative, rfl, rfl, fun x y => ⟨apply_sub c x y, ?_, ?_⟩⟩
    · rw [AnyQuantity.convert_of_between h, AnyQuantity.convert_of_between h]
      exact AnyQuantity.sub_of_returns ⟨d, he⟩ ⟨n, hn⟩ _ _
    · rw [AnyQuantity.sub_of_returns ⟨d, hd⟩ ⟨m, hm⟩, apply_sub]
      exact AnyQuantity.convert_of_between hrelative _
  · obtain ⟨hsource, htarget⟩ := UnitType.evaluates_of_ofTypes h hc
    have hdifference := UnitType.ofTypes_difference hs ht hc
    refine ⟨_, UnitType.isConvertible_difference hs ht h, hdifference, rfl, rfl,
      fun x y => ⟨apply_sub c _ _, ?_, ?_⟩⟩
    · rw [Quantity.convert_of_ofTypes hsource htarget hc,
        Quantity.convert_of_ofTypes hsource htarget hc]
      rfl
    · rw [Quantity.convert_of_ofTypes hs ht hdifference, apply_sub]
      rfl

/-- From 10 to 25 degrees Celsius it is as far in degrees Fahrenheit before as after the conversion,
which has an offset between the scales and none between the differences. -/
theorem convert_sub_comm_temperature :
    ∃ (u v : AnyUnit) (s t : UnitType) (c d e : Conversion) (x y : Exact),
      u = .named (.plain "°C" .ofTemperature .one (some (.mk 5463 20))) ∧
      v = .named (.plain "°F" .ofTemperature (.mk 5 9) (some (.mk 45967 180))) ∧
      s = .named Catalog.celsius ∧ t = .named Catalog.fahrenheit ∧ x = ⟨25⟩ ∧ y = ⟨10⟩ ∧
      between u v = .ok c ∧ c = ⟨.mk 9 5, .mk 32 1⟩ ∧
      between u.relative v.relative = .ok d ∧ d.offset = .zero ∧
      (do (← (AnyQuantity.mk x u).convert v).sub (← (AnyQuantity.mk y u).convert v)) =
        .ok ⟨c.apply x - c.apply y, v.relative⟩ ∧
      (do (← (AnyQuantity.mk x u).sub (.mk y u)).convert v.relative) =
        .ok ⟨c.apply x - c.apply y, v.relative⟩ ∧
      s.isConvertible t = .ok true ∧ ofTypes s t = .ok c ∧
      ofTypes s.difference t.difference = .ok e ∧ e.offset = .zero ∧
      ((⟨x⟩ : Quantity s Exact).sub ⟨y⟩).convert t.difference =
        .ok ⟨c.apply x - c.apply y⟩ := by
  obtain ⟨hunits, htypes⟩ := convert_sub_comm
  have hc : between (.named (.plain "°C" .ofTemperature .one (some (.mk 5463 20))))
      (.named (.plain "°F" .ofTemperature (.mk 5 9) (some (.mk 45967 180)))) =
      .ok ⟨.mk 9 5, .mk 32 1⟩ := rfl
  have hconvertible : (UnitType.named Catalog.celsius).isConvertible
      (.named Catalog.fahrenheit) = .ok true := rfl
  have htypesc : ofTypes (.named Catalog.celsius) (.named Catalog.fahrenheit) =
      .ok ⟨.mk 9 5, .mk 32 1⟩ := rfl
  obtain ⟨d, hd, -, hoffset, hcomm⟩ := hunits (by trivial) (by trivial) hc
  obtain ⟨e, -, he, -, heoffset, hcomme⟩ := htypes hconvertible htypesc
    ⟨⟨_, rfl⟩, ⟨_, rfl⟩, ⟨_, rfl⟩⟩ ⟨⟨_, rfl⟩, ⟨_, rfl⟩, ⟨_, rfl⟩⟩
  obtain ⟨-, hconverted, hsubtracted⟩ := hcomm ⟨25⟩ ⟨10⟩
  obtain ⟨-, -, hstatic⟩ := hcomme ⟨⟨25⟩⟩ ⟨⟨10⟩⟩
  exact ⟨_, _, _, _, _, d, e, _, _, rfl, rfl, rfl, rfl, rfl, rfl, hc, rfl, hd, hoffset,
    hconverted, hsubtracted, hconvertible, htypesc, he, heoffset, hstatic⟩

end Conversion

end Metrology
