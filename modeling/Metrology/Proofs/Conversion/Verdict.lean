import Metrology.Proofs.AnyQuantity.Carries
import Metrology.Proofs.Ratio.Overflow

/-!
# The verdict on a conversion

Units that are `Measured` either differ in dimension, or only one of them is absolute, or they
convert unless a number leaves its range (`between_eq`). So to convert is an equivalence of such
units (`convertible_equivalence`). The conversion is the identity exactly between equivalent units
(`isIdentity_iff_isEquivalent`), and between the units of unit types it is the one that is made from
the types (`between_eq_ofTypes`).
-/

namespace Metrology

/-! ## Measured units -/

namespace AnyUnit

variable {u v : AnyUnit} {d e : Dimension} {m n : Ratio}

/-- Whether the dimension and the magnitude of a unit are calculated and the unit has a size. -/
def Measured (u : AnyUnit) : Prop :=
  ∃ d m, u.dimension = .ok d ∧ u.magnitude = .ok m ∧ m.value ≠ 0

/-- Where all measures are calculated, units are equivalent when these are equal. -/
theorem isEquivalent_eq_true_iff (hd : u.dimension = .ok d) (he : v.dimension = .ok e)
    (hm : u.magnitude = .ok m) (hn : v.magnitude = .ok n) :
    u.isEquivalent v = .ok true ↔ d = e ∧ m = n ∧ u.origin = v.origin := by
  unfold isEquivalent
  rw [hd, he, hm, hn]
  show (if d != e then Except.ok false else if m != n then Except.ok false
    else Except.ok (u.origin.sameAs v.origin) : Calc Bool) = .ok true ↔ _
  by_cases hde : d = e
  · by_cases hmn : m = n
    · simp [hde, hmn, Origin.sameAs_iff]
    · simp [hde, hmn]
  · simp [hde]

theorem returns_isEquivalent (hd : Returns u.dimension) (he : Returns v.dimension)
    (hm : Returns u.magnitude) (hn : Returns v.magnitude) : Returns (u.isEquivalent v) := by
  obtain ⟨d, hd⟩ := hd
  obtain ⟨e, he⟩ := he
  obtain ⟨m, hm⟩ := hm
  obtain ⟨n, hn⟩ := hn
  unfold isEquivalent
  rw [hd, he, hm, hn]
  show Returns (if d != e then Except.ok false else if m != n then Except.ok false
    else Except.ok (u.origin.sameAs v.origin) : Calc Bool)
  split
  · exact ⟨false, rfl⟩
  split
  · exact ⟨false, rfl⟩
  · exact ⟨_, rfl⟩

end AnyUnit

namespace Conversion

variable {u v : AnyUnit} {d e : Dimension} {m n : Ratio} {o o' : Origin} {c : Conversion}

/-! ## The three verdicts -/

theorem onlyOverflows_make (hn : n.value ≠ 0) : OnlyOverflows (make m o n o') := by
  have hdiv : ∀ r : Ratio, OnlyOverflows (r.div n) := fun _ => Ratio.onlyOverflows_div hn
  refine (hdiv m).bind fun multiplier _ => ?_
  refine (hdiv o.orZero).bind fun start _ => (hdiv o'.orZero).bind fun newStart _ => ?_
  exact (Ratio.onlyOverflows_sub start newStart).bind fun _ _ => stopsOnly_ok _

/-- Where all measures are calculated, the checks are all that is left to do before a conversion is
made. -/
theorem between_eq (hd : u.dimension = .ok d) (he : v.dimension = .ok e)
    (hm : u.magnitude = .ok m) (hn : v.magnitude = .ok n) :
    between u v =
      if d ≠ e then .error (.unit (.dimensionMismatch u.name v.name))
      else if u.isAbsolute ≠ v.isAbsolute then .error (.unit (.affineMismatch u.name v.name))
      else liftM (make m u.origin n v.origin) := by
  unfold between
  rw [hd, he, hm, hn]
  show (if d != e then _ else if u.isAbsolute != v.isAbsolute then _ else
    liftM (make m u.origin n v.origin) : Attempt Conversion) = _
  simp only [bne_iff_ne]
  rfl

section Measured

variable (hu : u.Measured) (hv : v.Measured)
include hu hv

theorem between_of_dimension_ne (h : u.dimension ≠ v.dimension) :
    between u v = .error (.unit (.dimensionMismatch u.name v.name)) := by
  obtain ⟨d, m, hd, hm, -⟩ := hu
  obtain ⟨e, n, he, hn, -⟩ := hv
  rw [hd, he] at h
  rw [between_eq hd he hm hn, if_pos fun hde => h (congrArg Except.ok hde)]

theorem between_of_isAbsolute_ne (hdim : u.dimension = v.dimension)
    (h : u.isAbsolute ≠ v.isAbsolute) :
    between u v = .error (.unit (.affineMismatch u.name v.name)) := by
  obtain ⟨d, m, hd, hm, -⟩ := hu
  obtain ⟨e, n, -, hn, -⟩ := hv
  rw [between_eq hd (hdim ▸ hd) hm hn, if_neg (not_not.2 rfl), if_pos h]

theorem between_of_compatible (hdim : u.dimension = v.dimension)
    (h : u.isAbsolute = v.isAbsolute) :
    ∃ x : Calc Conversion, between u v = liftM x ∧ OnlyOverflows x := by
  obtain ⟨d, m, hd, hm, -⟩ := hu
  obtain ⟨e, n, -, hn, hn0⟩ := hv
  refine ⟨make m u.origin n v.origin, ?_, onlyOverflows_make hn0⟩
  rw [between_eq hd (hdim ▸ hd) hm hn, if_neg (not_not.2 rfl), if_neg (not_not.2 h)]

theorem between_eq_dimensionMismatch_iff :
    between u v = .error (.unit (.dimensionMismatch u.name v.name)) ↔
      u.dimension ≠ v.dimension := by
  refine ⟨fun h hdim => ?_, between_of_dimension_ne hu hv⟩
  by_cases habs : u.isAbsolute = v.isAbsolute
  · obtain ⟨x, hx, -⟩ := between_of_compatible hu hv hdim habs
    exact liftCalc_ne_refusal (hx.symm.trans h)
  · rw [between_of_isAbsolute_ne hu hv hdim habs] at h
    cases h

theorem between_eq_affineMismatch_iff (hdim : u.dimension = v.dimension) :
    between u v = .error (.unit (.affineMismatch u.name v.name)) ↔
      u.isAbsolute ≠ v.isAbsolute := by
  refine ⟨fun h habs => ?_, between_of_isAbsolute_ne hu hv hdim⟩
  obtain ⟨x, hx, -⟩ := between_of_compatible hu hv hdim habs
  exact liftCalc_ne_refusal (hx.symm.trans h)

theorem returns_or_overflows_between (hdim : u.dimension = v.dimension)
    (habs : u.isAbsolute = v.isAbsolute) : Returns (between u v) ∨ Overflows (between u v) := by
  obtain ⟨x, hx, hoverflow⟩ := between_of_compatible hu hv hdim habs
  rw [hx]
  exact hoverflow.returns_or_overflows

end Measured

/-! ## Convertible units -/

/-- Whether a conversion between two units is not refused. -/
def Convertible (u v : AnyUnit) : Prop := ∀ e, between u v ≠ .error (.unit e)

theorem convertible_iff (hu : u.Measured) (hv : v.Measured) :
    Convertible u v ↔ u.dimension = v.dimension ∧ u.isAbsolute = v.isAbsolute := by
  constructor
  · intro h
    have hdim : u.dimension = v.dimension := by
      by_contra hdim
      exact h _ (between_of_dimension_ne hu hv hdim)
    refine ⟨hdim, ?_⟩
    by_contra habs
    exact h _ (between_of_isAbsolute_ne hu hv hdim habs)
  · rintro ⟨hdim, habs⟩ e h
    obtain ⟨x, hx, -⟩ := between_of_compatible hu hv hdim habs
    exact liftCalc_ne_refusal (hx.symm.trans h)

theorem convertible_equivalence :
    Equivalence fun u v : {u : AnyUnit // u.Measured} => Convertible u.1 v.1 where
  refl u := (convertible_iff u.2 u.2).2 ⟨rfl, rfl⟩
  symm {u v} h := by
    obtain ⟨hdim, habs⟩ := (convertible_iff u.2 v.2).1 h
    exact (convertible_iff v.2 u.2).2 ⟨hdim.symm, habs.symm⟩
  trans {u v w} huv hvw := by
    obtain ⟨hdim, habs⟩ := (convertible_iff u.2 v.2).1 huv
    obtain ⟨hdim', habs'⟩ := (convertible_iff v.2 w.2).1 hvw
    exact (convertible_iff u.2 w.2).2 ⟨hdim.trans hdim', habs.trans habs'⟩

/-! ## The identity -/

/-- A conversion is the identity between scales of one magnitude and one zero. -/
theorem isIdentity_iff (h : make m o n o' = .ok c) :
    c.isIdentity = true ↔ m = n ∧ o.orZero = o'.orZero := by
  have hn := target_ne_zero h
  unfold isIdentity
  rw [Bool.and_eq_true, Ratio.sameAs_iff, Ratio.isZero_iff, ← Ratio.value_inj, value_multiplier h,
    value_offset h, Ratio.value_one, div_eq_one_iff_eq hn, div_eq_zero_iff, or_iff_left hn,
    sub_eq_zero, Ratio.value_inj, Ratio.value_inj]

/-- Between absolute scales, and between relative ones, the zero decides the origin. -/
theorem orZero_inj (h : o.isSome = o'.isSome) : o.orZero = o'.orZero ↔ o = o' := by
  rcases o with _ | r <;> rcases o' with _ | r'
  · exact iff_of_true rfl rfl
  · exact absurd h Bool.false_ne_true
  · exact absurd h.symm Bool.false_ne_true
  · exact (Option.some_inj).symm

theorem isIdentity_iff_isEquivalent (hu : u.Measured) (hv : v.Measured)
    (h : between u v = .ok c) : c.isIdentity = true ↔ u.isEquivalent v = .ok true := by
  obtain ⟨d, m, hd, hm, -⟩ := hu
  obtain ⟨e, n, he, hn, -⟩ := hv
  rw [between_eq hd he hm hn] at h
  split at h
  · cases h
  rename_i hde
  split at h
  · cases h
  rename_i habs
  rw [AnyUnit.isEquivalent_eq_true_iff hd he hm hn, and_iff_right (not_not.1 hde),
    isIdentity_iff (liftCalc_eq_ok_iff.1 h), orZero_inj (not_not.1 habs)]

/-- Conversion to an equivalent unit leaves the value alone, unless a number leaves its range. -/
theorem convert_of_isEquivalent {α : Type} [Scalar α] (x : α) (hu : u.Measured) (hv : v.Measured)
    (h : u.isEquivalent v = .ok true) :
    (AnyQuantity.mk x u).convert v = .ok ⟨x, v⟩ ∨ Overflows ((AnyQuantity.mk x u).convert v) := by
  obtain ⟨d, m, hd, hm, -⟩ := hu
  obtain ⟨e, n, he, hn, hn0⟩ := hv
  obtain ⟨hde, rfl, horigin⟩ := (AnyUnit.isEquivalent_eq_true_iff hd he hm hn).1 h
  have habs : u.isAbsolute = v.isAbsolute := congrArg Option.isSome horigin
  have hbetween := between_eq hd he hm hn
  rw [if_neg (not_not.2 hde), if_neg (not_not.2 habs), ← horigin] at hbetween
  unfold AnyQuantity.convert
  rw [hbetween]
  refine (onlyOverflows_make hn0).eq_or_overflows fun hc => ?_
  rw [apply_of_same hc]
  rfl

/-! ## Unit types -/

section Types

variable {s t : UnitType} {a b : AnyUnit}

theorem returns_terms (h : s.isConvertible t = .ok true) : Returns s.terms ∧ Returns t.terms := by
  obtain ⟨d, o, o', hds, hdt, hos, hot, -⟩ := UnitType.isConvertible_eq_true h
  exact ⟨UnitType.returns_terms hds hos, UnitType.returns_terms hdt hot⟩

/-- Where the measures of the unit at run time are calculated, they are those of its unit type. -/
theorem measures_toAny (hd : s.dimension = .ok d) (hm : s.magnitude = .ok m)
    (ho : s.origin = .ok o) (ha : s.toAny = .ok a) (hda : Returns a.dimension)
    (hma : Returns a.magnitude) : a.dimension = .ok d ∧ a.magnitude = .ok m ∧ a.origin = o := by
  obtain ⟨c, hc⟩ := UnitType.returns_terms hd ho
  obtain rfl := Except.ok.inj ((UnitType.toAny_eq hc).symm.trans ha)
  have hfollows := AnyUnit.follows_simplify (UnitType.simplified_terms hc)
  obtain ⟨x, hx⟩ := hda
  obtain ⟨p, hp⟩ := hma
  obtain rfl := hfollows.dimension_eq hc hx hd
  obtain rfl := hfollows.magnitude_eq hc hp hm
  exact ⟨hx, hp, hfollows.origin_eq_of_terms hc ho⟩

/-- Units of unit types that convert are converted as the types are. -/
theorem between_eq_ofTypes (h : s.isConvertible t = .ok true) (hm : s.magnitude = .ok m)
    (hn : t.magnitude = .ok n) (ha : s.toAny = .ok a) (hb : t.toAny = .ok b)
    (hda : Returns a.dimension) (hma : Returns a.magnitude) (hdb : Returns b.dimension)
    (hmb : Returns b.magnitude) :
    ∃ o o', s.origin = .ok o ∧ t.origin = .ok o' ∧ ofTypes s t = make m o n o' ∧
      between a b = (liftM (make m o n o') : Attempt Conversion) := by
  obtain ⟨d, o, o', hds, hdt, hos, hot, hsome⟩ := UnitType.isConvertible_eq_true h
  obtain ⟨hx, hp, rfl⟩ := measures_toAny hds hm hos ha hda hma
  obtain ⟨hy, hq, rfl⟩ := measures_toAny hdt hn hot hb hdb hmb
  have habs : a.isAbsolute = b.isAbsolute := hsome
  refine ⟨_, _, hos, hot, ?_, ?_⟩
  · unfold ofTypes
    rw [hm, hos, hn, hot]
    rfl
  · rw [between_eq hx hy hp hq, if_neg (not_not.2 rfl), if_neg (not_not.2 habs)]

variable {α : Type} [Scalar α] {q : Quantity s α} {r : Quantity t α}

/-- Conversion by way of units known at run time. -/
def convertAny (q : Quantity s α) (t : UnitType) : Attempt (Quantity t α) := do
  Quantity.ofAny (← q.toAny) t

/-- The fast path of a conversion copies the value. -/
theorem convert_of_isEqual (h : s.isEqual t = .ok true) : q.convert t = .ok ⟨q.value⟩ := by
  unfold Quantity.convert
  rw [h]
  rfl

/-- Conversion by way of units at run time gives the value that conversion by unit types gives, also
where that takes the fast path, unless a number leaves its range. -/
theorem convertAny_eq_convert (h : s.isConvertible t = .ok true) (ha : s.toAny = .ok a)
    (hb : t.toAny = .ok b) (hda : Returns a.dimension) (hma : Returns a.magnitude)
    (hdb : Returns b.dimension) (hmb : Returns b.magnitude) (hr : q.convert t = .ok r) :
    convertAny q t = .ok r ∨ Overflows (convertAny q t) := by
  obtain ⟨m, o, n, o', hm, hos, hn, hot, hvalue⟩ := Quantity.value_convert hr
  obtain ⟨p, p', hp, hp', -, hbetween⟩ := between_eq_ofTypes h hm hn ha hb hda hma hdb hmb
  obtain rfl := Except.ok.inj (hp.symm.trans hos)
  obtain rfl := Except.ok.inj (hp'.symm.trans hot)
  have hdynamic : convertAny q t = liftM (make m p n p') >>= fun c => pure ⟨c.apply q.value⟩ := by
    rw [← hbetween]
    unfold convertAny Quantity.toAny Quantity.ofAny
    rw [ha, hb]
    rfl
  obtain ⟨-, c, hc⟩ := returns_terms h
  have hn0 : n.value ≠ 0 := UnitType.magnitude_ne_zero hc hn
  rw [hdynamic]
  refine (onlyOverflows_make hn0).eq_or_overflows fun hc => ?_
  rw [← hvalue hc]
  rfl

end Types

/-! ## All verdicts -/

/-- What becomes of a conversion between measured units, when it is the identity, and that units of
unit types convert as their types do. -/
theorem conversion_verdict :
    (∀ {u v : AnyUnit}, u.Measured → v.Measured →
      (between u v = .error (.unit (.dimensionMismatch u.name v.name)) ↔
        u.dimension ≠ v.dimension) ∧
      (u.dimension = v.dimension →
        (between u v = .error (.unit (.affineMismatch u.name v.name)) ↔
          u.isAbsolute ≠ v.isAbsolute)) ∧
      (u.dimension = v.dimension → u.isAbsolute = v.isAbsolute →
        Returns (between u v) ∨ Overflows (between u v)) ∧
      (∀ {c}, between u v = .ok c → (c.isIdentity = true ↔ u.isEquivalent v = .ok true)) ∧
      ∀ {α : Type} [Scalar α] (x : α), u.isEquivalent v = .ok true →
        (AnyQuantity.mk x u).convert v = .ok ⟨x, v⟩ ∨
          Overflows ((AnyQuantity.mk x u).convert v)) ∧
    (Equivalence fun u v : {u : AnyUnit // u.Measured} => Convertible u.1 v.1) ∧
    ∀ {s t : UnitType}, s.isConvertible t = .ok true → Returns s.magnitude → Returns t.magnitude →
      ∃ a b, s.toAny = .ok a ∧ t.toAny = .ok b ∧
        (Returns a.dimension → Returns a.magnitude → Returns b.dimension → Returns b.magnitude →
          between a b = (liftM (ofTypes s t) : Attempt Conversion) ∧
          ∀ {α : Type} [Scalar α] (q : Quantity s α),
            (s.isEqual t = .ok true → q.convert t = .ok ⟨q.value⟩) ∧
            ∀ {r}, q.convert t = .ok r →
              convertAny q t = .ok r ∨ Overflows (convertAny q t)) := by
  refine ⟨fun hu hv => ⟨?_, ?_, ?_, ?_, ?_⟩, convertible_equivalence, fun h hm hn => ?_⟩
  · exact between_eq_dimensionMismatch_iff hu hv
  · exact between_eq_affineMismatch_iff hu hv
  · exact returns_or_overflows_between hu hv
  · exact isIdentity_iff_isEquivalent hu hv
  · exact fun x => convert_of_isEquivalent x hu hv
  · obtain ⟨m, hm⟩ := hm
    obtain ⟨n, hn⟩ := hn
    obtain ⟨⟨c, hc⟩, c', hc'⟩ := returns_terms h
    have ha := UnitType.toAny_eq hc
    have hb := UnitType.toAny_eq hc'
    refine ⟨_, _, ha, hb, fun hda hma hdb hmb => ⟨?_, fun q => ⟨convert_of_isEqual, ?_⟩⟩⟩
    · obtain ⟨o, o', -, -, htypes, hbetween⟩ := between_eq_ofTypes h hm hn ha hb hda hma hdb hmb
      rw [htypes, hbetween]
    · exact convertAny_eq_convert h ha hb hda hma hdb hmb

/-- Degrees Celsius convert to kelvins, not by the identity, and not to differences of kelvins. -/
theorem conversion_verdict_temperature :
    ∃ (celsius kelvin degree : AnyUnit) (c : Conversion),
      (UnitType.named Catalog.celsius).toAny = .ok celsius ∧
      (UnitType.named Catalog.kelvin).toAny = .ok kelvin ∧ degree = kelvin.relative ∧
      celsius.Measured ∧ kelvin.Measured ∧ degree.Measured ∧
      between celsius kelvin = .ok c ∧ c.isIdentity = false ∧
      celsius.isEquivalent kelvin ≠ .ok true ∧
      between celsius degree = .error (.unit (.affineMismatch celsius.name degree.name)) ∧
      (UnitType.named Catalog.celsius).isConvertible (.named Catalog.kelvin) = .ok true ∧
      between celsius kelvin = (liftM (ofTypes (.named Catalog.celsius) (.named Catalog.kelvin)) :
        Attempt Conversion) := by
  have hone : Ratio.one.value ≠ 0 := Ratio.value_one ▸ one_ne_zero
  have hconvertible :
      (UnitType.named Catalog.celsius).isConvertible (.named Catalog.kelvin) = .ok true := rfl
  obtain ⟨hverdict, -, htypes⟩ := conversion_verdict
  obtain ⟨celsius, kelvin, ha, hb, hbetween⟩ := htypes hconvertible ⟨.one, rfl⟩ ⟨.one, rfl⟩
  have hcelsius : celsius = .named (.plain "°C" .ofTemperature .one (some (.mk 5463 20))) :=
    (Except.ok.inj ha).symm
  have hkelvin : kelvin = .named (.plain "K" .ofTemperature .one (some .zero)) :=
    (Except.ok.inj hb).symm
  have hu : celsius.Measured := by
    subst hcelsius
    exact ⟨_, .one, rfl, rfl, hone⟩
  have hv : kelvin.Measured := by
    subst hkelvin
    exact ⟨_, .one, rfl, rfl, hone⟩
  have hw : kelvin.relative.Measured := by
    subst hkelvin
    exact ⟨_, .one, rfl, rfl, hone⟩
  have hc : between celsius kelvin = .ok ⟨.one, .mk 5463 20⟩ := by
    subst hcelsius hkelvin
    rfl
  obtain ⟨-, -, -, hidentity, -⟩ := hverdict hu hv
  obtain ⟨-, haffine, -⟩ := hverdict hu hw
  refine ⟨celsius, kelvin, kelvin.relative, _, ha, hb, rfl, hu, hv, hw, hc, rfl, ?_, ?_,
    hconvertible, ?_⟩
  · exact mt (hidentity hc).2 Bool.false_ne_true
  · refine (haffine ?_).2 ?_
    · subst hcelsius hkelvin
      rfl
    · subst hcelsius hkelvin
      decide
  · obtain ⟨d, m, hd, hm, -⟩ := hu
    obtain ⟨e, n, he, hn, -⟩ := hv
    exact (hbetween ⟨d, hd⟩ ⟨m, hm⟩ ⟨e, he⟩ ⟨n, hn⟩).1

end Conversion

end Metrology
