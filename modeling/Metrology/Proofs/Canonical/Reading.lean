import Metrology.Proofs.AnyUnit.Simplify

/-!
# Canonical products read as units

A canonical product can hold terms of exponent zero. Read as a unit it becomes the simplest unit with
its factors, and simplified it keeps its factors, so that both have the dimension and the magnitude
that the product has (`dimension_simplify_eq_ok_iff`, `magnitude_simplify_eq_ok_iff`). The origin is
taken from the terms as they stand. It is the origin of the unit unless the product is `Encumbered`: an
absolute named unit together with terms of exponent zero (`origin_eq_simplify_iff`).
-/

namespace Metrology

open Power

namespace Power

variable {terms : List Power} {d : Dimension} {r : Ratio}

theorem totalDimension_filter_eq_ok_iff :
    totalDimension (terms.filter isLive) = .ok d ↔ totalDimension terms = .ok d := by
  have hagree : Agree (totalDimension (terms.filter isLive)) (totalDimension terms) := by
    refine agree_of_value Dimension.value_inj.1 value_totalDimension fun h => ?_
    rw [value_totalDimension h, weigh_filter_isLive Dimension.value_dimensionless]
  refine hagree.eq_ok_iff ?_
  rw [returns_totalDimension_iff, returns_totalDimension_iff, dimensionsInRange_filter_iff]

theorem totalMagnitude_filter_eq_ok_iff :
    totalMagnitude (terms.filter isLive) = .ok r ↔ totalMagnitude terms = .ok r := by
  have hagree : Agree (totalMagnitude (terms.filter isLive)) (totalMagnitude terms) := by
    refine agree_of_value Ratio.value_inj.1 value_totalMagnitude fun h => ?_
    rw [value_totalMagnitude h, weigh_filter_isLive Ratio.value_one]
  refine hagree.eq_ok_iff ?_
  rw [returns_totalMagnitude_iff, returns_totalMagnitude_iff, divisible_filter_iff,
    magnitudesInRange_filter_iff]

end Power

namespace Canonical

variable {c : Canonical} {u : AnyUnit} {d : Dimension} {r : Ratio}

/-! ## Dimension and magnitude -/

theorem dimension_simplify_eq_ok_iff : c.simplify.dimension = .ok d ↔ c.dimension = .ok d := by
  unfold Canonical.dimension
  rw [terms_simplify, totalDimension_filter_eq_ok_iff]

theorem magnitude_simplify_eq_ok_iff : c.simplify.magnitude = .ok r ↔ c.magnitude = .ok r := by
  unfold Canonical.magnitude
  rw [terms_simplify, totalMagnitude_filter_eq_ok_iff]

theorem dimension_of_ofCanonical (hc : Merged c.terms) (hu : AnyUnit.ofCanonical c = .ok u)
    (hd : c.dimension = .ok d) : u.dimension = .ok d := by
  obtain rfl := Except.ok.inj ((ofCanonical_eq hc).symm.trans hu)
  exact AnyUnit.dimension_simplify (u := .product ⟨c.terms⟩) hd

theorem magnitude_of_ofCanonical (hc : Merged c.terms) (hu : AnyUnit.ofCanonical c = .ok u)
    (hr : c.magnitude = .ok r) : u.magnitude = .ok r := by
  obtain rfl := Except.ok.inj ((ofCanonical_eq hc).symm.trans hu)
  exact AnyUnit.magnitude_simplify (u := .product ⟨c.terms⟩) hr

/-! ## Origin -/

/-- Whether a product is an absolute named unit together with terms of exponent zero. -/
def Encumbered (c : Canonical) : Prop :=
  ∃ b : NamedUnit, b.origin ≠ none ∧ c.terms.filter isLive = [⟨b, 1⟩] ∧ c.terms ≠ [⟨b, 1⟩]

theorem origin_ne_none_iff :
    c.origin ≠ none ↔ ∃ b : NamedUnit, b.origin ≠ none ∧ c.terms = [⟨b, 1⟩] := by
  unfold Canonical.origin
  constructor
  · intro h
    obtain ⟨o, ho⟩ := Option.ne_none_iff_exists'.1 h
    obtain ⟨b, hb, ho⟩ := Option.bind_eq_some_iff.1 ho
    exact ⟨b, Option.ne_none_iff_exists'.2 ⟨o, ho⟩, asNamed_eq_some_iff.1 hb⟩
  · rintro ⟨b, hb, hterms⟩
    rw [asNamed_eq_some_iff.2 hterms]
    exact hb

theorem origin_simplify_ne_none_iff :
    c.simplify.origin ≠ none ↔
      ∃ b : NamedUnit, b.origin ≠ none ∧ c.terms.filter isLive = [⟨b, 1⟩] := by
  rw [origin_ne_none_iff, terms_simplify]

theorem origin_of_ofCanonical (hc : Merged c.terms) (hu : AnyUnit.ofCanonical c = .ok u) :
    u.origin = c.simplify.origin := by
  obtain rfl := Except.ok.inj ((ofCanonical_eq hc).symm.trans hu)
  rw [origin_eq (simplified_simplify hc), terms_simplify, ← AnyUnit.origin_simplify,
    AnyUnit.simplify_filter]

/-- An encumbered product has no origin, and what it is simplified to has one. -/
theorem Encumbered.origin_eq_none (h : c.Encumbered) : c.origin = none := by
  obtain ⟨b, -, hfilter, hne⟩ := h
  by_contra ho
  obtain ⟨b', hb', hterms⟩ := origin_ne_none_iff.1 ho
  have hproper : b' ≠ .unitless := by
    rintro rfl
    exact hb' rfl
  rw [hterms, List.filter_cons_of_pos (AnyUnit.isLive_one.2 hproper)] at hfilter
  exact hne (hterms.trans hfilter)

theorem Encumbered.origin_simplify_ne_none (h : c.Encumbered) : c.simplify.origin ≠ none := by
  obtain ⟨b, hb, hfilter, -⟩ := h
  exact origin_simplify_ne_none_iff.2 ⟨b, hb, hfilter⟩

theorem Settled.not_encumbered (hc : c.Settled) : ¬c.Encumbered := by
  rintro ⟨b, -, hfilter, hne⟩
  exact hne (hc.simplified.filter_eq ▸ hfilter)

theorem origin_eq_simplify_iff : c.origin = c.simplify.origin ↔ ¬c.Encumbered := by
  constructor
  · intro h hencumbered
    exact hencumbered.origin_simplify_ne_none (h ▸ hencumbered.origin_eq_none)
  · intro h
    by_cases ho : c.simplify.origin = none
    · rw [ho]
      by_contra hne
      obtain ⟨b, hb, hterms⟩ := origin_ne_none_iff.1 hne
      have hproper : b ≠ .unitless := fun hu => hb (hu ▸ rfl)
      refine origin_simplify_ne_none_iff.2 ⟨b, hb, ?_⟩ ho
      rw [hterms]
      exact AnyUnit.factors_named hproper
    · obtain ⟨b, hb, hfilter⟩ := origin_simplify_ne_none_iff.1 ho
      have hterms : c.terms = [⟨b, 1⟩] := by
        by_contra hne
        exact h ⟨b, hb, hfilter, hne⟩
      unfold Canonical.origin
      rw [asNamed_eq_some_iff.2 hterms,
        asNamed_eq_some_iff.2 ((terms_simplify c).trans hfilter)]

/-! ## Reading -/

/-- Every canonical product that a run of operations arrives at is read as a unit with the origin of
the simplified product, and both have the dimension and the magnitude of the product wherever it has
them. They have its origin as well unless the product is encumbered, which no simplified one is. An
encumbered product has no origin. -/
theorem reading_preserves (hc : c.Built) :
    ∃ u, AnyUnit.ofCanonical c = .ok u ∧
      (∀ {d : Dimension}, c.dimension = .ok d →
        c.simplify.dimension = .ok d ∧ u.dimension = .ok d) ∧
      (∀ {r : Ratio}, c.magnitude = .ok r →
        c.simplify.magnitude = .ok r ∧ u.magnitude = .ok r) ∧
      u.origin = c.simplify.origin ∧ (c.origin = c.simplify.origin ↔ ¬c.Encumbered) ∧
      (c.Settled → ¬c.Encumbered) ∧
      (c.Encumbered → c.origin = none ∧ c.simplify.origin ≠ none) := by
  have hmerged := hc.merged
  have hu := ofCanonical_eq hmerged
  refine ⟨_, hu, fun hd => ⟨?_, ?_⟩, fun hr => ⟨?_, ?_⟩, ?_⟩
  · exact dimension_simplify_eq_ok_iff.2 hd
  · exact dimension_of_ofCanonical hmerged hu hd
  · exact magnitude_simplify_eq_ok_iff.2 hr
  · exact magnitude_of_ofCanonical hmerged hu hr
  · exact ⟨origin_of_ofCanonical hmerged hu, origin_eq_simplify_iff, Settled.not_encumbered,
      fun h => ⟨h.origin_eq_none, h.origin_simplify_ne_none⟩⟩

/-- A kilometre with a second of exponent zero. -/
theorem reading_preserves_kilometer :
    ∃ (kilometer second : NamedUnit) (a c : Canonical) (u : AnyUnit),
      kilometer = .plain "km" .ofLength (.ofInt 1000) none ∧
      second = .plain "s" .ofTime .one none ∧
      ofNamed kilometer = .ok a ∧ a.multiplyWith second 0 = .ok c ∧ c.Built ∧
      c.terms = [⟨kilometer, 1⟩, ⟨second, 0⟩] ∧ AnyUnit.ofCanonical c = .ok u ∧
      c.dimension = .ok .ofLength ∧ c.simplify.dimension = .ok .ofLength ∧
      u.dimension = .ok .ofLength ∧ c.magnitude = .ok (.ofInt 1000) ∧
      c.simplify.magnitude = .ok (.ofInt 1000) ∧ u.magnitude = .ok (.ofInt 1000) ∧
      ¬c.Encumbered ∧ c.origin = c.simplify.origin ∧ u.origin = c.simplify.origin := by
  obtain ⟨a, c, ha, hc⟩ : ∃ a c, ofNamed (.plain "km" .ofLength (.ofInt 1000) none) = .ok a ∧
      a.multiplyWith (.plain "s" .ofTime .one none) 0 = .ok c := ⟨_, _, rfl, rfl⟩
  have hbuilt : c.Built := .multiplyWith (.ofNamed ha) hc
  obtain ⟨u, hu, hdimension, hmagnitude, horigin, hencumbered, -⟩ := reading_preserves hbuilt
  have hterms : c.terms = [⟨.plain "km" .ofLength (.ofInt 1000) none, 1⟩,
      ⟨.plain "s" .ofTime .one none, 0⟩] := by
    obtain rfl := Except.ok.inj ha
    obtain rfl := Except.ok.inj hc
    rfl
  have hd : c.dimension = .ok .ofLength := by
    unfold Canonical.dimension
    rw [hterms]
    rfl
  have hr : c.magnitude = .ok (.ofInt 1000) := by
    unfold Canonical.magnitude
    rw [hterms]
    rfl
  have hfree : ¬c.Encumbered := by
    rintro ⟨b, hb, hfilter, -⟩
    rw [hterms] at hfilter
    obtain ⟨rfl, -⟩ := Power.mk.inj (List.cons.inj hfilter).1
    exact hb rfl
  exact ⟨_, _, a, c, u, rfl, rfl, ha, hc, hbuilt, hterms, hu, hd, (hdimension hd).1,
    (hdimension hd).2, hr, (hmagnitude hr).1, (hmagnitude hr).2, hfree, hencumbered.2 hfree, horigin⟩

/-- Absolute kelvins with a second of exponent zero: the product has no origin, what it is simplified
to and what it is read as have one. -/
theorem origin_lost_kelvin :
    ∃ (kelvin second : NamedUnit) (a c : Canonical) (u : AnyUnit),
      kelvin = .plain "K" .ofTemperature .one (some .zero) ∧
      second = .plain "s" .ofTime .one none ∧
      ofNamed kelvin = .ok a ∧ a.multiplyWith second 0 = .ok c ∧ c.Built ∧
      AnyUnit.ofCanonical c = .ok u ∧ c.origin = none ∧ c.simplify.origin = some .zero ∧
      u.origin = some .zero ∧
      ¬∀ {d : Canonical}, d.Built → d.origin = d.simplify.origin := by
  obtain ⟨a, c, ha, hc⟩ : ∃ a c,
      ofNamed (.plain "K" .ofTemperature .one (some .zero)) = .ok a ∧
      a.multiplyWith (.plain "s" .ofTime .one none) 0 = .ok c := ⟨_, _, rfl, rfl⟩
  have hbuilt : c.Built := .multiplyWith (.ofNamed ha) hc
  have hterms : c.terms = [⟨.plain "K" .ofTemperature .one (some .zero), 1⟩,
      ⟨.plain "s" .ofTime .one none, 0⟩] := by
    obtain rfl := Except.ok.inj ha
    obtain rfl := Except.ok.inj hc
    rfl
  have hu := ofCanonical_eq hbuilt.merged
  have horigin : c.origin = none := by
    unfold Canonical.origin asNamed
    rw [hterms]
    rfl
  have hsimplify : c.simplify.origin = some .zero := by
    unfold Canonical.origin asNamed
    rw [terms_simplify, hterms]
    rfl
  refine ⟨_, _, a, c, _, rfl, rfl, ha, hc, hbuilt, hu, horigin, hsimplify, ?_, fun h => ?_⟩
  · exact (origin_of_ofCanonical hbuilt.merged hu).trans hsimplify
  · have heq := h hbuilt
    rw [horigin, hsimplify] at heq
    cases heq

end Canonical

end Metrology
