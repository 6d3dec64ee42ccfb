import Metrology.Proofs.AnyUnit.Range

/-!
# Simplification

A unit and its simplest form have the same factors (`factors_of_simplify`), and the simplest form is
determined by them (`simplify_eq`). What can be observed of a unit is observed of its factors: its
dimension and its magnitude are those of the factors and return when these stay in range, and it is
raised by raising its factors (`checkedPow_eq`), since a term that is no factor can be raised and
remains none. So simplification changes none of it (`simplify_preserves`).
-/

namespace Metrology

open Power

namespace Power

variable {n : Int32} {t : Power} {terms : List Power}

/-- A power with exponent zero is left alone. -/
theorem raised_of_zero (ht : t.exponent = 0) : t.raised n = .ok t := by
  refine raised_eq_ok_iff.2 ⟨rfl, ?_⟩
  rw [ht]
  exact (zero_mul n.toInt).symm

/-- Powers are raised, or the first exponent that overflows is reported, whether or not the terms that
are no factors are dropped first. -/
theorem filter_mapM_raised (hterms : .unitless ∉ bases terms) :
    List.filter isLive <$> (terms.filter isLive).mapM (raised n) =
      List.filter isLive <$> terms.mapM (raised n) := by
  induction terms with
  | nil => rfl
  | cons t terms ih =>
    obtain ⟨hbase, hrest⟩ := not_or.1 (mt List.mem_cons.2 hterms)
    have ih := ih hrest
    have hcons : ∀ (q : Power) (x : Except UnitError (List Power)),
        List.filter isLive <$> (x >>= fun powers => pure (q :: powers)) =
          ([q].filter isLive ++ ·) <$> List.filter isLive <$> x := by
      rintro q (e | powers)
      · rfl
      · exact congrArg Except.ok (List.filter_append [q] powers)
    rw [List.mapM_cons, List.filter_cons]
    by_cases ht : t.isLive = true
    · rw [if_pos ht, List.mapM_cons]
      rcases t.raised n with e | q
      · rfl
      · show List.filter isLive <$> ((terms.filter isLive).mapM (raised n) >>= _) =
          List.filter isLive <$> (terms.mapM (raised n) >>= _)
        rw [hcons, hcons, ih]
    · have he : t.exponent = 0 := by
        by_contra he
        exact ht (isLive_iff.2 ⟨he, Ne.symm hbase⟩)
      rw [if_neg ht, raised_of_zero he, ih]
      rcases terms.mapM (raised n) with e | powers
      · rfl
      · exact congrArg Except.ok (List.filter_cons_of_neg ht).symm

end Power

namespace AnyUnit

variable {u v : AnyUnit} {n : Int32}

/-! ## Factors of simplest forms -/

theorem simplify_eq (u : AnyUnit) : u.simplify = (Product.mk u.factors).simplify := by
  refine Eq.trans ?_ (simplify_filter u.powers).symm
  cases u with
  | named b =>
    show AnyUnit.named b = (Product.mk [⟨b, 1⟩]).simplify
    by_cases hb : b = .unitless
    · rw [hb]
      rfl
    · rw [simplify_singleton (isLive_one.2 hb)]
      rfl
  | power t => exact (simplify_one t).symm
  | product p => rfl

theorem factors_of_simplify (u : AnyUnit) : u.simplify.factors = u.factors := by
  rw [simplify_eq, factors_simplify]
  exact List.filter_filter.trans (by simp only [Bool.and_self]; rfl)

theorem simplify_simplify (u : AnyUnit) : u.simplify.simplify = u.simplify := by
  rw [simplify_eq u.simplify, factors_of_simplify, ← simplify_eq]

/-! ## Measures -/

theorem dimension_simplify {d : Dimension} (h : u.dimension = .ok d) :
    u.simplify.dimension = .ok d := by
  obtain ⟨e, he⟩ : Returns u.simplify.dimension := by
    rw [returns_dimension_iff, factors_of_simplify, ← returns_dimension_iff]
    exact ⟨d, h⟩
  have hvalue : e.value = d.value := by
    rw [value_dimension he, factors_of_simplify, ← value_dimension h]
  rw [he, Dimension.value_inj.1 hvalue]

theorem magnitude_simplify {r : Ratio} (h : u.magnitude = .ok r) :
    u.simplify.magnitude = .ok r := by
  obtain ⟨s, hs⟩ : Returns u.simplify.magnitude := by
    rcases (returns_magnitude_iff u).1 ⟨r, h⟩ with ⟨b, rfl⟩ | hrange
    · exact ⟨r, h⟩
    · rw [returns_magnitude_iff, factors_of_simplify]
      exact .inr hrange
  have hvalue : s.value = r.value := by
    rw [value_magnitude hs, factors_of_simplify, ← value_magnitude h]
  rw [hs, Ratio.value_inj.1 hvalue]

/-! ## Powers -/

/-- The terms that a unit is gathered into have its factors among them. -/
theorem Formed.exists_terms (hu : u.Formed) :
    ∃ terms, Product.empty.multiplyWith u = .ok ⟨terms⟩ ∧ Merged terms ∧
      terms.filter isLive = u.factors := by
  cases u with
  | named b =>
    have hb : (AnyUnit.named b).Normal := trivial
    exact ⟨_, empty_multiplyWith hb, hb.simplified.merged, hb.simplified.filter_eq⟩
  | power t =>
    by_cases hbase : t.base = .unitless
    · have hdead : ¬ t.isLive = true := fun h => (isLive_iff.1 h).2 hbase
      refine ⟨[], ?_, simplified_nil.merged, (List.filter_cons_of_neg hdead).symm⟩
      exact Product.gather_cons_eq_ok_iff.2
        ⟨t, rfl, .empty, Product.merge_eq_ok_iff.2 (.inl ⟨hbase, rfl⟩), rfl⟩
    · have hmerged : Merged [t] := ⟨List.nodup_singleton _, by simpa [bases] using Ne.symm hbase⟩
      exact ⟨[t], Product.gather_pure hmerged, hmerged, rfl⟩
  | product p => exact ⟨p.terms, Product.gather_pure (hu p rfl), hu p rfl, rfl⟩

theorem simplify_map_filter (x : Except UnitError (List Power)) :
    (fun terms => (Product.mk terms).simplify) <$> List.filter isLive <$> x =
      (fun terms => (Product.mk terms).simplify) <$> x := by
  rcases x with e | terms
  · rfl
  · exact congrArg Except.ok (simplify_filter terms)

/-- A power of a unit raises its factors and puts them together. -/
theorem checkedPow_eq (hu : u.Formed) :
    u.checkedPow n =
      liftM ((fun terms => (Product.mk terms).simplify) <$> u.factors.mapM (Power.raised n) :
        Except UnitError AnyUnit) := by
  obtain ⟨terms, hterms, hmerged, hfactors⟩ := hu.exists_terms
  rw [← simplify_map_filter, ← hfactors, filter_mapM_raised hmerged.proper, simplify_map_filter]
  unfold checkedPow
  rw [hterms]
  show (liftM (terms.mapM (Power.raised n)) >>= _ : Attempt AnyUnit) = _
  rcases hpowers : terms.mapM (Power.raised n) with e | powers
  · rfl
  · rw [mapM_eq_ok_iff] at hpowers
    simp only [raised_eq_ok_iff] at hpowers
    have hmerged' : Merged powers := hmerged.of_bases_eq (bases_of_raised hpowers)
    show (liftM (Product.ofPowers powers) >>= _ : Attempt AnyUnit) = _
    rw [Product.ofPowers_of_merged hmerged']
    rfl

theorem checkedPow_simplify (hu : u.Formed) (n : Int32) :
    u.checkedPow n = u.simplify.checkedPow n := by
  rw [checkedPow_eq hu, checkedPow_eq (normal_simplify_of_formed hu).formed, factors_of_simplify]

/-! ## Simplification -/

/-- The simplest form of a unit, written in any way, is its own simplest form. It has the origin of
the unit, and its dimension and its magnitude wherever those are calculated. Of a unit whose terms are
merged, as those of every unit that is built are (`Built.formed`), it has the powers as well, refused
where they are and for the same reason. -/
theorem simplify_preserves (u : AnyUnit) :
    u.simplify.simplify = u.simplify ∧ u.simplify.origin = u.origin ∧
    (∀ {d : Dimension}, u.dimension = .ok d → u.simplify.dimension = .ok d) ∧
    (∀ {r : Ratio}, u.magnitude = .ok r → u.simplify.magnitude = .ok r) ∧
    (u.Formed → ∀ n : Int32, u.checkedPow n = u.simplify.checkedPow n) :=
  ⟨simplify_simplify u, origin_of_simplify u, dimension_simplify, magnitude_simplify,
    checkedPow_simplify⟩

/-- Absolute kelvins with seconds of exponent zero beside them. -/
theorem simplify_preserves_kelvin :
    ∃ (kelvin second : NamedUnit) (u : AnyUnit),
      kelvin = .plain "K" .ofTemperature .one (some .zero) ∧
      second = .plain "s" .ofTime .one none ∧
      u = .product ⟨[⟨second, 0⟩, ⟨kelvin, 1⟩]⟩ ∧ u.Formed ∧
      u.simplify = .named kelvin ∧ u.simplify.simplify = u.simplify ∧
      u.origin = some .zero ∧ u.simplify.origin = u.origin ∧
      u.dimension = .ok .ofTemperature ∧ u.simplify.dimension = .ok .ofTemperature ∧
      u.magnitude = .ok .one ∧ u.simplify.magnitude = .ok .one ∧
      u.checkedPow 2 = .ok (.power ⟨kelvin, 2⟩) ∧ u.checkedPow 2 = u.simplify.checkedPow 2 := by
  have hu : (AnyUnit.product ⟨[⟨.plain "s" .ofTime .one none, 0⟩,
      ⟨.plain "K" .ofTemperature .one (some .zero), 1⟩]⟩).Formed := by
    rintro p h
    obtain rfl := AnyUnit.product.inj h
    exact ⟨by decide, by decide⟩
  obtain ⟨hidem, horigin, hdimension, hmagnitude, hpow⟩ := simplify_preserves
    (.product ⟨[⟨.plain "s" .ofTime .one none, 0⟩,
      ⟨.plain "K" .ofTemperature .one (some .zero), 1⟩]⟩)
  exact ⟨_, _, _, rfl, rfl, rfl, hu, rfl, hidem, rfl, horigin, rfl, hdimension rfl, rfl,
    hmagnitude rfl, rfl, hpow hu 2⟩

end AnyUnit

end Metrology
