import Metrology.Proofs.AnyUnit.Built
import Metrology.Proofs.Bounded.Range

/-!
# Roots as inverses of powers

Of units in simplest form, one is the root of another exactly when the other is its power
(`root_eq_ok_iff_checkedPow`): raising and dividing exponents are inverse to each other, and a unit in
simplest form is rebuilt from its factors. Taking a root stops at no fault, so it is refused exactly
where there is no such unit (`root_inverse_checkedPow`).
-/

namespace Metrology.AnyUnit

open Power

variable {u v : AnyUnit} {n : Int32}

theorem root_eq_ok_iff_checkedPow (hu : u.Normal) (hv : v.Normal) (hn : n ≠ 0) :
    u.root n = .ok v ↔ v.checkedPow n = .ok u := by
  rw [root_eq_ok_iff hu hn, checkedPow_eq_ok_iff hv]
  constructor
  · rintro ⟨terms, hterms, rfl⟩
    have hsimplified := hu.simplified.of_raised hterms
    refine ⟨u.factors, ?_, simplify_factors hu⟩
    rwa [factors_of_simplified hsimplified]
  · rintro ⟨terms, hterms, rfl⟩
    have hn0 : n.toInt ≠ 0 := fun h => hn (Int32.toInt_inj.1 h)
    have hsimplified := hv.simplified.raised hn0 hterms
    refine ⟨v.factors, ?_, simplify_factors hv⟩
    rwa [factors_of_simplified hsimplified]

/-- The roots of merged terms are merged, so putting them together ends. -/
theorem noFault_root (hu : u.Formed) : NoFault (u.root n) := by
  unfold root
  split
  · nofun
  rename_i hn
  cases u with
  | named b =>
    show NoFault (if b.isUnitless = true then _ else _)
    split
    · exact noFault_ok _
    split
    · exact noFault_ok _
    · nofun
  | power p => exact noFault_bind_iff.2 ⟨noFault_liftRefusal _, fun q _ => noFault_ok _⟩
  | product p =>
    refine noFault_bind_iff.2 ⟨noFault_liftRefusal _, fun terms hterms => ?_⟩
    rw [liftRefusal_eq_ok_iff, mapM_eq_ok_iff] at hterms
    simp only [Power.root_eq_ok_iff hn] at hterms
    have hmerged : Merged terms :=
      (hu p rfl).of_bases_eq (bases_of_raised (List.Forall₂.flip hterms)).symm
    rw [Product.ofPowers_of_merged hmerged]
    exact noFault_ok _

theorem returns_root_iff (hu : u.Normal) (hn : n ≠ 0) :
    Returns (u.root n) ↔ ∃ v : AnyUnit, v.Normal ∧ v.checkedPow n = .ok u := by
  constructor
  · rintro ⟨v, h⟩
    have hv := normal_root h
    exact ⟨v, hv, (root_eq_ok_iff_checkedPow hu hv hn).1 h⟩
  · rintro ⟨v, hv, h⟩
    exact ⟨v, (root_eq_ok_iff_checkedPow hu hv hn).2 h⟩

/-- The least exponent is no negative, so a unit that has it is not inverted. -/
theorem not_returns_root_neg_one (hu : u.Normal) {t : Power} (ht : t ∈ u.factors)
    (hmin : t.exponent = .minValue) : ¬ Returns (u.root (-1)) := by
  rintro ⟨v, h⟩
  obtain ⟨terms, hterms, -⟩ := (root_eq_ok_iff hu (by decide)).1 h
  have hexponent : ∀ q ∈ u.factors, q.exponent ≠ .minValue := by
    refine forall_mem_of_forall₂ (P := fun _ => True) (fun p q hpq _ => ?_) hterms
      fun _ _ => trivial
    have hnegative : q.exponent.toInt = p.exponent.toInt * -1 := hpq.exponent_eq
    rw [← inRange_neg_iff, hnegative, mul_neg_one, neg_neg]
    exact inRange_toInt p.exponent
  exact hexponent t ht hmin

/-- A root undoes a power and a power undoes a root, structurally, of units in simplest form and for
every degree but zero. Where no unit has the given one for its power, the root is refused, as it is
for a least exponent that is to be negated; the root of degree zero is always refused. -/
theorem root_inverse_checkedPow (hu : u.Normal) :
    (∀ {n : Int32} {v : AnyUnit}, n ≠ 0 → v.Normal →
      (u.root n = .ok v ↔ v.checkedPow n = .ok u)) ∧
    (∀ {n : Int32}, n ≠ 0 → ((∃ e, u.root n = .error (.unit e)) ↔
      ¬ ∃ v : AnyUnit, v.Normal ∧ v.checkedPow n = .ok u)) ∧
    (∀ t ∈ u.factors, t.exponent = .minValue → ∃ e, u.root (-1) = .error (.unit e)) ∧
    ∀ w : AnyUnit, w.root 0 = .error (.unit .zeroRootDegree) := by
  have hrefused : ∀ {n}, (∃ e, u.root n = .error (.unit e)) ↔ ¬ Returns (u.root n) :=
    (noFault_root hu.formed).refused_iff
  refine ⟨fun hn hv => root_eq_ok_iff_checkedPow hu hv hn, fun hn => ?_, fun t ht hmin => ?_, ?_⟩
  · rw [hrefused, returns_root_iff hu hn]
  · exact hrefused.2 (not_returns_root_neg_one hu ht hmin)
  · exact fun _ => rfl

/-- The root of degree minus two of a squared velocity, and the least power of a metre. -/
theorem root_inverse_checkedPow_velocity :
    ∃ (meter second : NamedUnit) (u v w : AnyUnit),
      meter = .plain "m" .ofLength .one none ∧ second = .plain "s" .ofTime .one none ∧
      u = .product ⟨[⟨meter, 2⟩, ⟨second, -2⟩]⟩ ∧ u.Normal ∧
      v = .product ⟨[⟨meter, -1⟩, ⟨second, 1⟩]⟩ ∧ v.Normal ∧
      v.checkedPow (-2) = .ok u ∧ u.root (-2) = .ok v ∧
      (∃ e, u.root 3 = .error (.unit e)) ∧ (¬ ∃ x : AnyUnit, x.Normal ∧ x.checkedPow 3 = .ok u) ∧
      w = .power ⟨meter, .minValue⟩ ∧ w.Normal ∧ ∃ e, w.root (-1) = .error (.unit e) := by
  have hu : (AnyUnit.product ⟨[⟨.plain "m" .ofLength .one none, 2⟩,
      ⟨.plain "s" .ofTime .one none, -2⟩]⟩).Normal := ⟨⟨by decide, by decide⟩, by decide⟩
  have hv : (AnyUnit.product ⟨[⟨.plain "m" .ofLength .one none, -1⟩,
      ⟨.plain "s" .ofTime .one none, 1⟩]⟩).Normal := ⟨⟨by decide, by decide⟩, by decide⟩
  have hw : (AnyUnit.power ⟨.plain "m" .ofLength .one none, .minValue⟩).Normal :=
    ⟨by decide, by decide⟩
  obtain ⟨hroot, hrefused, -⟩ := root_inverse_checkedPow hu
  obtain ⟨-, -, hleast, -⟩ := root_inverse_checkedPow hw
  have hcube : ∃ e, (AnyUnit.product ⟨[⟨.plain "m" .ofLength .one none, 2⟩,
      ⟨.plain "s" .ofTime .one none, -2⟩]⟩).root 3 = .error (.unit e) := ⟨_, rfl⟩
  refine ⟨_, _, _, _, _, rfl, rfl, rfl, hu, rfl, hv, rfl, (hroot (by decide) hv).2 rfl, hcube,
    (hrefused (by decide)).1 hcube, rfl, hw, ?_⟩
  exact hleast _ (List.mem_singleton_self _) rfl

end Metrology.AnyUnit
