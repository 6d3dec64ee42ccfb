import Mathlib.Algebra.Group.Pi.Basic
import Mathlib.Data.Int.Cast.Lemmas
import Metrology.Proofs.AnyUnit.Measure
import Metrology.Proofs.Bounded.Range
import Metrology.Proofs.Power.Exponents

/-!
# Units as a free abelian group

A unit in simplest form is a function from bases to exponents (`exponents`), up to the order of its
terms (`exponents_inj`). Multiplication adds these functions, division subtracts them and a power
multiplies them (`Composes`), and each returns exactly where the exponents are in range. A run of
merges meets every base once, so it returns when each merge would on its own (`returns_gather_iff`).
-/

namespace Metrology

open Power

namespace Power

theorem returns_raised_iff {n : Int32} {t : Power} :
    Returns (t.raised n) ↔ InRange (t.exponent.toInt * n.toInt) := by
  rw [inRange_iff]
  constructor
  · rintro ⟨q, hq⟩
    exact ⟨q.exponent, (raised_eq_ok_iff.1 hq).exponent_eq⟩
  · rintro ⟨e, he⟩
    exact ⟨⟨t.base, e⟩, raised_eq_ok_iff.2 ⟨rfl, he⟩⟩

theorem returns_negated_iff {t : Power} : Returns t.negated ↔ t.exponent ≠ .minValue := by
  rw [← inRange_neg_iff, inRange_iff]
  unfold negated
  rw [returns_bind_pure_iff, returns_orFault_iff]
  simp only [Bounded.neg?_eq_some_iff]
  rfl

/-- The negative of an exponent is added when there is one and the difference is in range. -/
theorem exists_negated_iff {t : Power} {x : ℤ} :
    (∃ s, t.negated = .ok s ∧ InRange (x + s.exponent.toInt)) ↔
      t.exponent.toInt ≠ Int32.minValue.toInt ∧ InRange (x - t.exponent.toInt) := by
  have hvalue : ∀ {s}, t.negated = .ok s → s.exponent.toInt = -t.exponent.toInt := fun h => by
    rw [(Product.scales_negated h).exponent_eq, mul_neg_one]
  rw [ne_eq, Int32.toInt_inj, ← ne_eq, ← returns_negated_iff]
  constructor
  · rintro ⟨s, hs, hrange⟩
    rw [hvalue hs, ← sub_eq_add_neg] at hrange
    exact ⟨⟨s, hs⟩, hrange⟩
  · rintro ⟨⟨s, hs⟩, hrange⟩
    refine ⟨s, hs, ?_⟩
    rwa [hvalue hs, ← sub_eq_add_neg]

end Power

/-! ## Merging in range -/

namespace Product

variable {u b : NamedUnit} {e : Int32} {terms merged : List Power} {p q : Product}

/-- A base is merged when its exponents have a sum. -/
theorem returns_mergeInto_iff :
    Returns (mergeInto u e terms) ↔ InRange ((exponentAt u terms).toInt + e.toInt) := by
  induction terms with
  | nil =>
    have hsum : (exponentAt u []).toInt + e.toInt = e.toInt := zero_add _
    rw [hsum]
    exact iff_of_true ⟨_, rfl⟩ (inRange_toInt e)
  | cons t terms ih =>
    unfold mergeInto
    split
    · rename_i ht
      rw [returns_bind_pure_iff, returns_orFault_iff, exponentAt_cons_of_eq ht, inRange_iff]
      simp only [Bounded.add?_eq_some_iff]
      rfl
    · rename_i ht
      rw [returns_bind_pure_iff, exponentAt_cons_of_ne ht, ih]

/-- The other bases keep their exponents. -/
theorem exponentAt_mergeInto (hb : b ≠ u) (h : mergeInto u e terms = .ok merged) :
    exponentAt b merged = exponentAt b terms := by
  induction terms generalizing merged with
  | nil =>
    obtain rfl := Except.ok.inj h
    exact exponentAt_cons_of_ne hb.symm []
  | cons t terms ih =>
    unfold mergeInto at h
    split at h
    · rename_i ht
      obtain ⟨sum, -, rfl⟩ := by simpa using h
      rw [exponentAt_cons_of_ne hb.symm, exponentAt_cons_of_ne (ht ▸ hb.symm)]
    · obtain ⟨rest, hrest, rfl⟩ := by simpa using h
      unfold exponentAt
      rw [ih hrest]

/-- The base that is merged has the sum of its exponents. -/
theorem exponentAt_mergeInto_self (h : mergeInto u e terms = .ok merged) :
    (exponentAt u merged).toInt = (exponentAt u terms).toInt + e.toInt := by
  induction terms generalizing merged with
  | nil =>
    obtain rfl := Except.ok.inj h
    rw [exponentAt_cons_of_eq (p := ⟨u, e⟩) rfl]
    exact (zero_add e.toInt).symm
  | cons t terms ih =>
    unfold mergeInto at h
    split at h
    · rename_i ht
      obtain ⟨sum, hsum, rfl⟩ := by simpa using h
      rw [exponentAt_cons_of_eq (p := ⟨u, sum⟩) rfl, exponentAt_cons_of_eq ht]
      exact Bounded.add?_eq_some_iff.1 hsum
    · rename_i ht
      obtain ⟨rest, hrest, rfl⟩ := by simpa using h
      rw [exponentAt_cons_of_ne ht, exponentAt_cons_of_ne ht, ih hrest]

theorem returns_merge_iff (hu : u ≠ .unitless) :
    Returns (p.merge u e) ↔ InRange ((exponentAt u p.terms).toInt + e.toInt) := by
  unfold merge
  rw [if_neg (mt NamedUnit.isUnitless_iff.1 hu), returns_bind_pure_iff, returns_mergeInto_iff]

theorem exponentAt_merge (hb : b ≠ u) (h : p.merge u e = .ok q) :
    exponentAt b q.terms = exponentAt b p.terms := by
  rcases merge_eq_ok_iff.1 h with ⟨-, rfl⟩ | ⟨-, hq⟩
  · rfl
  · exact exponentAt_mergeInto hb hq

theorem exponentAt_merge_self (hu : u ≠ .unitless) (h : p.merge u e = .ok q) :
    (exponentAt u q.terms).toInt = (exponentAt u p.terms).toInt + e.toInt := by
  rcases merge_eq_ok_iff.1 h with ⟨hunitless, -⟩ | ⟨-, hq⟩
  · exact absurd hunitless hu
  · exact exponentAt_mergeInto_self hq

/-- Absorbing merged powers adds their exponents, raised. -/
theorem exponentAt_gather {prepare : Power → Calc Power} {k : ℤ} (hk : Scales prepare k)
    (hterms : Merged terms) (h : gather prepare p terms = .ok q) (b : NamedUnit) :
    (exponentAt b q.terms).toInt =
      (exponentAt b p.terms).toInt + k * (exponentAt b terms).toInt := by
  induction terms generalizing p with
  | nil =>
    obtain rfl := Except.ok.inj h
    rw [show (exponentAt b []).toInt = 0 from rfl, mul_zero, add_zero]
  | cons t terms ih =>
    obtain ⟨hnew, hnodup⟩ := List.nodup_cons.1 hterms.nodup
    obtain ⟨hbase, hproper⟩ := not_or.1 (mt List.mem_cons.2 hterms.proper)
    obtain ⟨s, hs, merged, hmerge, hq⟩ := gather_cons_eq_ok_iff.1 h
    have hraised := hk hs
    rw [ih ⟨hnodup, hproper⟩ hq]
    by_cases hb : t.base = b
    · subst hb
      rw [hraised.base_eq] at hmerge
      rw [exponentAt_merge_self (Ne.symm hbase) hmerge, exponentAt_of_notMem hnew,
        exponentAt_cons_of_eq rfl, hraised.exponent_eq, mul_comm k t.exponent.toInt]
      exact (congrArg _ (mul_zero k)).trans (add_zero _)
    · rw [exponentAt_merge (hraised.base_eq ▸ Ne.symm hb) hmerge, exponentAt_cons_of_ne hb]

/-- Merged powers are absorbed when each can be prepared and merged on its own: what is merged before
it has other bases. -/
theorem returns_gather_iff {prepare : Power → Calc Power} {k : ℤ} (hk : Scales prepare k)
    (hterms : Merged terms) :
    Returns (gather prepare p terms) ↔
      ∀ t ∈ terms, ∃ s, prepare t = .ok s ∧
        InRange ((exponentAt t.base p.terms).toInt + s.exponent.toInt) := by
  induction terms generalizing p with
  | nil => exact iff_of_true ⟨p, rfl⟩ (List.forall_mem_nil _)
  | cons t terms ih =>
    obtain ⟨hnew, hnodup⟩ := List.nodup_cons.1 hterms.nodup
    obtain ⟨hbase, hproper⟩ := not_or.1 (mt List.mem_cons.2 hterms.proper)
    have hrest : ∀ {s merged}, prepare t = .ok s → p.merge s.base s.exponent = .ok merged →
        ∀ x ∈ terms, exponentAt x.base merged.terms = exponentAt x.base p.terms := by
      intro s merged hs hmerge x hx
      refine exponentAt_merge (fun h => hnew ?_) hmerge
      exact mem_bases.2 ⟨x, hx, h.trans (hk hs).base_eq⟩
    have ih := fun p => ih (p := p) ⟨hnodup, hproper⟩
    rw [gather_cons, returns_bind_iff, List.forall_mem_cons]
    constructor
    · rintro ⟨s, hs, h⟩
      obtain ⟨merged, hmerge, h⟩ := returns_bind_iff.1 h
      have hstep := (returns_merge_iff ((hk hs).base_eq ▸ Ne.symm hbase)).1 ⟨merged, hmerge⟩
      refine ⟨⟨s, hs, (hk hs).base_eq ▸ hstep⟩, fun x hx => ?_⟩
      rw [← hrest hs hmerge x hx]
      exact (ih merged).1 h x hx
    · rintro ⟨⟨s, hs, hstep⟩, h⟩
      rw [← (hk hs).base_eq] at hstep
      obtain ⟨merged, hmerge⟩ := (returns_merge_iff ((hk hs).base_eq ▸ Ne.symm hbase)).2 hstep
      refine ⟨s, hs, returns_bind_iff.2 ⟨merged, hmerge, (ih merged).2 fun x hx => ?_⟩⟩
      rw [hrest hs hmerge x hx]
      exact h x hx

end Product

/-! ## Exponents of a unit -/

namespace AnyUnit

variable {u v w x y : AnyUnit} {n : Int32}

/-- The exponents of the factors of a unit, zero at every other base. -/
def exponents (u : AnyUnit) (b : NamedUnit) : ℤ := (exponentAt b u.factors).toInt

/-- Whether a function gives an exponent at every base. -/
def Fits (f : NamedUnit → ℤ) : Prop := ∀ b, InRange (f b)

theorem exponents_inj (hu : u.Normal) (hv : v.Normal) :
    u.exponents = v.exponents ↔ u.factors.Perm v.factors := by
  constructor
  · intro h
    exact hu.simplified.perm_of_exponentAt hv.simplified fun b =>
      Int32.toInt_inj.1 (congrFun h b)
  · intro h
    funext b
    exact congrArg Int32.toInt (exponentAt_of_perm hu.simplified.nodup hv.simplified.nodup h b)

theorem exponents_named {b : NamedUnit} (hb : b ≠ .unitless) :
    (AnyUnit.named b).exponents = Pi.single b 1 := by
  funext c
  unfold exponents
  rw [factors_named hb]
  by_cases hc : b = c
  · rw [exponentAt_cons_of_eq hc, hc, Pi.single_eq_same]
    rfl
  · rw [exponentAt_cons_of_ne hc, Pi.single_eq_of_ne (Ne.symm hc)]
    rfl

theorem exponents_unitless (hu : u.Normal) : u.exponents .unitless = 0 := by
  unfold exponents
  rw [exponentAt_of_notMem hu.simplified.merged.proper]
  rfl

/-- Exponents are what weighing by marks finds. -/
theorem ext_exponents {f : NamedUnit → ℤ} (hw : w.Normal) (h0 : f .unitless = 0)
    (h : ∀ b, b ≠ .unitless → weigh (mark (· = b)) w.factors = .ofAdd (f b)) :
    w.exponents = f := by
  funext b
  by_cases hb : b = .unitless
  · rw [hb, exponents_unitless hw, h0]
  · have hweigh := h b hb
    rw [weigh_mark hw.simplified.nodup] at hweigh
    exact Multiplicative.ofAdd.injective hweigh

theorem exponents_multiply (hu : u.Normal) (hv : v.Normal) (h : u.multiply v = .ok w) :
    w.exponents = u.exponents + v.exponents := by
  refine ext_exponents (normal_multiply h) ?_ fun b hb => ?_
  · rw [Pi.add_apply, exponents_unitless hu, exponents_unitless hv, add_zero]
  · rw [weigh_multiply (mark_of_not hb.symm) sided_of_group sided_of_group h,
      weigh_mark hu.simplified.nodup, weigh_mark hv.simplified.nodup]
    rfl

theorem exponents_divide (hu : u.Normal) (hv : v.Normal) (h : u.divide v = .ok w) :
    w.exponents = u.exponents - v.exponents := by
  refine ext_exponents (normal_divide h) ?_ fun b hb => ?_
  · rw [Pi.sub_apply, exponents_unitless hu, exponents_unitless hv, sub_zero]
  · rw [weigh_divide (mark_of_not hb.symm) sided_of_group sided_of_group h,
      weigh_mark hu.simplified.nodup, weigh_mark hv.simplified.nodup]
    rfl

theorem exponents_checkedPow (hu : u.Normal) (h : u.checkedPow n = .ok w) :
    w.exponents = n.toInt • u.exponents := by
  refine ext_exponents (normal_checkedPow h) ?_ fun b hb => ?_
  · rw [Pi.smul_apply, exponents_unitless hu, smul_zero]
  · rw [weigh_checkedPow (mark_of_not hb.symm) sided_of_group h, weigh_mark hu.simplified.nodup]
    rfl

/-! ## When composition returns -/

theorem returns_multiply_iff (hu : u.Normal) (hv : v.Normal) :
    Returns (u.multiply v) ↔ Fits (u.exponents + v.exponents) := by
  have hgather : Returns (u.multiply v) ↔ Returns (Product.gather pure ⟨u.factors⟩ v.factors) := by
    unfold multiply
    rw [empty_multiplyWith hu]
    show Returns (Product.multiplyWith _ v >>= fun q => pure q.simplify) ↔ _
    rw [returns_bind_pure_iff, Product.multiplyWith_eq, gather_pure_powers hv]
  rw [hgather, Product.returns_gather_iff Product.scales_pure hv.simplified.merged]
  simp only [pure_eq_ok_iff, exists_eq_left']
  exact forall_exponentAt_iff (Q := fun b e => InRange (u.exponents b + e.toInt))
    hv.simplified.nodup fun b => (add_zero (u.exponents b)).symm ▸ inRange_toInt _

theorem returns_divide_iff (hu : u.Normal) (hv : v.Normal) :
    Returns (u.divide v) ↔
      (∀ b, v.exponents b ≠ Int32.minValue.toInt) ∧ Fits (u.exponents - v.exponents) := by
  have hgather : Returns (u.divide v) ↔
      Returns (Product.gather Power.negated ⟨u.factors⟩ v.factors) := by
    unfold divide
    rw [empty_multiplyWith hu]
    show Returns (Product.divideBy _ v >>= fun q => pure q.simplify) ↔ _
    rw [returns_bind_pure_iff, Product.divideBy_eq, gather_negated_powers hv]
  rw [hgather, Product.returns_gather_iff Product.scales_negated hv.simplified.merged]
  simp only [exists_negated_iff]
  have hbases := forall_exponentAt_iff (Q := fun b e => e.toInt ≠ Int32.minValue.toInt ∧
    InRange (u.exponents b - e.toInt)) hv.simplified.nodup fun b =>
      ⟨by decide, (sub_zero (u.exponents b)).symm ▸ inRange_toInt _⟩
  exact hbases.trans forall_and

theorem returns_checkedPow_iff (hu : u.Normal) :
    Returns (u.checkedPow n) ↔ Fits (n.toInt • u.exponents) := by
  have hraised : Returns (u.checkedPow n) ↔ Returns (u.factors.mapM (Power.raised n)) := by
    unfold Returns
    simp only [checkedPow_eq_ok_iff hu, mapM_eq_ok_iff, raised_eq_ok_iff]
    constructor
    · rintro ⟨w, terms, hterms, -⟩
      exact ⟨terms, hterms⟩
    · rintro ⟨terms, hterms⟩
      exact ⟨_, terms, hterms, rfl⟩
  rw [hraised, returns_mapM_iff]
  simp only [returns_raised_iff]
  rw [forall_exponentAt_iff (Q := fun _ e => InRange (e.toInt * n.toInt)) hu.simplified.nodup]
  · exact forall_congr' fun b => by rw [mul_comm]; rfl
  · exact fun _ => (zero_mul n.toInt).symm ▸ inRange_toInt 0

/-! ## The group of units -/

/-- Whether a composition of units has given exponents, and returns when it has room for them. -/
structure Composes {ε : Type} (x : Except ε AnyUnit) (room : Prop) (f : NamedUnit → ℤ) : Prop where
  returns_iff : Returns x ↔ room
  normal : ∀ {w}, x = .ok w → w.Normal
  exponents_eq : ∀ {w}, x = .ok w → w.exponents = f

theorem composes_multiply (hu : u.Normal) (hv : v.Normal) :
    Composes (u.multiply v) (Fits (u.exponents + v.exponents)) (u.exponents + v.exponents) where
  returns_iff := returns_multiply_iff hu hv
  normal := normal_multiply
  exponents_eq := exponents_multiply hu hv

theorem composes_divide (hu : u.Normal) (hv : v.Normal) :
    Composes (u.divide v)
      ((∀ b, v.exponents b ≠ Int32.minValue.toInt) ∧ Fits (u.exponents - v.exponents))
      (u.exponents - v.exponents) where
  returns_iff := returns_divide_iff hu hv
  normal := normal_divide
  exponents_eq := exponents_divide hu hv

theorem composes_checkedPow (hu : u.Normal) :
    Composes (u.checkedPow n) (Fits (n.toInt • u.exponents)) (n.toInt • u.exponents) where
  returns_iff := returns_checkedPow_iff hu
  normal := normal_checkedPow
  exponents_eq := exponents_checkedPow hu

/-- The two products of units have the same factors, also where the units are not in simplest
form. -/
theorem perm_multiply_comm (hx : u.multiply v = .ok x) (hy : v.multiply u = .ok y) :
    x.factors.Perm y.factors := by
  have halike : Alike x.factors y.factors := fun f hf => by
    rw [weigh_multiply hf sided_of_group sided_of_group hx,
      weigh_multiply hf sided_of_group sided_of_group hy, mul_comm]
  exact halike.perm (normal_multiply hx).simplified (normal_multiply hy).simplified

theorem perm_multiply_assoc (hu : u.Normal) (hv : v.Normal) (hw : w.Normal) {x' y' : AnyUnit}
    (hx : u.multiply v = .ok x) (hy : x.multiply w = .ok y) (hx' : v.multiply w = .ok x')
    (hy' : u.multiply x' = .ok y') : y.factors.Perm y'.factors := by
  have hxn := normal_multiply hx
  have hxn' := normal_multiply hx'
  refine (exponents_inj (normal_multiply hy) (normal_multiply hy')).1 ?_
  rw [exponents_multiply hxn hw hy, exponents_multiply hu hv hx, exponents_multiply hu hxn' hy',
    exponents_multiply hv hw hx', add_assoc]

theorem perm_divide_multiply (hu : u.Normal) (hv : v.Normal) (hx : u.multiply v = .ok x)
    (hy : x.divide v = .ok y) : y.factors.Perm u.factors := by
  have hxn := normal_multiply hx
  refine (exponents_inj (normal_divide hy) hu).1 ?_
  rw [exponents_divide hxn hv hy, exponents_multiply hu hv hx, add_sub_cancel_right]

/-- Units in simplest form compose as the free abelian group on named units, in the range of
exponents and up to the order of the terms. -/
theorem composition_free_abelian (u v w : AnyUnit) (n : Int32) (hu : u.Normal) (hv : v.Normal)
    (hw : w.Normal) :
    Composes (u.multiply v) (Fits (u.exponents + v.exponents)) (u.exponents + v.exponents) ∧
    Composes (u.divide v)
      ((∀ b, v.exponents b ≠ Int32.minValue.toInt) ∧ Fits (u.exponents - v.exponents))
      (u.exponents - v.exponents) ∧
    Composes (u.checkedPow n) (Fits (n.toInt • u.exponents)) (n.toInt • u.exponents) ∧
    (u.exponents = v.exponents ↔ u.factors.Perm v.factors) ∧
    (∀ {b}, b ≠ .unitless → (AnyUnit.named b).exponents = Pi.single b 1) ∧
    (∀ {x y}, u.multiply v = .ok x → v.multiply u = .ok y → x.factors.Perm y.factors) ∧
    (∀ {x y x' y'}, u.multiply v = .ok x → x.multiply w = .ok y → v.multiply w = .ok x' →
      u.multiply x' = .ok y' → y.factors.Perm y'.factors) ∧
    ∀ {x y}, u.multiply v = .ok x → x.divide v = .ok y → y.factors.Perm u.factors := by
  refine ⟨composes_multiply hu hv, composes_divide hu hv, composes_checkedPow hu,
    exponents_inj hu hv, exponents_named, ?_, ?_, ?_⟩
  · exact perm_multiply_comm
  · exact perm_multiply_assoc hu hv hw
  · exact perm_divide_multiply hu hv

/-- A velocity times the second and divided by it again: the terms come back in the other order. It
cannot be divided by the second to the least exponent. -/
theorem composition_free_abelian_velocity :
    ∃ (meter second : NamedUnit) (velocity x y : AnyUnit),
      meter = .plain "m" .ofLength .one none ∧ second = .plain "s" .ofTime .one none ∧
      velocity = .product ⟨[⟨second, -1⟩, ⟨meter, 1⟩]⟩ ∧
      velocity.multiply (.named second) = .ok x ∧ x.divide (.named second) = .ok y ∧
      y = .product ⟨[⟨meter, 1⟩, ⟨second, -1⟩]⟩ ∧ y.factors.Perm velocity.factors ∧
      ¬Returns (velocity.divide (.power ⟨second, .minValue⟩)) := by
  obtain ⟨meter, hmeter⟩ : ∃ u, u = NamedUnit.plain "m" .ofLength .one none := ⟨_, rfl⟩
  obtain ⟨second, hsecond⟩ : ∃ u, u = NamedUnit.plain "s" .ofTime .one none := ⟨_, rfl⟩
  obtain ⟨velocity, hvelocity⟩ : ∃ u, u = AnyUnit.product ⟨[⟨second, -1⟩, ⟨meter, 1⟩]⟩ := ⟨_, rfl⟩
  have hnormal : velocity.Normal := by
    subst hvelocity hmeter hsecond
    exact ⟨⟨by decide, by decide⟩, le_rfl⟩
  have hdeep : (AnyUnit.power ⟨second, .minValue⟩).Normal := by
    subst hsecond
    exact ⟨by decide, by decide⟩
  have hx : velocity.multiply (.named second) = .ok (.named meter) := by
    subst hvelocity hmeter hsecond
    rfl
  have hy : (AnyUnit.named meter).divide (.named second) =
      .ok (.product ⟨[⟨meter, 1⟩, ⟨second, -1⟩]⟩) := by
    subst hmeter hsecond
    rfl
  obtain ⟨-, -, -, -, -, -, -, hundo⟩ :=
    composition_free_abelian velocity (.named second) .unitless 0 hnormal trivial trivial
  obtain ⟨-, hdivide, -⟩ :=
    composition_free_abelian velocity (.power ⟨second, .minValue⟩) .unitless 0 hnormal hdeep trivial
  refine ⟨meter, second, velocity, _, _, hmeter, hsecond, hvelocity, hx, hy, rfl, hundo hx hy,
    fun h => ?_⟩
  refine (hdivide.returns_iff.1 h).1 second ?_
  subst hsecond
  rfl

end AnyUnit

end Metrology
