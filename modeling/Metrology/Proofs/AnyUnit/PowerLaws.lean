import Mathlib.Data.List.Nodup
import Metrology.Proofs.AnyUnit.Group

/-!
# Laws of powers

Compositions of units that have the same exponents have their terms in the same order as well where
the bases of both occur in the order of one list (`Composes.eq_ok_iff`): a row of powers whose
exponents are known is determined by the order of its bases (`eq_of_perm_of_sublist`). A product or a
quotient of units has the bases of the left unit in front of those that are new in the right one
(`bases_gather`), and a power keeps the order of the bases. So the laws of powers hold of units as
they are written (`power_laws`).
-/

namespace Metrology

open Power

/-! ## Rows of powers in the order of a list -/

namespace Power

variable {s t : List Power} {order : List NamedUnit}

/-- In a list without repetition, no element stands before and behind another one. -/
theorem pairwise_idxOf (h : order.Nodup) :
    order.Pairwise fun a b => order.idxOf a < order.idxOf b := by
  refine List.pairwise_iff_getElem.2 fun i j hi hj hij => ?_
  rwa [h.idxOf_getElem, h.idxOf_getElem]

/-- The same powers with their bases in the order of one list are in the same order. -/
theorem eq_of_perm_of_sublist (horder : order.Nodup) (h : s.Perm t) (hs : (bases s).Sublist order)
    (ht : (bases t).Sublist order) : s = t := by
  have hpairwise : ∀ {r : List Power}, (bases r).Sublist order →
      r.Pairwise fun p q => order.idxOf p.base < order.idxOf q.base := by
    intro r hr
    have hbases := (pairwise_idxOf horder).sublist hr
    rwa [bases, List.pairwise_map] at hbases
  refine h.eq_of_pairwise (fun p q _ _ hpq hqp => ?_) (hpairwise hs) (hpairwise ht)
  exact absurd hqp hpq.asymm

end Power

/-! ## The order in which bases are gathered -/

/-- Two rows of bases one behind the other, without those of the second that are in the first. -/
def joined (s t : List NamedUnit) : List NamedUnit := s ++ t.filter (· ∉ s)

section Joined

variable {r s t : List NamedUnit}

theorem joined_of_subset (h : t ⊆ s) : joined s t = s := by
  unfold joined
  rw [List.filter_eq_nil_iff.2 fun b hb => by simpa using h hb, List.append_nil]

theorem joined_nil_left (t : List NamedUnit) : joined [] t = t := by
  unfold joined
  rw [List.nil_append, List.filter_eq_self]
  intro b _
  exact decide_eq_true List.not_mem_nil

theorem nodup_joined (hs : s.Nodup) (ht : t.Nodup) : (joined s t).Nodup := by
  refine List.nodup_append.2 ⟨hs, ht.filter _, ?_⟩
  rintro b hb c hc rfl
  exact of_decide_eq_true (List.mem_filter.1 hc).2 hb

end Joined

namespace Product

variable {prepare : Power → Calc Power} {k : ℤ} {terms : List Power} {p q : Product}

/-- The bases of powers that are absorbed come behind those of the product, unless it has them. -/
theorem bases_gather (hk : Scales prepare k) (hterms : Merged terms)
    (h : gather prepare p terms = .ok q) :
    bases q.terms = joined (bases p.terms) (bases terms) := by
  induction terms generalizing p with
  | nil =>
    obtain rfl := Except.ok.inj h
    exact (List.append_nil _).symm
  | cons t terms ih =>
    obtain ⟨s, hs, merged, hm, hq⟩ := gather_cons_eq_ok_iff.1 h
    obtain ⟨hnew, hnodup⟩ := List.nodup_cons.1 hterms.nodup
    obtain ⟨hbase, hproper⟩ := not_or.1 (mt List.mem_cons.2 hterms.proper)
    rcases merge_eq_ok_iff.1 hm with ⟨hu, -⟩ | ⟨-, hm⟩
    · exact absurd ((hk hs).base_eq.symm.trans hu).symm hbase
    have hmerged := bases_mergeInto hm
    rw [(hk hs).base_eq] at hmerged
    rw [ih ⟨hnodup, hproper⟩ hq, hmerged]
    show joined _ _ = joined (bases p.terms) (t.base :: bases terms)
    unfold joined
    by_cases hmem : t.base ∈ bases p.terms
    · rw [if_pos hmem, List.filter_cons_of_neg (by simpa using hmem)]
    · rw [if_neg hmem, List.filter_cons_of_pos (by simpa using hmem), List.append_assoc]
      -- None of the powers that follow has the base that has just been added.
      have hfilter : (bases terms).filter (· ∉ bases p.terms ++ [t.base]) =
          (bases terms).filter (· ∉ bases p.terms) := by
        refine List.filter_congr fun b hb => ?_
        have hne : b ≠ t.base := fun h => hnew (h ▸ hb)
        simp [hne]
      rw [hfilter]
      rfl

end Product

/-! ## Units with the same exponents -/

namespace AnyUnit

variable {u v w x y z : AnyUnit} {a b c : Int32} {order : List NamedUnit}

/-- Units in simplest form whose bases are in the order of one list are known by their exponents. -/
theorem eq_of_exponents (hu : u.Normal) (hv : v.Normal) (horder : order.Nodup)
    (huo : (bases u.factors).Sublist order) (hvo : (bases v.factors).Sublist order)
    (h : u.exponents = v.exponents) : u = v := by
  have hperm := (exponents_inj hu hv).1 h
  rw [← simplify_factors hu, ← simplify_factors hv, eq_of_perm_of_sublist horder hperm huo hvo]

/-- Compositions with the same exponents, and with their bases in the order of one list, have the same
results. -/
theorem Composes.eq_ok_iff {ε δ : Type} {m : Except ε AnyUnit} {n : Except δ AnyUnit}
    {room room' : Prop} {f g : NamedUnit → ℤ} (hm : Composes m room f) (hn : Composes n room' g)
    (hfg : f = g) (hroom : room ↔ room') (horder : order.Nodup)
    (hmo : ∀ {w}, m = .ok w → (bases w.factors).Sublist order)
    (hno : ∀ {w}, n = .ok w → (bases w.factors).Sublist order) : m = .ok w ↔ n = .ok w := by
  have heq : ∀ {v w}, m = .ok v → n = .ok w → v = w := fun hv hw =>
    eq_of_exponents (hm.normal hv) (hn.normal hw) horder (hmo hv) (hno hw)
      ((hm.exponents_eq hv).trans (hfg.trans (hn.exponents_eq hw).symm))
  constructor
  · intro hw
    obtain ⟨v, hv⟩ := hn.returns_iff.2 (hroom.1 (hm.returns_iff.1 ⟨w, hw⟩))
    rw [hv, heq hw hv]
  · intro hw
    obtain ⟨v, hv⟩ := hm.returns_iff.2 (hroom.2 (hn.returns_iff.1 ⟨w, hw⟩))
    rw [hv, heq hv hw]

/-- A unit without exponents is the unit of pure numbers. -/
theorem eq_unitless_of_exponents (hu : u.Normal) (h : u.exponents = 0) : u = .unitless := by
  have hunitless : AnyUnit.unitless.exponents = 0 := funext fun _ => rfl
  have hperm := (exponents_inj hu (v := .unitless) trivial).1 (h.trans hunitless.symm)
  have hnil : u.factors = [] := hperm.eq_nil
  rw [← simplify_factors hu, hnil]
  rfl

/-! ## The order of the bases of results -/

theorem sublist_multiply (hu : u.Normal) (hv : v.Normal) (h : u.multiply v = .ok w) :
    (bases w.factors).Sublist (joined (bases u.factors) (bases v.factors)) := by
  obtain ⟨q, hq, rfl⟩ := (multiply_eq_ok_iff hu hv).1 h
  rw [factors_simplify, ← Product.bases_gather Product.scales_pure hv.simplified.merged hq]
  exact List.filter_sublist.map base

theorem sublist_divide (hu : u.Normal) (hv : v.Normal) (h : u.divide v = .ok w) :
    (bases w.factors).Sublist (joined (bases u.factors) (bases v.factors)) := by
  obtain ⟨q, hq, rfl⟩ := (divide_eq_ok_iff hu hv).1 h
  rw [factors_simplify, ← Product.bases_gather Product.scales_negated hv.simplified.merged hq]
  exact List.filter_sublist.map base

theorem sublist_checkedPow (hu : u.Normal) (h : u.checkedPow a = .ok w) :
    (bases w.factors).Sublist (bases u.factors) := by
  obtain ⟨terms, hterms, rfl⟩ := (checkedPow_eq_ok_iff hu).1 h
  rw [factors_simplify, ← bases_of_raised hterms]
  exact List.filter_sublist.map base

/-- A power has the bases of the unit, unless the exponent is zero. -/
theorem bases_checkedPow (hu : u.Normal) (ha : a ≠ 0) (h : u.checkedPow a = .ok w) :
    bases w.factors = bases u.factors := by
  have ha0 : a.toInt ≠ 0 := fun h0 => ha (Int32.toInt_inj.1 h0)
  obtain ⟨terms, hterms, rfl⟩ := (checkedPow_eq_ok_iff hu).1 h
  rw [factors_of_simplified (hu.simplified.raised ha0 hterms), bases_of_raised hterms]

theorem checkedPow_zero (hu : u.Normal) (h : u.checkedPow 0 = .ok w) : w = .unitless := by
  refine eq_unitless_of_exponents (normal_checkedPow h) ?_
  rw [exponents_checkedPow hu h]
  exact zero_smul ℤ u.exponents

theorem nodup_joined_factors (hu : u.Normal) (hv : v.Normal) :
    (joined (bases u.factors) (bases v.factors)).Nodup :=
  nodup_joined hu.simplified.nodup hv.simplified.nodup

/-! ## Laws -/

theorem multiply_powers_iff (hu : u.Normal) (hc : c.toInt = a.toInt + b.toInt)
    (hx : u.checkedPow a = .ok x) (hy : u.checkedPow b = .ok y) :
    x.multiply y = .ok w ↔ u.checkedPow c = .ok w := by
  have hxn := normal_checkedPow hx
  have hyn := normal_checkedPow hy
  have hexponents : x.exponents + y.exponents = c.toInt • u.exponents := by
    rw [exponents_checkedPow hu hx, exponents_checkedPow hu hy, hc, add_smul]
  have horder : (joined (bases x.factors) (bases y.factors)).Sublist (bases u.factors) := by
    -- To the exponent zero no base is left of the first power, to any other one all are.
    by_cases ha : a = 0
    · obtain rfl := checkedPow_zero hu (ha ▸ hx)
      exact (joined_nil_left _).symm ▸ sublist_checkedPow hu hy
    · rw [bases_checkedPow hu ha hx, joined_of_subset (sublist_checkedPow hu hy).subset]
  exact (composes_multiply hxn hyn).eq_ok_iff (composes_checkedPow hu) hexponents
    (by rw [hexponents]) hu.simplified.nodup
    (fun h => (sublist_multiply hxn hyn h).trans horder) (sublist_checkedPow hu)

theorem checkedPow_checkedPow_iff (hu : u.Normal) (hc : c.toInt = a.toInt * b.toInt)
    (hx : u.checkedPow a = .ok x) : x.checkedPow b = .ok w ↔ u.checkedPow c = .ok w := by
  have hxn := normal_checkedPow hx
  have hexponents : b.toInt • x.exponents = c.toInt • u.exponents := by
    rw [exponents_checkedPow hu hx, smul_smul, mul_comm, ← hc]
  exact (composes_checkedPow hxn).eq_ok_iff (composes_checkedPow hu) hexponents
    (by rw [hexponents]) hu.simplified.nodup
    (fun h => (sublist_checkedPow hxn h).trans (sublist_checkedPow hu hx)) (sublist_checkedPow hu)

theorem checkedPow_multiply_iff (hu : u.Normal) (hv : v.Normal) (hz : u.multiply v = .ok z)
    (hx : u.checkedPow a = .ok x) (hy : v.checkedPow a = .ok y) :
    z.checkedPow a = .ok w ↔ x.multiply y = .ok w := by
  have hzn := normal_multiply hz
  have hxn := normal_checkedPow hx
  have hyn := normal_checkedPow hy
  have hexponents : a.toInt • z.exponents = x.exponents + y.exponents := by
    rw [exponents_multiply hu hv hz, exponents_checkedPow hu hx, exponents_checkedPow hv hy,
      smul_add]
  have horder : (joined (bases x.factors) (bases y.factors)).Sublist
      (joined (bases u.factors) (bases v.factors)) := by
    by_cases ha : a = 0
    · obtain rfl := checkedPow_zero hu (ha ▸ hx)
      obtain rfl := checkedPow_zero hv (ha ▸ hy)
      exact List.nil_sublist _
    · rw [bases_checkedPow hu ha hx, bases_checkedPow hv ha hy]
  exact (composes_checkedPow hzn).eq_ok_iff (composes_multiply hxn hyn) hexponents
    (by rw [hexponents]) (nodup_joined_factors hu hv)
    (fun h => (sublist_checkedPow hzn h).trans (sublist_multiply hu hv hz))
    (fun h => (sublist_multiply hxn hyn h).trans horder)

/-- A unit has an inverse unless one of its exponents is the least. -/
theorem returns_inverse_iff (hv : v.Normal) :
    Returns (v.checkedPow (-1)) ↔ ∀ b, v.exponents b ≠ Int32.minValue.toInt := by
  rw [returns_checkedPow_iff hv]
  refine forall_congr' fun b => ?_
  have hneg : ((-1 : Int32).toInt • v.exponents) b = -(exponentAt b v.factors).toInt :=
    neg_one_mul _
  rw [hneg, inRange_neg_iff, ne_eq, ← Int32.toInt_inj]
  rfl

theorem divide_iff_of_inverse (hu : u.Normal) (hv : v.Normal) (hx : v.checkedPow (-1) = .ok x) :
    u.divide v = .ok w ↔ u.multiply x = .ok w := by
  have hxn := normal_checkedPow hx
  have hexponents : u.exponents - v.exponents = u.exponents + x.exponents := by
    have hneg : x.exponents = -v.exponents := (exponents_checkedPow hv hx).trans (neg_one_zsmul _)
    rw [hneg, sub_eq_add_neg]
  refine (composes_divide hu hv).eq_ok_iff (composes_multiply hu hxn) hexponents ?_
    (nodup_joined_factors hu hv) (sublist_divide hu hv) fun h => ?_
  · rw [hexponents]
    exact and_iff_right ((returns_inverse_iff hv).1 ⟨x, hx⟩)
  · rw [← bases_checkedPow hv (by decide) hx]
    exact sublist_multiply hu hxn h

/-- A quotient is a product with the inverse. -/
theorem divide_eq_ok_iff_inverse (hu : u.Normal) (hv : v.Normal) :
    u.divide v = .ok w ↔ ∃ x, v.checkedPow (-1) = .ok x ∧ u.multiply x = .ok w := by
  constructor
  · intro h
    have hrange := ((returns_divide_iff hu hv).1 ⟨w, h⟩).1
    obtain ⟨x, hx⟩ := (returns_inverse_iff hv).2 hrange
    exact ⟨x, hx, (divide_iff_of_inverse hu hv hx).1 h⟩
  · rintro ⟨x, hx, h⟩
    exact (divide_iff_of_inverse hu hv hx).2 h

theorem divide_self (hu : u.Normal) (h : u.divide u = .ok w) : w = .unitless := by
  refine eq_unitless_of_exponents (normal_divide h) ?_
  rw [exponents_divide hu hu h, sub_self]

/-- The laws of powers hold of units in simplest form, the order of the terms included. Each side of a
law returns where the other one does, once the powers and the product that it is about have been
formed, and a quotient returns when the divisor has an inverse that can be multiplied by. -/
theorem power_laws (hu : u.Normal) (hv : v.Normal) (a b : Int32) :
    (∀ {c : Int32} {x y : AnyUnit}, c.toInt = a.toInt + b.toInt → u.checkedPow a = .ok x →
      u.checkedPow b = .ok y → ∀ w, x.multiply y = .ok w ↔ u.checkedPow c = .ok w) ∧
    (∀ {c : Int32} {x : AnyUnit}, c.toInt = a.toInt * b.toInt → u.checkedPow a = .ok x →
      ∀ w, x.checkedPow b = .ok w ↔ u.checkedPow c = .ok w) ∧
    (∀ {x y z : AnyUnit}, u.multiply v = .ok z → u.checkedPow a = .ok x →
      v.checkedPow a = .ok y → ∀ w, z.checkedPow a = .ok w ↔ x.multiply y = .ok w) ∧
    (∀ w, u.divide v = .ok w ↔ ∃ x, v.checkedPow (-1) = .ok x ∧ u.multiply x = .ok w) ∧
    (Returns (u.divide v) ↔ ∃ x, v.checkedPow (-1) = .ok x ∧ Returns (u.multiply x)) ∧
    ∀ {w : AnyUnit}, u.divide u = .ok w → w = .unitless := by
  refine ⟨fun hc hx hy w => ?_, fun hc hx w => ?_, fun hz hx hy w => ?_, fun w => ?_, ?_, ?_⟩
  · exact multiply_powers_iff hu hc hx hy
  · exact checkedPow_checkedPow_iff hu hc hx
  · exact checkedPow_multiply_iff hu hv hz hx hy
  · exact divide_eq_ok_iff_inverse hu hv
  · constructor
    · rintro ⟨w, h⟩
      obtain ⟨x, hx, h⟩ := (divide_eq_ok_iff_inverse hu hv).1 h
      exact ⟨x, hx, w, h⟩
    · rintro ⟨x, hx, w, h⟩
      exact ⟨w, (divide_eq_ok_iff_inverse hu hv).2 ⟨x, hx, h⟩⟩
  · exact divide_self hu

/-- A velocity and the second: the square of the velocity times its inverse square, the inverse square
of its square, the square of the velocity times the second, and the velocity divided by the second. -/
theorem power_laws_velocity :
    ∃ (meter second : NamedUnit) (u v x y z : AnyUnit),
      meter = .plain "m" .ofLength .one none ∧ second = .plain "s" .ofTime .one none ∧
      u = .product ⟨[⟨meter, 1⟩, ⟨second, -1⟩]⟩ ∧ v = .named second ∧ u.Normal ∧ v.Normal ∧
      u.checkedPow 2 = .ok x ∧ u.checkedPow (-2) = .ok y ∧ x.multiply y = .ok .unitless ∧
      u.checkedPow 0 = .ok .unitless ∧
      x.checkedPow (-2) = .ok (.product ⟨[⟨meter, -4⟩, ⟨second, 4⟩]⟩) ∧
      u.checkedPow (-4) = .ok (.product ⟨[⟨meter, -4⟩, ⟨second, 4⟩]⟩) ∧
      u.multiply v = .ok z ∧ z.checkedPow 2 = .ok (.power ⟨meter, 2⟩) ∧
      x.multiply (.power ⟨second, 2⟩) = .ok (.power ⟨meter, 2⟩) ∧
      u.multiply (.power ⟨second, -1⟩) = .ok (.product ⟨[⟨meter, 1⟩, ⟨second, -2⟩]⟩) ∧
      u.divide v = .ok (.product ⟨[⟨meter, 1⟩, ⟨second, -2⟩]⟩) ∧
      u.divide u = .ok .unitless := by
  obtain ⟨meter, hmeter⟩ : ∃ u, u = NamedUnit.plain "m" .ofLength .one none := ⟨_, rfl⟩
  obtain ⟨second, hsecond⟩ : ∃ u, u = NamedUnit.plain "s" .ofTime .one none := ⟨_, rfl⟩
  obtain ⟨u, hu⟩ : ∃ u, u = AnyUnit.product ⟨[⟨meter, 1⟩, ⟨second, -1⟩]⟩ := ⟨_, rfl⟩
  have hnormal : u.Normal := by
    subst hu hmeter hsecond
    exact ⟨⟨by decide, by decide⟩, le_rfl⟩
  have hx : u.checkedPow 2 = .ok (.product ⟨[⟨meter, 2⟩, ⟨second, -2⟩]⟩) := by
    subst hu hmeter hsecond
    rfl
  have hy : u.checkedPow (-2) = .ok (.product ⟨[⟨meter, -2⟩, ⟨second, 2⟩]⟩) := by
    subst hu hmeter hsecond
    rfl
  have hz : u.multiply (.named second) = .ok (.named meter) := by
    subst hu hmeter hsecond
    rfl
  have hsquare : (AnyUnit.named second).checkedPow 2 = .ok (.power ⟨second, 2⟩) := by
    subst hsecond
    rfl
  have hinverse : (AnyUnit.named second).checkedPow (-1) = .ok (.power ⟨second, -1⟩) := by
    subst hsecond
    rfl
  have hzero : u.checkedPow 0 = .ok .unitless := by
    subst hu hmeter hsecond
    rfl
  have hfourth : u.checkedPow (-4) = .ok (.product ⟨[⟨meter, -4⟩, ⟨second, 4⟩]⟩) := by
    subst hu hmeter hsecond
    rfl
  have harea : (AnyUnit.named meter).checkedPow 2 = .ok (.power ⟨meter, 2⟩) := by
    subst hmeter
    rfl
  have hquotient :
      u.multiply (.power ⟨second, -1⟩) = .ok (.product ⟨[⟨meter, 1⟩, ⟨second, -2⟩]⟩) := by
    subst hu hmeter hsecond
    rfl
  obtain ⟨w, hw⟩ : Returns (u.divide u) := by
    subst hu hmeter hsecond
    exact ⟨_, rfl⟩
  obtain ⟨hadd, hmul, hproduct, hdivide, -, hself⟩ :=
    power_laws (v := .named second) hnormal trivial 2 (-2)
  refine ⟨meter, second, u, _, _, _, _, hmeter, hsecond, hu, rfl, hnormal, trivial, hx, hy, ?_,
    hzero, ?_, hfourth, hz, harea, ?_, hquotient, ?_, ?_⟩
  · exact (hadd rfl hx hy _).2 hzero
  · exact (hmul rfl hx _).2 hfourth
  · exact (hproduct hz hx hsquare _).1 harea
  · exact (hdivide _).2 ⟨_, hinverse, hquotient⟩
  · exact hself hw ▸ hw

end AnyUnit

end Metrology
