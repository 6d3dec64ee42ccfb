import Metrology.Proofs.Fault.Results
import Metrology.Proofs.Ratio.Value

/-!
# The range of a ratio

A number is `Representable` when its components in lowest terms have absolute values in range. Of two
ratios that are, the product, the reciprocal and the quotient return exactly when they are
representable as well (`returns_iff_result_representable`): reducing across comes to the components
of the result, and to nothing larger on the way. On the way to a power the components grow, so the
power alone decides whether its calculation returns (`returns_pow_iff`), and its components are the
powers of the components of the base (`pow_in_lowest_terms`).
-/

namespace Metrology.Ratio

variable {a b r t : Ratio} {q : ℚ} {k : ℕ} {n : Int32}

/-! ## Representable numbers -/

/-- Whether the absolute values of both components of a number are in range. -/
structure Representable (q : ℚ) : Prop where
  num_lt : q.num.natAbs < 2 ^ 63
  den_lt : q.den < 2 ^ 63

/-- The least integer is the only numerator without an absolute value. -/
theorem representable_value_iff : Representable r.value ↔ r.num ≠ .minValue := by
  obtain ⟨hnum, hden⟩ := r.components_value
  have hlt := r.den.toInt_lt
  constructor
  · intro h hmin
    have hnum_lt := h.num_lt
    rw [hnum, hmin, show Int64.minValue.toInt = -2 ^ 63 from rfl] at hnum_lt
    omega
  · intro h
    have hnum_lt := natAbs_toInt_lt h
    rw [← hnum] at hnum_lt
    exact ⟨hnum_lt, by omega⟩

/-- The representable numbers are those of the ratios whose numerator has an absolute value. -/
theorem representable_iff : Representable q ↔ ∃ r : Ratio, r.num ≠ .minValue ∧ r.value = q := by
  constructor
  · rintro ⟨hnum, hden⟩
    have hn : (Int64.ofInt q.num).toInt = q.num := by
      apply Int64.toInt_ofInt_of_le <;> omega
    have hd : (Int64.ofInt q.den).toInt = q.den := by
      apply Int64.toInt_ofInt_of_le <;> omega
    let r : Ratio :=
      { num := .ofInt q.num
        den := .ofInt q.den
        den_pos := by
          rw [hd]
          exact_mod_cast q.den_pos
        reduced := by
          rw [hn, hd]
          exact q.reduced }
    have hr : r.value = q := by
      show ((Int64.ofInt q.num).toInt : ℚ) / (Int64.ofInt q.den).toInt = q
      rw [hn, hd]
      exact_mod_cast Rat.num_div_den q
    exact ⟨r, representable_value_iff.1 (hr.symm ▸ ⟨hnum, hden⟩), hr⟩
  · rintro ⟨r, hr, rfl⟩
    exact representable_value_iff.2 hr

theorem representable_one : Representable 1 := ⟨by decide, by decide⟩

theorem Representable.inv (h : Representable q) : Representable q⁻¹ := by
  by_cases hq : q = 0
  · rwa [hq, inv_zero, ← hq]
  · have hnum : q⁻¹.num.natAbs = q.den := by
      rw [Rat.num_inv, Int.natAbs_mul, Int.natAbs_sign_of_ne_zero (Rat.num_ne_zero.2 hq), one_mul]
      rfl
    have hden : q⁻¹.den = q.num.natAbs := Rat.den_inv_of_ne_zero hq
    exact ⟨hnum ▸ h.den_lt, hden ▸ h.num_lt⟩

theorem representable_inv_iff : Representable q⁻¹ ↔ Representable q :=
  ⟨fun h => inv_inv q ▸ h.inv, Representable.inv⟩

/-! ## Products and quotients -/

theorem returns_mul_iff :
    Returns (a.mul b) ↔
      Representable a.value ∧ Representable b.value ∧ Representable (a.value * b.value) := by
  rw [representable_value_iff, representable_value_iff, representable_iff]
  constructor
  · rintro ⟨c, hc⟩
    obtain ⟨ha, hb, hc, hv⟩ := mul_eq_ok_iff.1 hc
    exact ⟨ha, hb, c, hc, hv⟩
  · rintro ⟨ha, hb, c, hc, hv⟩
    exact ⟨c, mul_eq_ok_iff.2 ⟨ha, hb, hc, hv⟩⟩

theorem returns_inverse_iff : Returns a.inverse ↔ a.value ≠ 0 ∧ Representable a.value := by
  constructor
  · rintro ⟨r, hr⟩
    obtain ⟨h0, hmin, -⟩ := inverse_eq_ok_iff.1 hr
    exact ⟨mt value_eq_zero_iff.1 h0, representable_value_iff.2 hmin⟩
  · rintro ⟨h0, h⟩
    obtain ⟨r, -, hr⟩ := representable_iff.1 h.inv
    exact ⟨r, inverse_eq_ok_iff.2
      ⟨mt value_eq_zero_iff.2 h0, representable_value_iff.1 h, hr⟩⟩

theorem returns_div_iff :
    Returns (a.div b) ↔
      b.value ≠ 0 ∧ Representable a.value ∧ Representable b.value ∧
        Representable (a.value / b.value) := by
  unfold div
  rw [returns_bind_iff, div_eq_mul_inv]
  constructor
  · rintro ⟨r, hr, h⟩
    obtain ⟨h0, hb⟩ := returns_inverse_iff.1 ⟨r, hr⟩
    obtain ⟨ha, -, hmul⟩ := returns_mul_iff.1 h
    exact ⟨h0, ha, hb, value_inverse hr ▸ hmul⟩
  · rintro ⟨h0, ha, hb, hmul⟩
    obtain ⟨r, hr⟩ := returns_inverse_iff.2 ⟨h0, hb⟩
    rw [← value_inverse hr] at hmul
    have hr' : Representable r.value := value_inverse hr ▸ hb.inv
    exact ⟨r, hr, returns_mul_iff.2 ⟨ha, hr', hmul⟩⟩

/-- Of ratios whose numerators have absolute values, the product, the quotient and the reciprocal
return whenever the exact result is representable, however large the products of their components
are. -/
theorem returns_iff_result_representable (ha : a.num ≠ .minValue) (hb : b.num ≠ .minValue) :
    (Returns (a.mul b) ↔ Representable (a.value * b.value)) ∧
      (Returns (a.div b) ↔ b.value ≠ 0 ∧ Representable (a.value / b.value)) ∧
      (Returns a.inverse ↔ a.value ≠ 0) := by
  have ha := representable_value_iff.2 ha
  have hb := representable_value_iff.2 hb
  refine ⟨?_, ?_, ?_⟩
  · rw [returns_mul_iff, and_iff_right ha, and_iff_right hb]
  · rw [returns_div_iff, and_iff_right ha, and_iff_right hb]
  · rw [returns_inverse_iff, and_iff_left ha]

/-- Half of the greatest integer, times its reciprocal and divided by it. -/
theorem returns_iff_result_representable_half :
    ∃ a b : Ratio, a = .mk .maxValue 2 ∧ b = .mk 2 .maxValue ∧
      a.num ≠ .minValue ∧ b.num ≠ .minValue ∧
      Returns (a.mul b) ∧ Representable (a.value * b.value) ∧
      ¬ Returns (a.div b) ∧ b.value ≠ 0 ∧ ¬ Representable (a.value / b.value) ∧
      Returns a.inverse ∧ a.value ≠ 0 := by
  refine ⟨.mk .maxValue 2, .mk 2 .maxValue, rfl, rfl, by decide, by decide, ?_⟩
  obtain ⟨hmul, hdiv, hinverse⟩ := returns_iff_result_representable
    (a := .mk .maxValue 2) (b := .mk 2 .maxValue) (by decide) (by decide)
  have hproduct : Returns (mul (.mk .maxValue 2) (.mk 2 .maxValue)) := ⟨one, rfl⟩
  have hquotient : ¬ Returns (div (.mk .maxValue 2) (.mk 2 .maxValue)) := nofun
  have hb : value (.mk 2 .maxValue) ≠ 0 := mt value_eq_zero_iff.1 (by decide)
  have ha : value (.mk .maxValue 2) ≠ 0 := mt value_eq_zero_iff.1 (by decide)
  exact ⟨hproduct, hmul.1 hproduct, hquotient, hb, fun h => hquotient (hdiv.2 ⟨hb, h⟩),
    hinverse.2 ha, ha⟩

/-! ## Powers -/

/-- The components of a power are not smaller than those of the power before it and of the base. -/
theorem Representable.of_pow_succ (h : Representable (q ^ (k + 1))) :
    Representable (q ^ k) ∧ Representable q := by
  have hmono : ∀ {x : ℕ}, x ^ (k + 1) < 2 ^ 63 → x ^ k < 2 ^ 63 ∧ x < 2 ^ 63 := by
    intro x hx
    rcases Nat.eq_zero_or_pos x with rfl | hpos
    · exact ⟨(pow_le_one' (Nat.zero_le 1) k).trans_lt (by decide), by decide⟩
    · have hself : x ≤ x ^ (k + 1) := Nat.le_self_pow k.succ_ne_zero x
      have hprev : x ^ k ≤ x ^ (k + 1) := Nat.pow_le_pow_right hpos k.le_succ
      exact ⟨hprev.trans_lt hx, hself.trans_lt hx⟩
  obtain ⟨hnum, hden⟩ := h
  rw [Rat.num_pow, Int.natAbs_pow] at hnum
  rw [Rat.den_pow] at hden
  refine ⟨⟨?_, ?_⟩, (hmono hnum).2, (hmono hden).2⟩
  · rw [Rat.num_pow, Int.natAbs_pow]
    exact (hmono hnum).1
  · rw [Rat.den_pow]
    exact (hmono hden).1

theorem returns_mulTimes_iff : Returns (mulTimes one r k) ↔ Representable (r.value ^ k) := by
  induction k with
  | zero => exact iff_of_true ⟨one, rfl⟩ (pow_zero r.value ▸ representable_one)
  | succ k ih =>
    have hvalue : ∀ {x}, mulTimes one r k = .ok x → x.value = r.value ^ k := fun hx => by
      rw [value_mulTimes hx, value_one, one_mul]
    show Returns (mulTimes one r k >>= fun x => x.mul r) ↔ _
    rw [returns_bind_iff]
    constructor
    · rintro ⟨x, hx, h⟩
      rw [pow_succ, ← hvalue hx]
      exact (returns_mul_iff.1 h).2.2
    · intro h
      obtain ⟨hprev, hbase⟩ := h.of_pow_succ
      obtain ⟨x, hx⟩ := ih.2 hprev
      rw [pow_succ] at h
      rw [← hvalue hx] at h hprev
      exact ⟨x, hx, returns_mul_iff.2 ⟨hprev, hbase, h⟩⟩

theorem returns_divTimes_iff :
    Returns (divTimes one r k) ↔ (0 < k → r.value ≠ 0) ∧ Representable (r.value ^ k) := by
  induction k with
  | zero => exact iff_of_true ⟨one, rfl⟩ ⟨nofun, pow_zero r.value ▸ representable_one⟩
  | succ k ih =>
    have hvalue : ∀ {x}, divTimes one r k = .ok x → x.value = (r.value ^ k)⁻¹ := fun hx => by
      rw [value_divTimes hx, value_one, one_div]
    have hsucc : (r.value ^ k)⁻¹ / r.value = (r.value ^ (k + 1))⁻¹ := by
      rw [pow_succ, mul_inv, div_eq_mul_inv]
    show Returns (divTimes one r k >>= fun x => x.div r) ↔ _
    rw [returns_bind_iff]
    constructor
    · rintro ⟨x, hx, h⟩
      obtain ⟨h0, -, -, hdiv⟩ := returns_div_iff.1 h
      rw [hvalue hx, hsucc, representable_inv_iff] at hdiv
      exact ⟨fun _ => h0, hdiv⟩
    · rintro ⟨h0, h⟩
      obtain ⟨hprev, hbase⟩ := h.of_pow_succ
      have h0 := h0 k.succ_pos
      obtain ⟨x, hx⟩ := ih.2 ⟨fun _ => h0, hprev⟩
      refine ⟨x, hx, returns_div_iff.2 ⟨h0, ?_, hbase, ?_⟩⟩
      · rw [hvalue hx]
        exact hprev.inv
      · rw [hvalue hx, hsucc]
        exact h.inv

/-- A power returns exactly when it is representable, unless nothing is raised to a negative
exponent. -/
theorem returns_pow_iff :
    Returns (r.pow n) ↔ (n.toInt < 0 → r.value ≠ 0) ∧ Representable (r.value ^ n.toInt) := by
  have hsign : 0 ≤ n ↔ 0 ≤ n.toInt := Int32.le_iff_toInt_le
  rw [pow_eq]
  rcases lt_or_ge n.toInt 0 with hn | hn
  · have hcount : 0 < n.toInt.natAbs ↔ n.toInt < 0 := by omega
    rw [if_neg (mt hsign.1 hn.not_ge), returns_divTimes_iff, zpow_of_neg hn, representable_inv_iff,
      hcount]
  · rw [if_pos (hsign.2 hn), returns_mulTimes_iff, zpow_of_nonneg hn]
    exact (and_iff_right fun hneg => absurd hn hneg.not_ge).symm

/-! ## The components of a power -/

theorem num_value_pow (r : Ratio) (k : ℕ) : (r.value ^ k).num = r.num.toInt ^ k := by
  rw [Rat.num_pow, r.components_value.1]

theorem den_value_pow (r : Ratio) (k : ℕ) : ((r.value ^ k).den : ℤ) = r.den.toInt ^ k := by
  rw [Rat.den_pow, Nat.cast_pow, r.components_value.2]

theorem representable_value_pow_iff :
    Representable (r.value ^ k) ↔
      r.num.toInt.natAbs ^ k < 2 ^ 63 ∧ r.den.toInt.natAbs ^ k < 2 ^ 63 := by
  have hnum : (r.value ^ k).num.natAbs = r.num.toInt.natAbs ^ k := by
    rw [num_value_pow, Int.natAbs_pow]
  have hden : (r.value ^ k).den = r.den.toInt.natAbs ^ k := by
    rw [← Int.natAbs_pow, ← den_value_pow, Int.natAbs_natCast]
  rw [← hnum, ← hden]
  exact ⟨fun h => ⟨h.num_lt, h.den_lt⟩, fun h => ⟨h.1, h.2⟩⟩

/-- A power returns exactly when the powers of both components are in range, and these are its
components then. With a negative exponent they change places, and the sign stays above. -/
theorem pow_in_lowest_terms (r : Ratio) (n : Int32) :
    (0 ≤ n.toInt →
      (Returns (r.pow n) ↔
        r.num.toInt.natAbs ^ n.toInt.natAbs < 2 ^ 63 ∧
        r.den.toInt.natAbs ^ n.toInt.natAbs < 2 ^ 63) ∧
      ∀ {t}, r.pow n = .ok t →
        t.num.toInt = r.num.toInt ^ n.toInt.natAbs ∧
        t.den.toInt = r.den.toInt ^ n.toInt.natAbs) ∧
    (n.toInt < 0 →
      (Returns (r.pow n) ↔
        r.num ≠ 0 ∧ r.num.toInt.natAbs ^ n.toInt.natAbs < 2 ^ 63 ∧
        r.den.toInt.natAbs ^ n.toInt.natAbs < 2 ^ 63) ∧
      ∀ {t}, r.pow n = .ok t →
        t.num.toInt = (r.num.toInt ^ n.toInt.natAbs).sign * r.den.toInt ^ n.toInt.natAbs ∧
        t.den.toInt = |r.num.toInt| ^ n.toInt.natAbs) := by
  have hcomponents : ∀ {t q}, r.pow n = .ok t → r.value ^ n.toInt = q →
      t.num.toInt = q.num ∧ t.den.toInt = q.den := by
    rintro t _ ht rfl
    rw [← value_pow ht, t.components_value.1, t.components_value.2]
    exact ⟨rfl, rfl⟩
  constructor
  · intro hn
    constructor
    · rw [returns_pow_iff, zpow_of_nonneg hn, representable_value_pow_iff]
      exact and_iff_right fun hneg => absurd hn hneg.not_ge
    · intro t ht
      rw [← num_value_pow, ← den_value_pow]
      exact hcomponents ht (zpow_of_nonneg hn)
  · intro hn
    constructor
    · rw [returns_pow_iff, zpow_of_neg hn, representable_inv_iff, representable_value_pow_iff,
        ne_eq, value_eq_zero_iff]
      exact and_congr_left fun _ => forall_prop_of_true hn
    · intro t ht
      have h0 := pow_ne_zero n.toInt.natAbs (value_ne_zero_of_pow hn ht)
      rw [← abs_pow, ← num_value_pow, ← den_value_pow, Int.abs_eq_natAbs,
        ← Rat.den_inv_of_ne_zero h0, ← Rat.num_inv]
      exact hcomponents ht (zpow_of_neg hn)

/-- The third power of a negative ratio and of its reciprocal, and the power of `-1` to the least
exponent. -/
theorem pow_in_lowest_terms_negative :
    (∃ t, pow (.mk (-2) 3) 3 = .ok t ∧ t.num.toInt = -8 ∧ t.den.toInt = 27) ∧
    (∃ t, pow (.mk (-2) 3) (-3) = .ok t ∧ t.num.toInt = -27 ∧ t.den.toInt = 8) ∧
    Returns (pow (ofInt (-1)) .minValue) ∧ ¬ Returns (pow (.mk 1 3) (-40)) := by
  have hup := (pow_in_lowest_terms (.mk (-2) 3) 3).1 (by decide)
  have hdown := (pow_in_lowest_terms (.mk (-2) 3) (-3)).2 (by decide)
  have hlarge := (pow_in_lowest_terms (.mk 1 3) (-40)).2 (by decide)
  -- The exponent is kept general, since this power is not evaluated.
  have hsign : ∀ n : Int32, n.toInt < 0 → Returns (pow (ofInt (-1)) n) := fun n hn =>
    ((pow_in_lowest_terms (ofInt (-1)) n).2 hn).1.2
      ⟨by decide, (one_pow _).trans_lt (by decide), (one_pow _).trans_lt (by decide)⟩
  obtain ⟨t, ht⟩ := hup.1.2 (by decide)
  obtain ⟨s, hs⟩ := hdown.1.2 (by decide)
  exact ⟨⟨t, ht, hup.2 ht⟩, ⟨s, hs, hdown.2 hs⟩, hsign .minValue (by decide),
    fun h => absurd (hlarge.1.1 h).2.2 (by decide)⟩

end Metrology.Ratio
