import Mathlib.Algebra.Order.Field.Rat
import Mathlib.Data.Nat.Periodic
import Mathlib.Data.Rat.Lemmas
import Mathlib.Tactic.FieldSimp
import Mathlib.Tactic.Linarith
import Mathlib.Tactic.Ring
import Metrology.Ratio

/-!
# The number that a ratio stands for

`Ratio.value` reads a ratio as a rational number. Since a ratio is in lowest terms, no two ratios
have one value (`value_inj`), and every operation that ends computes exactly (`value_mul`,
`value_div`, `value_add`, `value_sub`, `value_pow`). For `make`, `inverse` and `mul` the value even
decides whether the operation ends (`make_eq_ok_iff`, `inverse_eq_ok_iff`, `mul_eq_ok_iff`). A power
counts no more factors than it needs, which is the same as counting all of them (`pow_eq`).
-/

namespace Metrology.Ratio

variable {a b c r : Ratio} {n d : Int64}

/-- The rational number of a ratio. -/
def value (r : Ratio) : ℚ := (r.num.toInt : ℚ) / r.den.toInt

theorem den_ne_zero (r : Ratio) : (r.den.toInt : ℚ) ≠ 0 := by
  have := r.den_pos
  exact_mod_cast this.ne'

theorem ext_toInt (hn : a.num.toInt = b.num.toInt) (hd : a.den.toInt = b.den.toInt) : a = b := by
  obtain ⟨an, ad, _, _⟩ := a
  obtain ⟨bn, bd, _, _⟩ := b
  obtain rfl := Int64.toInt_inj.1 hn
  obtain rfl := Int64.toInt_inj.1 hd
  rfl

/-- A fraction in lowest terms with the value of a ratio has its components. -/
theorem eq_components {p q : ℤ} (hq : 0 < q) (hpq : p.natAbs.Coprime q.natAbs)
    (h : r.value = p / q) : p = r.num.toInt ∧ q = r.den.toInt :=
  Rat.div_int_inj hq r.den_pos hpq r.reduced h.symm

theorem value_inj : a.value = b.value ↔ a = b := by
  constructor
  · intro h
    obtain ⟨hn, hd⟩ := eq_components b.den_pos b.reduced h
    exact ext_toInt hn.symm hd.symm
  · rintro rfl
    rfl

/-- The components of a ratio are those of its value in lowest terms. -/
theorem components_value (r : Ratio) :
    r.value.num = r.num.toInt ∧ (r.value.den : ℤ) = r.den.toInt :=
  ⟨Rat.num_div_eq_of_coprime r.den_pos r.reduced, Rat.den_div_eq_of_coprime r.den_pos r.reduced⟩

@[simp] theorem value_ofInt (n : Int64) : (ofInt n).value = n.toInt := by
  simp [value, ofInt]

@[simp] theorem value_zero : zero.value = 0 := by
  simp [zero]

@[simp] theorem value_one : one.value = 1 := by
  simp [one]

theorem value_eq_zero_iff : r.value = 0 ↔ r.num = 0 := by
  rw [value, div_eq_zero_iff, or_iff_left r.den_ne_zero, Int.cast_eq_zero]
  exact Int64.toInt_inj (y := 0)

theorem isZero_iff : r.isZero = true ↔ r.value = 0 := by
  rw [value_eq_zero_iff, isZero, beq_iff_eq]

theorem den_ne_minValue (r : Ratio) : r.den ≠ .minValue := by
  intro h
  have := r.den_pos
  rw [h] at this
  exact absurd this (by decide)

theorem den_ne_zero' (r : Ratio) : r.den ≠ 0 := by
  intro h
  have := r.den_pos
  rw [h] at this
  exact absurd this (by decide)

/-! ## Components -/

theorem magnitude_eq_ok_iff {p : ℕ} :
    magnitude n = .ok p ↔ n ≠ .minValue ∧ p = n.toInt.natAbs := by
  unfold magnitude
  rw [orFault_eq_ok_iff]
  constructor
  · intro h
    refine ⟨?_, Bounded.abs?_eq_some h⟩
    rintro rfl
    revert h
    exact (by decide : Bounded.abs? Int64.minValue = none) ▸ nofun
  · rintro ⟨hn, rfl⟩
    unfold Bounded.abs?
    split
    · rfl
    · rename_i hneg
      replace hneg : ¬ 0 ≤ n.toInt := hneg
      have hlt := natAbs_toInt_lt hn
      have hm : (Int64.ofInt (-n.toInt)).toInt = -n.toInt := by
        apply Int64.toInt_ofInt_of_le <;> omega
      have : Bounded.neg? n = some (Int64.ofInt (-n.toInt)) := Bounded.neg?_eq_some_iff.2 hm
      rw [this, Option.map_some]
      show some (Int64.ofInt (-n.toInt)).toInt.natAbs = some n.toInt.natAbs
      rw [hm, Int.natAbs_neg]

@[simp] theorem component_eq_ok_iff {x : ℤ} : component x = .ok n ↔ n.toInt = x := by
  unfold component
  rw [orFault_eq_ok_iff]
  exact Bounded.ofInt?_eq_some_iff

/-! ## Construction -/

/-- Lowest terms keep the proportion. -/
theorem lowestNum_mul (n d : Int64) : lowestNum n d * d.toInt = n.toInt * lowestDen n d := by
  have hcross : ((n.toInt.natAbs / n.toInt.natAbs.gcd d.toInt.natAbs : ℕ) : ℤ) * |d.toInt| =
      |n.toInt| * (d.toInt.natAbs / n.toInt.natAbs.gcd d.toInt.natAbs : ℕ) := by
    rw [Int.abs_eq_natAbs, Int.abs_eq_natAbs, ← Int.natCast_mul, ← Int.natCast_mul,
      Nat.div_mul_right_comm (Nat.gcd_dvd_left ..), Nat.mul_div_assoc _ (Nat.gcd_dvd_right ..)]
  unfold lowestNum lowestDen
  simp only [Int64.lt_iff_toInt_lt, Int64.toInt_zero, decide_eq_decide]
  -- The absolute values are taken apart by the signs of both sides.
  rcases lt_or_ge n.toInt 0 with hn | hn <;> rcases lt_or_ge d.toInt 0 with hd | hd
  · rw [if_pos (iff_of_true hn hd)]
    rw [abs_of_neg hn, abs_of_neg hd] at hcross
    linarith
  · rw [if_neg fun h => hd.not_gt (h.1 hn)]
    rw [abs_of_neg hn, abs_of_nonneg hd] at hcross
    linarith
  · rw [if_neg fun h => hn.not_gt (h.2 hd)]
    rw [abs_of_nonneg hn, abs_of_neg hd] at hcross
    linarith
  · rw [if_pos (iff_of_false hn.not_gt hd.not_gt)]
    rw [abs_of_nonneg hn, abs_of_nonneg hd] at hcross
    linarith

theorem value_lowest (hn : n ≠ .minValue) (hd : d ≠ .minValue) (h : d ≠ 0) :
    (lowest n d hn hd h).value = n.toInt / d.toInt := by
  have hd0 : (d.toInt : ℚ) ≠ 0 := by
    exact_mod_cast fun h0 => h (Int64.toInt_inj.1 h0)
  have hnum : (lowest n d hn hd h).num.toInt = lowestNum n d := toInt_ofInt_lowestNum d hn
  have hden : (lowest n d hn hd h).den.toInt = lowestDen n d := toInt_ofInt_lowestDen n hd
  have hl := (lowest n d hn hd h).den_ne_zero
  rw [hden] at hl
  rw [value, hnum, hden, div_eq_div_iff hl hd0]
  exact_mod_cast lowestNum_mul n d

theorem num_lowest_ne_minValue (hn : n ≠ .minValue) (hd : d ≠ .minValue) (h : d ≠ 0) :
    (lowest n d hn hd h).num ≠ .minValue := by
  have hnum : (lowest n d hn hd h).num.toInt = lowestNum n d := toInt_ofInt_lowestNum d hn
  have habs := natAbs_lowestNum n d
  have hle := Nat.div_le_self n.toInt.natAbs (n.toInt.natAbs.gcd d.toInt.natAbs)
  have hlt := natAbs_toInt_lt hn
  intro hmin
  rw [hmin, show Int64.minValue.toInt = -2 ^ 63 from rfl] at hnum
  omega

/-- A pair of integers has a ratio when the denominator is not zero and both absolute values are in
range. -/
theorem make_eq_ok_iff :
    make n d = .ok r ↔
      d ≠ 0 ∧ n ≠ .minValue ∧ d ≠ .minValue ∧ r.value = n.toInt / d.toInt := by
  unfold make
  split
  · simp [*]
  split
  · simp [*]
  split
  · simp [*]
  rename_i h hn hd
  rw [Except.ok.injEq, ← value_lowest hn hd h, value_inj]
  exact ⟨fun hr => ⟨h, hn, hd, hr.symm⟩, fun hr => hr.2.2.2.symm⟩

theorem num_ne_minValue_of_make (h : make n d = .ok r) : r.num ≠ .minValue := by
  unfold make at h
  split at h
  · cases h
  split at h
  · cases h
  split at h
  · cases h
  rename_i hd0 hn hd
  obtain rfl := Except.ok.inj h
  exact num_lowest_ne_minValue hn hd hd0

/-! ## Products and quotients -/

/-- Every ratio except nothing has a reciprocal, unless its numerator has no absolute value. -/
theorem inverse_eq_ok_iff :
    a.inverse = .ok r ↔ a.num ≠ 0 ∧ a.num ≠ .minValue ∧ r.value = a.value⁻¹ := by
  unfold inverse
  rw [make_eq_ok_iff, value, value, inv_div]
  have := a.den_ne_minValue
  tauto

/-- The greatest common divisor of the numerator of one ratio and the denominator of another. -/
def crossGcd (a b : Ratio) : ℕ := a.num.toInt.natAbs.gcd b.den.toInt.natAbs

/-- The numerator of a product, reduced across. -/
def crossNum (a b : Ratio) : ℤ := a.num.toInt / crossGcd a b * (b.num.toInt / crossGcd b a)

/-- The denominator of a product, reduced across. -/
def crossDen (a b : Ratio) : ℤ := a.den.toInt / crossGcd b a * (b.den.toInt / crossGcd a b)

theorem crossGcd_pos (a b : Ratio) : 0 < crossGcd a b :=
  Nat.gcd_pos_of_pos_right _ (Int.natAbs_pos.2 b.den_pos.ne')

theorem crossGcd_dvd_num (a b : Ratio) : (crossGcd a b : ℤ) ∣ a.num.toInt :=
  Int.natCast_dvd.2 (Nat.gcd_dvd_left ..)

theorem crossGcd_dvd_den (a b : Ratio) : (crossGcd a b : ℤ) ∣ b.den.toInt :=
  Int.natCast_dvd.2 (Nat.gcd_dvd_right ..)

theorem crossDen_pos (a b : Ratio) : 0 < crossDen a b :=
  Int.mul_pos
    (Int.ediv_pos_of_pos_of_dvd a.den_pos (Int.natCast_nonneg _) (crossGcd_dvd_den b a))
    (Int.ediv_pos_of_pos_of_dvd b.den_pos (Int.natCast_nonneg _) (crossGcd_dvd_den a b))

/-- Reducing across leaves a fraction in lowest terms. -/
theorem coprime_cross (a b : Ratio) : (crossNum a b).natAbs.Coprime (crossDen a b).natAbs := by
  have hab : (a.num.toInt.natAbs / crossGcd a b).Coprime (b.den.toInt.natAbs / crossGcd a b) :=
    Nat.coprime_div_gcd_div_gcd (crossGcd_pos a b)
  have hba : (b.num.toInt.natAbs / crossGcd b a).Coprime (a.den.toInt.natAbs / crossGcd b a) :=
    Nat.coprime_div_gcd_div_gcd (crossGcd_pos b a)
  have haa : (a.num.toInt.natAbs / crossGcd a b).Coprime (a.den.toInt.natAbs / crossGcd b a) :=
    (Nat.Coprime.coprime_div_left a.reduced (Nat.gcd_dvd_left ..)).coprime_div_right
      (Nat.gcd_dvd_right ..)
  have hbb : (b.num.toInt.natAbs / crossGcd b a).Coprime (b.den.toInt.natAbs / crossGcd a b) :=
    (Nat.Coprime.coprime_div_left b.reduced (Nat.gcd_dvd_left ..)).coprime_div_right
      (Nat.gcd_dvd_right ..)
  rw [crossNum, crossDen, Int.natAbs_mul, Int.natAbs_mul,
    Int.natAbs_ediv_of_dvd (crossGcd_dvd_num a b), Int.natAbs_ediv_of_dvd (crossGcd_dvd_num b a),
    Int.natAbs_ediv_of_dvd (crossGcd_dvd_den b a), Int.natAbs_ediv_of_dvd (crossGcd_dvd_den a b)]
  exact Nat.Coprime.mul_left (haa.mul_right hab) (hba.mul_right hbb)

theorem value_cross (a b : Ratio) :
    (crossNum a b : ℚ) / crossDen a b = a.value * b.value := by
  have hab : ((crossGcd a b : ℤ) : ℚ) ≠ 0 := by exact_mod_cast (crossGcd_pos a b).ne'
  have hba : ((crossGcd b a : ℤ) : ℚ) ≠ 0 := by exact_mod_cast (crossGcd_pos b a).ne'
  have hda := a.den_ne_zero
  have hdb := b.den_ne_zero
  rw [crossNum, crossDen, Int.cast_mul, Int.cast_mul, Int.cast_div (crossGcd_dvd_num a b) hab,
    Int.cast_div (crossGcd_dvd_num b a) hba, Int.cast_div (crossGcd_dvd_den b a) hba,
    Int.cast_div (crossGcd_dvd_den a b) hab, value, value]
  field_simp

/-- A product ends exactly when it has a ratio whose numerator has an absolute value. -/
theorem mul_eq_ok_iff :
    a.mul b = .ok c ↔ a.num ≠ .minValue ∧ b.num ≠ .minValue ∧ c.num ≠ .minValue ∧
      c.value = a.value * b.value := by
  unfold mul
  simp only [bind_eq_ok_iff, magnitude_eq_ok_iff, component_eq_ok_iff]
  constructor
  · rintro ⟨_, ⟨ha, rfl⟩, _, ⟨hb, rfl⟩, n, hn, d, hd, hc⟩
    replace hn : n.toInt = crossNum a b := hn
    replace hd : d.toInt = crossDen a b := hd
    refine ⟨ha, hb, num_ne_minValue_of_make hc, ?_⟩
    rw [(make_eq_ok_iff.1 hc).2.2.2, hn, hd, value_cross]
  · rintro ⟨ha, hb, hc, hv⟩
    -- The fraction is in lowest terms before `make` sees it, so it is `c` already.
    obtain ⟨hn, hd⟩ := eq_components (crossDen_pos a b) (coprime_cross a b)
      (hv.trans (value_cross a b).symm)
    refine ⟨_, ⟨ha, rfl⟩, _, ⟨hb, rfl⟩, c.num, hn.symm, c.den, hd.symm, ?_⟩
    exact make_eq_ok_iff.2 ⟨c.den_ne_zero', hc, c.den_ne_minValue, rfl⟩

theorem value_inverse (h : a.inverse = .ok r) : r.value = a.value⁻¹ :=
  (inverse_eq_ok_iff.1 h).2.2

theorem value_mul (h : a.mul b = .ok c) : c.value = a.value * b.value :=
  (mul_eq_ok_iff.1 h).2.2.2

theorem value_div (h : a.div b = .ok c) : c.value = a.value / b.value := by
  obtain ⟨r, hr, hc⟩ := bind_eq_ok_iff.1 h
  rw [value_mul hc, value_inverse hr, div_eq_mul_inv]

theorem value_ne_zero_of_div (h : a.div b = .ok c) : b.value ≠ 0 := by
  obtain ⟨r, hr, -⟩ := bind_eq_ok_iff.1 h
  exact fun h0 => (inverse_eq_ok_iff.1 hr).1 (value_eq_zero_iff.1 h0)

/-- Nothing can be divided by what something else has been divided by, and nothing is left. -/
theorem zero_div (h : a.div b = .ok c) : zero.div b = .ok zero := by
  obtain ⟨r, hr, -⟩ := bind_eq_ok_iff.1 h
  refine bind_eq_ok_iff.2 ⟨r, hr, mul_eq_ok_iff.2 ⟨by decide, ?_, by decide, ?_⟩⟩
  · exact num_ne_minValue_of_make hr
  · rw [value_zero, zero_mul]

/-! ## Sums and differences -/

theorem value_neg (h : a.neg = .ok r) : r.value = -a.value := by
  unfold neg at h
  split at h
  · rename_i n hn
    obtain rfl := Except.ok.inj h
    have hn : n.toInt = -a.num.toInt := Bounded.neg?_eq_some_iff.1 hn
    show (n.toInt : ℚ) / a.den.toInt = -a.value
    rw [hn, value, Int.cast_neg, neg_div]
  · cases h

theorem value_add (h : a.add b = .ok c) : c.value = a.value + b.value := by
  unfold add at h
  simp only [bind_eq_ok_iff, component_eq_ok_iff] at h
  obtain ⟨m, hm, n, hn, num, hnum, den, hden, hc⟩ := h
  let g := a.den.toInt.natAbs.gcd b.den.toInt.natAbs
  have hg0 : ((g : ℤ) : ℚ) ≠ 0 := by
    exact_mod_cast (Nat.gcd_pos_of_pos_right _ (Int.natAbs_pos.2 b.den_pos.ne')).ne'
  have hga : (g : ℤ) ∣ a.den.toInt := Int.natCast_dvd.2 (Nat.gcd_dvd_left ..)
  have hgb : (g : ℤ) ∣ b.den.toInt := Int.natCast_dvd.2 (Nat.gcd_dvd_right ..)
  have hda := a.den_ne_zero
  have hdb := b.den_ne_zero
  rw [(make_eq_ok_iff.1 hc).2.2.2, hnum, hden, hm, hn, Int.cast_add, Int.cast_mul, Int.cast_mul,
    Int.cast_mul, Int.cast_div hga hg0, Int.cast_div hgb hg0, value, value]
  field_simp

theorem value_sub (h : a.sub b = .ok c) : c.value = a.value - b.value := by
  obtain ⟨r, hr, hc⟩ := bind_eq_ok_iff.1 h
  rw [value_add hc, value_neg hr, sub_eq_add_neg]

/-! ## Powers -/

section Powers

variable {s t : Ratio} {k : ℕ}

theorem value_mulTimes (h : mulTimes s r k = .ok t) : t.value = s.value * r.value ^ k := by
  induction k generalizing t with
  | zero =>
    obtain rfl := Except.ok.inj h
    rw [pow_zero, mul_one]
  | succ k ih =>
    obtain ⟨x, hx, ht⟩ := bind_eq_ok_iff.1 h
    rw [value_mul ht, ih hx, pow_succ, mul_assoc]

theorem value_divTimes (h : divTimes s r k = .ok t) : t.value = s.value / r.value ^ k := by
  induction k generalizing t with
  | zero =>
    obtain rfl := Except.ok.inj h
    rw [pow_zero, div_one]
  | succ k ih =>
    obtain ⟨x, hx, ht⟩ := bind_eq_ok_iff.1 h
    rw [value_div ht, ih hx, pow_succ, div_div]

theorem value_ne_zero_of_divTimes (h : divTimes s r (k + 1) = .ok t) : r.value ≠ 0 := by
  obtain ⟨x, -, ht⟩ := bind_eq_ok_iff.1 h
  exact value_ne_zero_of_div ht

/-- Components that are not a sign double at least with every factor. -/
theorem sign_of_pow (h : t.value = r.value ^ 64) : r = zero ∨ r = one ∨ r = ofInt (-1) := by
  have hpow : t.value = ((r.num.toInt ^ 64 : ℤ) : ℚ) / (r.den.toInt ^ 64 : ℤ) := by
    rw [h, value, div_pow, Int.cast_pow, Int.cast_pow]
  have hco : (r.num.toInt ^ 64).natAbs.Coprime (r.den.toInt ^ 64).natAbs := by
    rw [Int.natAbs_pow, Int.natAbs_pow]
    exact Nat.Coprime.pow 64 64 r.reduced
  obtain ⟨hnum, hden⟩ := eq_components (pow_pos r.den_pos 64) hco hpow
  have hn : r.num.toInt.natAbs < 2 := by
    refine lt_of_pow_lt_pow_left₀ 64 (by norm_num) ?_
    rw [← Int.natAbs_pow, hnum]
    have := t.num.le_toInt
    have := t.num.toInt_lt
    omega
  have hd : r.den.toInt < 2 := by
    refine lt_of_pow_lt_pow_left₀ 64 (by norm_num) ?_
    rw [hden]
    have := t.den.toInt_lt
    omega
  have hd1 : r.den.toInt = 1 := by
    have := r.den_pos
    omega
  have hcases : r.num.toInt = 0 ∨ r.num.toInt = 1 ∨ r.num.toInt = -1 := by omega
  rcases hcases with h0 | h1 | h2
  · exact .inl (ext_toInt h0 hd1)
  · exact .inr (.inl (ext_toInt h1 hd1))
  · exact .inr (.inr (ext_toInt h2 hd1))

/-- A run that is back after two more steps where it was after 64, or has stopped there, need not be
followed further. -/
theorem run_factorCount {run : ℕ → Calc Ratio} {step : Ratio → Calc Ratio}
    (hstep : ∀ k, run (k + 1) = run k >>= step)
    (hcycle : ∀ t, run 64 = .ok t → (step t >>= step) = .ok t) (k : ℕ) :
    run (factorCount k) = run k := by
  have hperiodic : Function.Periodic (fun i => run (64 + i)) 2 := by
    intro i
    show run (64 + i + 1 + 1) = run (64 + i)
    induction i with
    | zero =>
      rw [hstep, hstep, Nat.add_zero]
      rcases h : run 64 with fault | t
      · rfl
      · exact hcycle t h
    | succ i ih => rw [← Nat.add_assoc, hstep, ih, ← hstep]
  unfold factorCount
  split
  · rfl
  · obtain ⟨i, rfl⟩ : ∃ i, k = 64 + i := ⟨k - 64, by omega⟩
    have hmod : (64 + i) % 2 = i % 2 := by omega
    rw [hmod]
    exact hperiodic.map_mod_nat i

theorem mulTimes_factorCount (r : Ratio) (k : ℕ) :
    mulTimes one r (factorCount k) = mulTimes one r k := by
  refine run_factorCount (fun _ => rfl) (fun t ht => ?_) k
  have hv := value_mulTimes ht
  rw [value_one, one_mul] at hv
  rcases sign_of_pow hv with rfl | rfl | rfl
  · obtain rfl : zero = t := value_inj.1 (by simp [hv])
    rfl
  · obtain rfl : one = t := value_inj.1 (by simp [hv])
    rfl
  · obtain rfl : one = t := value_inj.1 (by simp [hv, Even.neg_one_pow (show Even 64 by decide)])
    rfl

theorem divTimes_factorCount (r : Ratio) (k : ℕ) :
    divTimes one r (factorCount k) = divTimes one r k := by
  refine run_factorCount (fun _ => rfl) (fun t ht => ?_) k
  have hv := value_divTimes ht
  rw [value_one, one_div, ← inv_pow] at hv
  have hr0 := value_ne_zero_of_divTimes ht
  -- The divisor has a reciprocal, since a division by it has returned.
  obtain ⟨y, hy⟩ : ∃ y, r.inverse = .ok y := by
    obtain ⟨x, -, ht⟩ := bind_eq_ok_iff.1 ht
    obtain ⟨y, hy, -⟩ := bind_eq_ok_iff.1 ht
    exact ⟨y, hy⟩
  have hyr := value_inverse hy
  rw [← hyr] at hv
  have hry : r.value = y.value⁻¹ := by rw [hyr, inv_inv]
  rcases sign_of_pow hv with rfl | rfl | rfl
  · exact absurd (by simp [hry]) hr0
  · obtain rfl : one = r := value_inj.1 (by simp [hry])
    obtain rfl : one = t := value_inj.1 (by simp [hv])
    rfl
  · obtain rfl : ofInt (-1) = r := value_inj.1 (by simp [hry])
    obtain rfl : one = t := value_inj.1 (by simp [hv, Even.neg_one_pow (show Even 64 by decide)])
    rfl

/-- A power is formed factor by factor, however many there are. -/
theorem pow_eq (r : Ratio) (n : Int32) :
    r.pow n = if 0 ≤ n then mulTimes one r n.toInt.natAbs else divTimes one r n.toInt.natAbs := by
  unfold pow
  rw [mulTimes_factorCount, divTimes_factorCount]

theorem zpow_of_nonneg {x : ℚ} {m : ℤ} (hm : 0 ≤ m) : x ^ m = x ^ m.natAbs := by
  rw [← zpow_natCast, Int.natAbs_of_nonneg hm]

theorem zpow_of_neg {x : ℚ} {m : ℤ} (hm : m < 0) : x ^ m = (x ^ m.natAbs)⁻¹ := by
  rw [← zpow_natCast, ← zpow_neg, Int.ofNat_natAbs_of_nonpos hm.le, neg_neg]

theorem value_pow {n : Int32} (h : r.pow n = .ok t) : t.value = r.value ^ n.toInt := by
  have hsign : 0 ≤ n ↔ 0 ≤ n.toInt := Int32.le_iff_toInt_le
  rw [pow_eq] at h
  rcases lt_or_ge n.toInt 0 with hn | hn
  · rw [if_neg (mt hsign.1 hn.not_ge)] at h
    rw [value_divTimes h, value_one, one_div, zpow_of_neg hn]
  · rw [if_pos (hsign.2 hn)] at h
    rw [value_mulTimes h, value_one, one_mul, zpow_of_nonneg hn]

/-- Nothing has no negative powers. -/
theorem value_ne_zero_of_pow {n : Int32} (hn : n.toInt < 0) (h : r.pow n = .ok t) :
    r.value ≠ 0 := by
  have hneg : ¬ 0 ≤ n := fun h0 => hn.not_ge (Int32.le_iff_toInt_le.1 h0)
  rw [pow_eq, if_neg hneg] at h
  obtain ⟨k, hk⟩ := Nat.exists_eq_succ_of_ne_zero (Int.natAbs_ne_zero.2 hn.ne)
  rw [hk] at h
  exact value_ne_zero_of_divTimes h

end Powers

end Metrology.Ratio
