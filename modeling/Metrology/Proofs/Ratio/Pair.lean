import Metrology.Proofs.Ratio.Expression
import Metrology.Proofs.Ratio.Range
import Metrology.Record.Ratio

/-!
# Ratios and pairs

A ratio is written as the pair of its components, and a pair is read as the ratio that it stands for
(`ofPair_eq_ok_iff`). Reading takes the absolute values of both integers, so it stops at the least
integer on either side, whatever the pair stands for (`ofPair_of_minValue`). All other pairs are read
or refused, and all ratios are read back except the whole number that is the least integer, which no
other calculation arrives at (`num_eq_minValue_iff`).
-/

namespace Metrology.Ratio

open Json

variable {a b r : Ratio} {n d : Int64} {e : Expression}

/-! ## Reading a pair -/

theorem ofPair_zero (n : Int64) : ofPair n 0 = .error (.unit .zeroDenominator) := rfl

theorem ofPair_eq_ok_iff :
    ofPair n d = .ok r ↔
      d ≠ 0 ∧ n ≠ .minValue ∧ d ≠ .minValue ∧ r.value = n.toInt / d.toInt := by
  unfold ofPair
  split
  · rename_i h
    exact iff_of_false nofun fun hd => hd.1 h
  · rw [← make_eq_ok_iff]
    exact liftCalc_eq_ok_iff

theorem ofPair_of_minValue (hd : d ≠ 0) (h : n = .minValue ∨ d = .minValue) :
    ofPair n d = .error (.fault (.overflow .negation)) := by
  unfold ofPair make
  rw [if_neg hd, dif_neg hd]
  split
  · rfl
  · rename_i hn
    rw [dif_pos (h.resolve_left hn)]
    rfl

/-- A pair without the least integer is in the proportion of the ratio that is read. -/
theorem exists_ofPair (hd : d ≠ 0) (hn : n ≠ .minValue) (hmin : d ≠ .minValue) :
    ∃ r, ofPair n d = .ok r ∧ r.num.toInt * d.toInt = n.toInt * r.den.toInt := by
  have hd0 : (d.toInt : ℚ) ≠ 0 := by
    exact_mod_cast fun h0 => hd (Int64.toInt_inj.1 h0)
  have hvalue := value_lowest hn hmin hd
  refine ⟨lowest n d hn hmin hd, ofPair_eq_ok_iff.2 ⟨hd, hn, hmin, hvalue⟩, ?_⟩
  exact_mod_cast (div_eq_div_iff (den_ne_zero _) hd0).1 hvalue

/-! ## Reading what was written -/

theorem ofPair_toPair_iff : ofPair r.toPair.1 r.toPair.2 = .ok r ↔ r.num ≠ .minValue := by
  rw [ofPair_eq_ok_iff]
  exact ⟨fun h => h.2.1, fun h => ⟨r.den_ne_zero', h, r.den_ne_minValue, rfl⟩⟩

theorem decodeInt64_whole (n : Int64) : decodeInt64 (.whole n.toInt) = .ok n := by
  have hn : Bounded.ofInt? n.toInt = some n := Bounded.ofInt?_toInt n
  unfold decodeInt64 decodeBounded
  simp only [hn]

/-- A stored pair is read as the pair that it holds. -/
theorem ofValue_pair_eq_ok_iff :
    ofValue (.ofItems [.whole n.toInt, .whole d.toInt]) = .ok r ↔ ofPair n d = .ok r := by
  have hitems : decodeItems decodeInt64 2 pairText [.whole n.toInt, .whole d.toInt] none =
      .ok [n, d] := by
    unfold decodeItems
    simp [decodeInt64_whole, closedBehind]
  unfold ofValue Value.ofItems
  simp only [hitems]
  exact mapError_eq_ok_iff

theorem ofValue_toValue_iff : ofValue r.toValue = .ok r ↔ r.num ≠ .minValue :=
  ofValue_pair_eq_ok_iff.trans ofPair_toPair_iff

/-! ## Ratios that cannot be read back -/

theorem num_ne_minValue_of_mul (h : a.mul b = .ok r) : r.num ≠ .minValue :=
  (mul_eq_ok_iff.1 h).2.2.1

theorem num_ne_minValue_of_div (h : a.div b = .ok r) : r.num ≠ .minValue := by
  obtain ⟨c, -, h⟩ := bind_eq_ok_iff.1 h
  exact num_ne_minValue_of_mul h

theorem num_ne_minValue_of_add (h : a.add b = .ok r) : r.num ≠ .minValue := by
  unfold add at h
  simp only [bind_eq_ok_iff] at h
  obtain ⟨_, -, _, -, _, -, _, -, h⟩ := h
  exact num_ne_minValue_of_make h

theorem num_ne_minValue_of_pow {m : Int32} (h : a.pow m = .ok r) : r.num ≠ .minValue :=
  representable_value_iff.1 (value_pow h ▸ (returns_pow_iff.1 ⟨r, h⟩).2)

/-- Only as a whole number does the least integer become a numerator. -/
theorem num_eq_minValue_iff (h : e.evaluate = .ok r) :
    r.num = .minValue ↔ e = .ofInt .minValue := by
  cases e with
  | ofInt n =>
    obtain rfl := Except.ok.inj h
    rw [Expression.ofInt.injEq]
    rfl
  | make n d => exact iff_of_false (num_ne_minValue_of_make (liftCalc_eq_ok_iff.1 h)) nofun
  | ofPair n d =>
    obtain ⟨hd, hn, hmin, hr⟩ := ofPair_eq_ok_iff.1 h
    exact iff_of_false (num_ne_minValue_of_make (make_eq_ok_iff.2 ⟨hd, hn, hmin, hr⟩)) nofun
  | inverse a =>
    obtain ⟨x, -, h⟩ := bind_eq_ok_iff.1 h
    exact iff_of_false (num_ne_minValue_of_make (liftCalc_eq_ok_iff.1 h)) nofun
  | mul a b =>
    obtain ⟨x, -, h⟩ := bind_eq_ok_iff.1 h
    obtain ⟨y, -, h⟩ := bind_eq_ok_iff.1 h
    exact iff_of_false (num_ne_minValue_of_mul (liftCalc_eq_ok_iff.1 h)) nofun
  | div a b =>
    obtain ⟨x, -, h⟩ := bind_eq_ok_iff.1 h
    obtain ⟨y, -, h⟩ := bind_eq_ok_iff.1 h
    exact iff_of_false (num_ne_minValue_of_div (liftCalc_eq_ok_iff.1 h)) nofun
  | add a b =>
    obtain ⟨x, -, h⟩ := bind_eq_ok_iff.1 h
    obtain ⟨y, -, h⟩ := bind_eq_ok_iff.1 h
    exact iff_of_false (num_ne_minValue_of_add (liftCalc_eq_ok_iff.1 h)) nofun
  | sub a b =>
    obtain ⟨x, -, h⟩ := bind_eq_ok_iff.1 h
    obtain ⟨y, -, h⟩ := bind_eq_ok_iff.1 h
    obtain ⟨z, -, h⟩ := bind_eq_ok_iff.1 (liftCalc_eq_ok_iff.1 h)
    exact iff_of_false (num_ne_minValue_of_add h) nofun
  | pow a m =>
    obtain ⟨x, -, h⟩ := bind_eq_ok_iff.1 h
    exact iff_of_false (num_ne_minValue_of_pow (liftCalc_eq_ok_iff.1 h)) nofun

/-- A pair with denominator zero is refused, and every other pair without the least integer is read
in lowest terms. With that integer on either side the reading stops at an absolute value. What a
calculation arrives at is read back, from the pair and from the stored pair, unless it is the least
integer taken as a whole number. -/
theorem ofPair_unless_minValue (n d : Int64) :
    ofPair n 0 = .error (.unit .zeroDenominator) ∧
    (d ≠ 0 → n ≠ .minValue → d ≠ .minValue →
      ∃ r, ofPair n d = .ok r ∧ r.num.toInt.natAbs.gcd r.den.toInt.natAbs = 1 ∧
        0 < r.den.toInt ∧ r.num.toInt * d.toInt = n.toInt * r.den.toInt) ∧
    (d ≠ 0 → n = .minValue ∨ d = .minValue →
      ofPair n d = .error (.fault (.overflow .negation))) ∧
    ∀ {e : Expression} {r}, e.evaluate = .ok r →
      (ofPair r.toPair.1 r.toPair.2 = .ok r ↔ e ≠ .ofInt .minValue) ∧
      (ofValue r.toValue = .ok r ↔ e ≠ .ofInt .minValue) := by
  refine ⟨ofPair_zero n, fun hd hn hmin => ?_, ofPair_of_minValue, fun h => ?_⟩
  · obtain ⟨r, hr, hcross⟩ := exists_ofPair hd hn hmin
    exact ⟨r, hr, r.reduced, r.den_pos, hcross⟩
  · rw [ofPair_toPair_iff, ofValue_toValue_iff, ne_eq, num_eq_minValue_iff h]
    exact ⟨.rfl, .rfl⟩

/-- A pair in need of reduction, two pairs with the least integer, and a difference read back. -/
theorem ofPair_unless_minValue_inch :
    (∃ r, ofPair 254 (-10000) = .ok r ∧ r.num.toInt.natAbs.gcd r.den.toInt.natAbs = 1 ∧
      0 < r.den.toInt ∧ r.num.toInt * (-10000) = 254 * r.den.toInt) ∧
    ofPair .minValue 2 = .error (.fault (.overflow .negation)) ∧
    ofPair 2 .minValue = .error (.fault (.overflow .negation)) ∧
    ∃ (e : Expression) (r : Ratio), e = .sub (.make 45967 180) (.make 27315 100) ∧
      e.evaluate = .ok r ∧ e ≠ .ofInt .minValue ∧
      ofPair r.toPair.1 r.toPair.2 = .ok r ∧ ofValue r.toValue = .ok r := by
  obtain ⟨-, hread, -, hback⟩ := ofPair_unless_minValue 254 (-10000)
  have hnum := (ofPair_unless_minValue .minValue 2).2.2.1
  have hden := (ofPair_unless_minValue 2 .minValue).2.2.1
  obtain ⟨r, hr⟩ : Returns (Expression.evaluate (.sub (.make 45967 180) (.make 27315 100))) :=
    ⟨_, rfl⟩
  have hother : Expression.sub (.make 45967 180) (.make 27315 100) ≠ .ofInt .minValue := nofun
  exact ⟨hread (by decide) (by decide) (by decide), hnum (by decide) (.inl rfl),
    hden (by decide) (.inr rfl), _, r, rfl, hr, hother, (hback hr).1.2 hother,
    (hback hr).2.2 hother⟩

/-- The least integer over one is in lowest terms, and it is the pair of a ratio; yet it is not
read. -/
theorem ofPair_minValue_overflows :
    ∃ (n d : Int64) (r : Ratio), n = .minValue ∧ d = 1 ∧ d ≠ 0 ∧
      (Expression.ofInt n).evaluate = .ok r ∧ r.toPair = (n, d) ∧ r.value = n.toInt / d.toInt ∧
      ofPair n d = .error (.fault (.overflow .negation)) ∧ ofValue r.toValue ≠ .ok r :=
  ⟨.minValue, 1, ofInt .minValue, rfl, rfl, by decide, rfl, rfl, rfl,
    ofPair_of_minValue (by decide) (.inl rfl), fun h => ofValue_toValue_iff.1 h rfl⟩

end Metrology.Ratio
