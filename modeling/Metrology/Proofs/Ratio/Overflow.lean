import Metrology.Proofs.Fault.Results
import Metrology.Proofs.Ratio.Value

/-!
# What stops the arithmetic of ratios

Apart from a denominator or a divisor of zero, an operation on ratios is stopped by nothing but an
integer that leaves its range. The denominators that sums and products come to are positive, so the
last step never meets a zero.
-/

namespace Metrology.Ratio

variable {a b : Ratio} {n d : Int64}

theorem onlyOverflows_magnitude : OnlyOverflows (magnitude n) := stopsOnly_orFault rfl

theorem onlyOverflows_component (x : ℤ) : OnlyOverflows (component x) := stopsOnly_orFault rfl

theorem onlyOverflows_make (hd : d ≠ 0) : OnlyOverflows (make n d) := by
  unfold make
  rw [dif_neg hd]
  split
  · exact stopsOnly_error rfl
  split
  · exact stopsOnly_error rfl
  · exact stopsOnly_ok _

/-- A pair whose denominator is read from a positive number makes a ratio. -/
theorem onlyOverflows_make_of_pos {x : ℤ} (hx : 0 < x) (hd : component x = .ok d) :
    OnlyOverflows (make n d) := by
  refine onlyOverflows_make fun h0 => ?_
  have hzero : d.toInt = 0 := h0 ▸ rfl
  rw [component_eq_ok_iff.1 hd] at hzero
  omega

theorem onlyOverflows_inverse (ha : a.value ≠ 0) : OnlyOverflows a.inverse :=
  onlyOverflows_make (mt value_eq_zero_iff.2 ha)

theorem onlyOverflows_mul (a b : Ratio) : OnlyOverflows (a.mul b) := by
  refine onlyOverflows_magnitude.bind fun p hp => onlyOverflows_magnitude.bind fun q hq => ?_
  refine (onlyOverflows_component _).bind fun n _ => (onlyOverflows_component _).bind fun d hd => ?_
  obtain rfl := (magnitude_eq_ok_iff.1 hp).2
  obtain rfl := (magnitude_eq_ok_iff.1 hq).2
  exact onlyOverflows_make_of_pos (crossDen_pos a b) hd

theorem onlyOverflows_div (hb : b.value ≠ 0) : OnlyOverflows (a.div b) :=
  (onlyOverflows_inverse hb).bind fun c _ => onlyOverflows_mul a c

theorem onlyOverflows_add (a b : Ratio) : OnlyOverflows (a.add b) := by
  have hdvd : (a.den.toInt.natAbs.gcd b.den.toInt.natAbs : ℤ) ∣ b.den.toInt :=
    Int.natCast_dvd.2 (Nat.gcd_dvd_right ..)
  have hpos : 0 < b.den.toInt / a.den.toInt.natAbs.gcd b.den.toInt.natAbs :=
    Int.ediv_pos_of_pos_of_dvd b.den_pos (Int.natCast_nonneg _) hdvd
  refine (onlyOverflows_component _).bind fun m _ => (onlyOverflows_component _).bind fun n _ => ?_
  refine (onlyOverflows_component _).bind fun p _ => (onlyOverflows_component _).bind fun d hd => ?_
  exact onlyOverflows_make_of_pos (Int.mul_pos a.den_pos hpos) hd

theorem onlyOverflows_neg (a : Ratio) : OnlyOverflows a.neg := by
  unfold neg
  split
  · exact stopsOnly_ok _
  · exact stopsOnly_error rfl

theorem onlyOverflows_sub (a b : Ratio) : OnlyOverflows (a.sub b) :=
  (onlyOverflows_neg b).bind fun c _ => onlyOverflows_add a c

theorem onlyOverflows_mulTimes (a b : Ratio) (k : ℕ) : OnlyOverflows (mulTimes a b k) := by
  induction k with
  | zero => exact stopsOnly_ok a
  | succ k ih => exact ih.bind fun c _ => onlyOverflows_mul c b

theorem onlyOverflows_divTimes (hb : b.value ≠ 0) (k : ℕ) : OnlyOverflows (divTimes a b k) := by
  induction k with
  | zero => exact stopsOnly_ok a
  | succ k ih => exact ih.bind fun _ _ => onlyOverflows_div hb

theorem onlyOverflows_pow (ha : a.value ≠ 0) (n : Int32) : OnlyOverflows (a.pow n) := by
  unfold pow
  split
  · exact onlyOverflows_mulTimes _ _ _
  · exact onlyOverflows_divTimes ha _

end Metrology.Ratio
