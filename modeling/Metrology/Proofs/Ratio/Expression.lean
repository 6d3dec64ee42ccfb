import Metrology.Proofs.Fault.Results
import Metrology.Proofs.Ratio.Value

/-!
# Calculations with ratios

An `Expression` is built from pairs of integers and whole numbers by the operations on ratios. It is
evaluated operation by operation (`evaluate`), and it has an `exact` value in the rational numbers,
unless something in it is divided by zero. An evaluation that returns has a ratio in lowest terms, and
that is the exact value (`evaluate_in_lowest_terms`), wherever the operations on the way have reduced
their results or passed them on as they were.
-/

namespace Metrology.Ratio

/-- A calculation with ratios. -/
inductive Expression
  | make (n d : Int64)
  | ofPair (n d : Int64)
  | ofInt (n : Int64)
  | inverse (a : Expression)
  | mul (a b : Expression)
  | div (a b : Expression)
  | add (a b : Expression)
  | sub (a b : Expression)
  | pow (a : Expression) (n : Int32)
deriving DecidableEq, Repr

namespace Expression

variable {e f : Expression} {r s : Ratio} {n d : Int64}

/-- The ratio that the operations arrive at. -/
def evaluate : Expression → Attempt Ratio
  | make n d => Ratio.make n d
  | ofPair n d => Ratio.ofPair n d
  | ofInt n => .ok (Ratio.ofInt n)
  | inverse a => do (← a.evaluate).inverse
  | mul a b => do (← a.evaluate).mul (← b.evaluate)
  | div a b => do (← a.evaluate).div (← b.evaluate)
  | add a b => do (← a.evaluate).add (← b.evaluate)
  | sub a b => do (← a.evaluate).sub (← b.evaluate)
  | pow a n => do (← a.evaluate).pow n

/-! ## Exact values -/

/-- The quotient of two numbers, of which there is none by zero. -/
def quotient (x y : ℚ) : Option ℚ := if y = 0 then none else some (x / y)

/-- A whole power; zero has no negative ones. -/
def power (x : ℚ) (n : ℤ) : Option ℚ := if n < 0 ∧ x = 0 then none else some (x ^ n)

/-- The number that an expression stands for. -/
def exact : Expression → Option ℚ
  | make n d => quotient n.toInt d.toInt
  | ofPair n d => quotient n.toInt d.toInt
  | ofInt n => some n.toInt
  | inverse a => do quotient 1 (← a.exact)
  | mul a b => return (← a.exact) * (← b.exact)
  | div a b => do quotient (← a.exact) (← b.exact)
  | add a b => return (← a.exact) + (← b.exact)
  | sub a b => return (← a.exact) - (← b.exact)
  | pow a n => do power (← a.exact) n.toInt

theorem quotient_of_ne_zero {x y : ℚ} (h : y ≠ 0) : quotient x y = some (x / y) := if_neg h

/-! ## Evaluation is exact -/

theorem quotient_of_make (h : Ratio.make n d = .ok r) :
    quotient n.toInt d.toInt = some r.value := by
  obtain ⟨hd, -, -, hr⟩ := make_eq_ok_iff.1 h
  have hd0 : (d.toInt : ℚ) ≠ 0 := by
    exact_mod_cast fun h0 => hd (Int64.toInt_inj.1 h0)
  rw [quotient_of_ne_zero hd0, hr]

theorem power_of_pow {m : Int32} (h : r.pow m = .ok s) : power r.value m.toInt = some s.value := by
  unfold power
  rw [if_neg fun hm => value_ne_zero_of_pow hm.1 h hm.2, value_pow h]

/-- An evaluation that returns has the exact value, and nothing was divided by zero on the way. -/
theorem exact_of_evaluate (h : e.evaluate = .ok r) : e.exact = some r.value := by
  induction e generalizing r with
  | make n d => exact quotient_of_make (liftCalc_eq_ok_iff.1 h)
  | ofPair n d =>
    unfold evaluate Ratio.ofPair at h
    split at h
    · cases h
    · exact quotient_of_make (liftCalc_eq_ok_iff.1 h)
  | ofInt n =>
    obtain rfl := Except.ok.inj h
    simp [exact, value, Ratio.ofInt]
  | inverse a ih =>
    obtain ⟨x, hx, h⟩ := bind_eq_ok_iff.1 h
    obtain ⟨hx0, -, hr⟩ := inverse_eq_ok_iff.1 (liftCalc_eq_ok_iff.1 h)
    simp [exact, ih hx, quotient_of_ne_zero (mt value_eq_zero_iff.1 hx0), hr]
  | mul a b iha ihb =>
    obtain ⟨x, hx, h⟩ := bind_eq_ok_iff.1 h
    obtain ⟨y, hy, h⟩ := bind_eq_ok_iff.1 h
    simp [exact, iha hx, ihb hy, value_mul (liftCalc_eq_ok_iff.1 h)]
  | div a b iha ihb =>
    obtain ⟨x, hx, h⟩ := bind_eq_ok_iff.1 h
    obtain ⟨y, hy, h⟩ := bind_eq_ok_iff.1 h
    have hr := liftCalc_eq_ok_iff.1 h
    simp [exact, iha hx, ihb hy, quotient_of_ne_zero (value_ne_zero_of_div hr), value_div hr]
  | add a b iha ihb =>
    obtain ⟨x, hx, h⟩ := bind_eq_ok_iff.1 h
    obtain ⟨y, hy, h⟩ := bind_eq_ok_iff.1 h
    simp [exact, iha hx, ihb hy, value_add (liftCalc_eq_ok_iff.1 h)]
  | sub a b iha ihb =>
    obtain ⟨x, hx, h⟩ := bind_eq_ok_iff.1 h
    obtain ⟨y, hy, h⟩ := bind_eq_ok_iff.1 h
    simp [exact, iha hx, ihb hy, value_sub (liftCalc_eq_ok_iff.1 h)]
  | pow a m ih =>
    obtain ⟨x, hx, h⟩ := bind_eq_ok_iff.1 h
    simp [exact, ih hx, power_of_pow (liftCalc_eq_ok_iff.1 h)]

/-- An evaluation that returns has the components of the exact value in lowest terms. Two of them
have the same components exactly when they stand for one number. -/
theorem evaluate_in_lowest_terms :
    (∀ {e : Expression} {r : Ratio}, e.evaluate = .ok r →
      0 < r.den.toInt ∧ r.num.toInt.natAbs.gcd r.den.toInt.natAbs = 1 ∧
      ∃ x : ℚ, e.exact = some x ∧ x = r.num.toInt / r.den.toInt ∧
        x.num = r.num.toInt ∧ (x.den : ℤ) = r.den.toInt) ∧
    ∀ {e f : Expression} {r s : Ratio}, e.evaluate = .ok r → f.evaluate = .ok s →
      (r.sameAs s = true ↔ e.exact = f.exact) := by
  constructor
  · intro e r h
    exact ⟨r.den_pos, r.reduced, r.value, exact_of_evaluate h, rfl, r.components_value⟩
  · intro e f r s hr hs
    rw [exact_of_evaluate hr, exact_of_evaluate hs, Option.some.injEq, value_inj, Ratio.sameAs_iff]

/-- A power less a quotient, and the whole number that it is. -/
theorem evaluate_in_lowest_terms_difference :
    ∃ (e : Expression) (r : Ratio),
      e = sub (pow (add (make 2 6) (ofPair (-1) (-6))) (-2))
        (div (mul (make (-254) 10000) (ofInt 7)) (inverse (make 5000 (-127)))) ∧
      e.evaluate = .ok r ∧ 0 < r.den.toInt ∧ r.num.toInt.natAbs.gcd r.den.toInt.natAbs = 1 ∧
      (ofInt (-3)).evaluate = .ok r ∧ e.exact = (ofInt (-3)).exact := by
  obtain ⟨r, hr⟩ : Returns (evaluate (sub (pow (add (make 2 6) (ofPair (-1) (-6))) (-2))
    (div (mul (make (-254) 10000) (ofInt 7)) (inverse (make 5000 (-127)))))) := ⟨_, rfl⟩
  have hf : (ofInt (-3)).evaluate = .ok r := hr
  obtain ⟨hpos, hgcd, -⟩ := evaluate_in_lowest_terms.1 hr
  exact ⟨_, r, rfl, hr, hpos, hgcd, hf,
    (evaluate_in_lowest_terms.2 hr hf).1 (Ratio.sameAs_iff.2 rfl)⟩

end Expression

end Metrology.Ratio
