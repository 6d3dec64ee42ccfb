import Metrology.Proofs.Bounded.Range
import Metrology.Proofs.Dimension.Value

/-!
# The range of a dimension

Seven exact exponents are `Expressible` when each is in range. A product and a power of dimensions
return exactly when their exact exponents are (`returns_mul_iff`, `returns_pow_iff`). The powers of a
dimension are all expressible when it has no exponents but zero and one
(`forall_expressible_zpow_iff`).
-/

namespace Metrology.Dimension

variable {a b d : Dimension} {n : Int32}

/-- Whether each of seven exact exponents is in range. -/
def Expressible (v : Multiplicative (Fin 7 → ℤ)) : Prop := ∀ i, InRange (v.toAdd i)

/-- The exponent of a dimension at one of the base dimensions. -/
def exponent (d : Dimension) : Fin 7 → Int32 :=
  ![d.time, d.length, d.mass, d.electricCurrent, d.temperature, d.amountOfSubstance,
    d.luminousIntensity]

theorem toAdd_value (d : Dimension) (i : Fin 7) : d.value.toAdd i = (d.exponent i).toInt := by
  fin_cases i <;> rfl

theorem expressible_value (d : Dimension) : Expressible d.value := fun i =>
  toAdd_value d i ▸ inRange_toInt _

theorem expressible_one : Expressible 1 := value_dimensionless ▸ expressible_value dimensionless

theorem toAdd_value_zpow (d : Dimension) (x : ℤ) (i : Fin 7) :
    (d.value ^ x).toAdd i = (d.exponent i).toInt * x := by
  rw [toAdd_zpow, Pi.smul_apply, smul_eq_mul, mul_comm, toAdd_value]

/-- What is done exponent by exponent returns when it does at each exponent. -/
theorem returns_combine_iff {f : Int32 → Int32 → Calc Int32} {g : ℤ → ℤ → ℤ}
    (hf : ∀ x y, Returns (f x y) ↔ InRange (g x.toInt y.toInt)) :
    Returns (combine f a b) ↔ ∀ i, InRange (g (a.value.toAdd i) (b.value.toAdd i)) := by
  constructor
  · rintro ⟨c, hc⟩ i
    unfold combine at hc
    simp only [bind_eq_ok_iff] at hc
    obtain ⟨_, h0, _, h1, _, h2, _, h3, _, h4, _, h5, _, h6, -⟩ := hc
    fin_cases i
    · exact (hf _ _).1 ⟨_, h0⟩
    · exact (hf _ _).1 ⟨_, h1⟩
    · exact (hf _ _).1 ⟨_, h2⟩
    · exact (hf _ _).1 ⟨_, h3⟩
    · exact (hf _ _).1 ⟨_, h4⟩
    · exact (hf _ _).1 ⟨_, h5⟩
    · exact (hf _ _).1 ⟨_, h6⟩
  · intro h
    obtain ⟨_, h0⟩ := (hf _ _).2 (h 0)
    obtain ⟨_, h1⟩ := (hf _ _).2 (h 1)
    obtain ⟨_, h2⟩ := (hf _ _).2 (h 2)
    obtain ⟨_, h3⟩ := (hf _ _).2 (h 3)
    obtain ⟨_, h4⟩ := (hf _ _).2 (h 4)
    obtain ⟨_, h5⟩ := (hf _ _).2 (h 5)
    obtain ⟨_, h6⟩ := (hf _ _).2 (h 6)
    unfold combine
    rw [h0, h1, h2, h3, h4, h5, h6]
    exact ⟨_, rfl⟩

theorem returns_mul_iff : Returns (a.mul b) ↔ Expressible (a.value * b.value) :=
  returns_combine_iff (g := fun x y => x + y) fun _ _ => returns_ofInt_iff

theorem returns_pow_iff : Returns (d.pow n) ↔ Expressible (d.value ^ n.toInt) := by
  refine (returns_combine_iff (g := fun x _ => x * n.toInt) fun _ _ => returns_ofInt_iff).trans ?_
  refine forall_congr' fun i => ?_
  rw [toAdd_value, toAdd_value_zpow]

/-- The least exponent takes every dimension out of range that has an exponent other than zero and
one. -/
theorem forall_expressible_zpow_iff :
    (∀ n : Int32, Expressible (d.value ^ n.toInt)) ↔ ∀ i, d.exponent i = 0 ∨ d.exponent i = 1 := by
  have hzero : (0 : Int32).toInt = 0 := rfl
  have hone : (1 : Int32).toInt = 1 := rfl
  have hmin : Int32.minValue.toInt = -2 ^ 31 := rfl
  constructor
  · intro h i
    have hrange := h .minValue i
    rw [toAdd_value_zpow, hmin] at hrange
    obtain ⟨hlow, hhigh⟩ := hrange
    rw [← Int32.toInt_inj, ← Int32.toInt_inj, hzero, hone]
    omega
  · intro h n i
    rw [toAdd_value_zpow]
    rcases h i with hi | hi
    · rw [hi, hzero, zero_mul]
      exact inRange_toInt 0
    · rw [hi, hone, one_mul]
      exact inRange_toInt n

end Metrology.Dimension
