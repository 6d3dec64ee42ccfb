import Mathlib.Algebra.Ring.Int.Defs
import Metrology.Bounded
import Metrology.Proofs.Fault.Results

/-!
# The range of an exponent

`InRange` says of an exact integer that it is an exponent. An operation on exponents returns exactly
when its exact result is in range (`returns_ofInt_iff`).
-/

namespace Metrology

/-- Whether an exact integer is an exponent. -/
def InRange (x : ℤ) : Prop := -2 ^ 31 ≤ x ∧ x < 2 ^ 31

theorem inRange_iff {x : ℤ} : InRange x ↔ ∃ e : Int32, e.toInt = x := by
  constructor
  · rintro ⟨hmin, hmax⟩
    exact ⟨.ofInt x, Int32.toInt_ofInt_of_le hmin hmax⟩
  · rintro ⟨e, rfl⟩
    exact ⟨e.le_toInt, e.toInt_lt⟩

theorem inRange_toInt (e : Int32) : InRange e.toInt := inRange_iff.2 ⟨e, rfl⟩

/-- The least exponent is the only one without a negative. -/
theorem inRange_neg_iff {e : Int32} : InRange (-e.toInt) ↔ e ≠ .minValue := by
  have hmin := e.le_toInt
  have hmax := e.toInt_lt
  have hvalue : Int32.minValue.toInt = -2 ^ 31 := rfl
  rw [ne_eq, ← Int32.toInt_inj, hvalue]
  unfold InRange
  omega

theorem returns_ofInt_iff {x : ℤ} {fault : Fault} :
    Returns (orFault (Bounded.ofInt? x : Option Int32) fault) ↔ InRange x := by
  rw [returns_orFault_iff, inRange_iff]
  simp only [Bounded.ofInt?_eq_some_iff]
  rfl

end Metrology
