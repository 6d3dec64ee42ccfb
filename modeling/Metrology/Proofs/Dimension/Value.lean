import Mathlib.Algebra.Group.Int.Defs
import Mathlib.Algebra.Group.Pi.Basic
import Mathlib.Algebra.Group.TypeTags.Basic
import Mathlib.Algebra.Module.Basic
import Mathlib.Data.Fin.VecNotation
import Mathlib.Data.Fintype.Basic
import Mathlib.Tactic.FinCases
import Metrology.Dimension

/-!
# The group of dimensions

`Dimension.value` reads a dimension as an element of the free abelian group on the seven base
dimensions, written multiplicatively. Reading loses nothing (`value_inj`), and the operations that
end are those of the group (`value_mul`, `value_div`, `value_pow`).
-/

namespace Metrology.Dimension

variable {a b c d : Dimension}

/-- The exponents as exact integers. -/
def value (d : Dimension) : Multiplicative (Fin 7 → ℤ) :=
  .ofAdd ![d.time.toInt, d.length.toInt, d.mass.toInt, d.electricCurrent.toInt,
    d.temperature.toInt, d.amountOfSubstance.toInt, d.luminousIntensity.toInt]

theorem value_inj : a.value = b.value ↔ a = b := by
  constructor
  · intro h
    have h := fun i => congrFun (Multiplicative.ofAdd.injective h) i
    obtain ⟨a0, a1, a2, a3, a4, a5, a6⟩ := a
    obtain ⟨b0, b1, b2, b3, b4, b5, b6⟩ := b
    obtain rfl := Int32.toInt_inj.1 (h 0)
    obtain rfl := Int32.toInt_inj.1 (h 1)
    obtain rfl := Int32.toInt_inj.1 (h 2)
    obtain rfl := Int32.toInt_inj.1 (h 3)
    obtain rfl := Int32.toInt_inj.1 (h 4)
    obtain rfl := Int32.toInt_inj.1 (h 5)
    obtain rfl := Int32.toInt_inj.1 (h 6)
    rfl
  · rintro rfl
    rfl

@[simp] theorem value_dimensionless : dimensionless.value = 1 := by
  refine Multiplicative.toAdd.injective (funext fun i => ?_)
  fin_cases i <;> rfl

/-- What an operation does exponent by exponent, it does to the vector. -/
theorem value_combine {f : Int32 → Int32 → Calc Int32} {g : ℤ → ℤ → ℤ}
    (hf : ∀ {x y z : Int32}, f x y = .ok z → z.toInt = g x.toInt y.toInt)
    (h : combine f a b = .ok c) (i : Fin 7) :
    c.value.toAdd i = g (a.value.toAdd i) (b.value.toAdd i) := by
  unfold combine at h
  simp only [bind_eq_ok_iff, pure_eq_ok_iff] at h
  obtain ⟨_, h0, _, h1, _, h2, _, h3, _, h4, _, h5, _, h6, rfl⟩ := h
  fin_cases i
  · exact hf h0
  · exact hf h1
  · exact hf h2
  · exact hf h3
  · exact hf h4
  · exact hf h5
  · exact hf h6

theorem value_mul (h : a.mul b = .ok c) : c.value = a.value * b.value := by
  refine Multiplicative.toAdd.injective (funext fun i => ?_)
  exact value_combine (g := fun x y => x + y)
    (fun h => Bounded.add?_eq_some_iff.1 (orFault_eq_ok_iff.1 h)) h i

theorem value_div (h : a.div b = .ok c) : c.value = a.value / b.value := by
  refine Multiplicative.toAdd.injective (funext fun i => ?_)
  exact value_combine (g := fun x y => x - y)
    (fun h => Bounded.sub?_eq_some_iff.1 (orFault_eq_ok_iff.1 h)) h i

theorem value_pow {n : Int32} (h : d.pow n = .ok c) : c.value = d.value ^ n.toInt := by
  refine Multiplicative.toAdd.injective (funext fun i => ?_)
  have hi := value_combine (g := fun x _ => x * n.toInt)
    (fun h => Bounded.mul?_eq_some_iff.1 (orFault_eq_ok_iff.1 h)) h i
  rw [hi, toAdd_zpow, Pi.smul_apply, smul_eq_mul, mul_comm]

end Metrology.Dimension
