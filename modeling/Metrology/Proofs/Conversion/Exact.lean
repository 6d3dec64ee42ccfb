import Metrology.Proofs.Conversion.Affine
import Metrology.Scalar

/-!
# Exact payloads

Over rational numbers nothing is rounded: a conversion is its affine map (`value_apply`), also where
it leaves a multiplier of one or an offset of zero out.
-/

namespace Metrology

/-- A rational number as the value of a quantity. -/
@[ext] structure Exact where
  value : ℚ
deriving DecidableEq

namespace Exact

instance : Scalar Exact where
  add x y := ⟨x.value + y.value⟩
  sub x y := ⟨x.value - y.value⟩
  mul x y := ⟨x.value * y.value⟩
  div x y := ⟨x.value / y.value⟩
  neg x := ⟨-x.value⟩
  ofInt n := ⟨n.toInt⟩

variable (x y : Exact)

@[simp] theorem value_add : (x + y).value = x.value + y.value := rfl

@[simp] theorem value_sub : (x - y).value = x.value - y.value := rfl

@[simp] theorem value_mul : (x * y).value = x.value * y.value := rfl

@[simp] theorem value_div : (x / y).value = x.value / y.value := rfl

@[simp] theorem value_toScalar (r : Ratio) : (r.toScalar : Exact).value = r.value := rfl

end Exact

namespace Conversion

theorem value_apply (c : Conversion) (x : Exact) : (c.apply x).value = c.affine x.value := by
  have hscaled : (if c.multiplier.sameAs .one then x else x * c.multiplier.toScalar).value =
      x.value * c.multiplier.value := by
    split
    · rename_i h
      rw [Ratio.sameAs_iff.1 h, Ratio.value_one, mul_one]
    · rfl
  unfold apply affine
  rw [← hscaled]
  by_cases h : c.offset.isZero = true
  · rw [if_pos h, Ratio.isZero_iff.1 h, add_zero]
  · rw [if_neg h]
    rfl

end Conversion

end Metrology
