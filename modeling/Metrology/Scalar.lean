import Metrology.Ratio

/-!
# Payloads

The value of a quantity can be any number that can be added, multiplied and divided and that whole
numbers can be read as: that is a `Scalar`. A `RealScalar` has the roots, powers and functions of
real numbers as well. Nothing is assumed about them, so rounding payloads are as good as exact ones.
-/

namespace Metrology

/-- Numbers with arithmetic. -/
class Scalar (α : Type) extends Add α, Sub α, Mul α, Div α, Neg α where
  /-- The number nearest to a whole number. -/
  ofInt : Int64 → α

/-- The number of a ratio: both components are read first and then divided. -/
def Ratio.toScalar {α : Type} [Scalar α] (r : Ratio) : α :=
  Scalar.ofInt r.num / Scalar.ofInt r.den

/-- Functions of one real number. -/
inductive Function
  | exp | exp2 | ln | log10 | log2
  | asin | acos | atan | asinh | acosh | atanh
  | sin | cos | tan | sinh | cosh | tanh
  | erf | erfc | gamma | lnGamma
deriving DecidableEq, Repr

/-- Numbers with order, roots, powers and the functions of one real number. -/
class RealScalar (α : Type) extends Scalar α where
  /-- How two numbers compare, unless one of them is not comparable. -/
  compare? : α → α → Option Ordering
  abs : α → α
  min : α → α → α
  max : α → α → α
  /-- The first number with the sign of the second. -/
  copysign : α → α → α
  sqrt : α → α
  cbrt : α → α
  /-- A whole power. -/
  powi : α → Int32 → α
  powf : α → α → α
  hypot : α → α → α
  /-- A product plus a number, rounded once. -/
  fma : α → α → α → α
  /-- The angle of the point whose ordinate is the first number and abscissa the second. -/
  atan2 : α → α → α
  /-- The value of a function. -/
  evaluate : Function → α → α

end Metrology
