import Metrology.AnyQuantity

/-!
# Quantities of a unit type

A `Quantity u α` is a number of units `u`. The type of a result is computed from the types of the
operands, so that an expression which has a type needs no check when it is evaluated. What remains
to be computed from the unit types themselves, such as the coefficients of a conversion, is a
`Calc`.
-/

namespace Metrology

/-- A number of units. -/
structure Quantity (u : UnitType) (α : Type) where
  value : α
deriving DecidableEq, Repr

namespace UnitType

/-- Whether quantities convert between two unit types: equal dimensions, and both absolute or both
relative. -/
def isConvertible (u v : UnitType) : Calc Bool := do
  if !(← u.dimension).sameAs (← v.dimension) then return false
  return (← u.isAbsolute) == (← v.isAbsolute)

end UnitType

namespace Quantity

variable {u v : UnitType} {α : Type}

/-! ## Conversion -/

/-- The same quantity in another unit. A value of the same physical unit is left untouched. -/
def convert [Scalar α] (q : Quantity u α) (v : UnitType) : Calc (Quantity v α) := do
  if ← u.isEqual v then return ⟨q.value⟩
  return ⟨(← Conversion.ofTypes u v).apply q.value⟩

/-- The same quantity with its unit known at run time. -/
def toAny (q : Quantity u α) : Calc (AnyQuantity α) := do return ⟨q.value, ← u.toAny⟩

/-- The quantity of a unit type that equals one whose unit is known at run time. -/
def ofAny [Scalar α] (q : AnyQuantity α) (v : UnitType) : Attempt (Quantity v α) := do
  let conversion ← Conversion.between q.unit (← v.toAny)
  return ⟨conversion.apply q.value⟩

/-! ## Arithmetic -/

/-- The sum of two quantities of a relative unit. -/
def add [Scalar α] (a b : Quantity u α) : Quantity u α := ⟨a.value + b.value⟩

/-- The difference of two quantities. -/
def sub [Scalar α] (a b : Quantity u α) : Quantity u.difference α := ⟨a.value - b.value⟩

/-- What is left of a quantity of a relative unit when another is taken away. -/
def takeAway [Scalar α] (a b : Quantity u α) : Quantity u α := ⟨a.value - b.value⟩

/-- The product of two quantities. -/
def mul [Scalar α] (a : Quantity u α) (b : Quantity v α) : Quantity (.product u v) α :=
  ⟨a.value * b.value⟩

/-- The quotient of two quantities. -/
def div [Scalar α] (a : Quantity u α) (b : Quantity v α) : Quantity (.per u v) α :=
  ⟨a.value / b.value⟩

/-- The negative of a quantity. -/
def neg [Scalar α] (q : Quantity u α) : Quantity u α := ⟨-q.value⟩

/-- A quantity times a number. -/
def scale [Scalar α] (q : Quantity u α) (x : α) : Quantity u α := ⟨q.value * x⟩

/-- A quantity divided by a number. -/
def shrink [Scalar α] (q : Quantity u α) (x : α) : Quantity u α := ⟨q.value / x⟩

/-- A number divided by a quantity. -/
def recip [Scalar α] (x : α) (q : Quantity u α) : Quantity (.per .unitless u) α := ⟨x / q.value⟩

/-! ## Operations on real numbers -/

variable [RealScalar α]

/-- The absolute value. -/
def abs (q : Quantity u α) : Quantity u α := ⟨RealScalar.abs q.value⟩

/-- The smaller of two quantities. -/
def min (a b : Quantity u α) : Quantity u α := ⟨RealScalar.min a.value b.value⟩

/-- The greater of two quantities. -/
def max (a b : Quantity u α) : Quantity u α := ⟨RealScalar.max a.value b.value⟩

/-- The square root. -/
def sqrt (q : Quantity u α) : Quantity (.root u 2) α := ⟨RealScalar.sqrt q.value⟩

/-- The cube root. -/
def cbrt (q : Quantity u α) : Quantity (.root u 3) α := ⟨RealScalar.cbrt q.value⟩

/-- A whole power. -/
def powi (q : Quantity u α) (n : Int32) : Quantity (.power u n) α := ⟨RealScalar.powi q.value n⟩

/-- The hypotenuse over two quantities. -/
def hypot (a b : Quantity u α) : Quantity u α := ⟨RealScalar.hypot a.value b.value⟩

/-- The diagonal over three quantities. -/
def hypot3 (a b c : Quantity u α) : Quantity u α :=
  ⟨RealScalar.hypot (RealScalar.hypot a.value b.value) c.value⟩

/-- A product plus a quantity of the unit of the product, rounded once. -/
def fma {w : UnitType} (a : Quantity u α) (b : Quantity v α) (c : Quantity w α) : Quantity w α :=
  ⟨RealScalar.fma a.value b.value c.value⟩

/-! ## Functions -/

/-- A pure number to a power that is a pure number. -/
def powf (a b : Quantity .unitless α) : Quantity .unitless α :=
  ⟨RealScalar.powf a.value b.value⟩

/-- A pure number with the sign of another. -/
def copysign (a b : Quantity .unitless α) : Quantity .unitless α :=
  ⟨RealScalar.copysign a.value b.value⟩

/-- The angle of a point whose ordinate and abscissa are pure numbers. -/
def atan2 (a b : Quantity .unitless α) : Quantity (.named Catalog.radian) α :=
  ⟨RealScalar.atan2 a.value b.value⟩

/-- The value of a function. -/
def evaluate (f : Function) (q : Quantity (.named f.domain) α) : Quantity (.named f.codomain) α :=
  ⟨RealScalar.evaluate f q.value⟩

/-! ## Comparison -/

/-- Whether two quantities are equal. -/
def equals (a b : Quantity u α) : Bool := RealScalar.compare? a.value b.value == some .eq

/-- How two quantities compare. -/
def compare? (a b : Quantity u α) : Option Ordering := RealScalar.compare? a.value b.value

end Quantity

end Metrology
