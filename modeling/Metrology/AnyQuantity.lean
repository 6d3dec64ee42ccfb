import Metrology.Conversion
import Metrology.Catalog

/-!
# Quantities with a unit known at run time

An `AnyQuantity` is a value with an `AnyUnit`. Every operation checks the units when it is called:
sums, differences and comparisons ask for equivalent units, functions of pure numbers for the unit
of pure numbers, and circular functions for radians.
-/

namespace Metrology

/-! ## Where functions are defined -/

namespace Function

/-- The unit that the argument of a function has to have. -/
def domain : Function → NamedType
  | sin | cos | tan | sinh | cosh | tanh => Catalog.radian
  | _ => Catalog.unitless

/-- The unit of the value of a function. -/
def codomain : Function → NamedType
  | asin | acos | atan | asinh | acosh | atanh => Catalog.radian
  | _ => Catalog.unitless

end Function

/-- The radian, as a unit known at run time. -/
def AnyUnit.radian : AnyUnit := .named (.plain "rad" .dimensionless .one none)

/-! ## Quantities -/

/-- A value with its unit. -/
structure AnyQuantity (α : Type) where
  value : α
  unit : AnyUnit

namespace AnyQuantity

variable {α : Type}

/-- A pure number. -/
def unitless (value : α) : AnyQuantity α := ⟨value, .unitless⟩

/-- Refuses two quantities whose units are not equivalent. -/
def expectSameUnit (a b : AnyQuantity α) : Attempt PUnit := do
  if !(← a.unit.isEquivalent b.unit) then
    throw (.unit (.unitMismatch a.unit.name b.unit.name))

/-- The value of a pure number. -/
def pureValue (q : AnyQuantity α) : Attempt α := do
  if ← q.unit.isEquivalent .unitless then return q.value
  else throw (.unit (.notDimensionless q.unit.name))

/-- The value of an angle in radians. -/
def angularValue (q : AnyQuantity α) : Attempt α := do
  if ← q.unit.isEquivalent .radian then return q.value
  else throw (.unit (.notAngular q.unit.name))

/-! ## Conversion -/

/-- The same quantity in another unit. -/
def convert [Scalar α] (q : AnyQuantity α) (unit : AnyUnit) : Attempt (AnyQuantity α) := do
  let conversion ← Conversion.between q.unit unit
  return ⟨conversion.apply q.value, unit⟩

/-! ## Arithmetic -/

/-- The sum of two quantities of one relative unit. -/
def add [Scalar α] (a b : AnyQuantity α) : Attempt (AnyQuantity α) := do
  a.expectSameUnit b
  if a.unit.isAbsolute then throw (.unit (.absoluteAddition a.unit.name))
  return ⟨a.value + b.value, a.unit⟩

/-- The difference of two quantities of one unit, on the relative scale of that unit. -/
def sub [Scalar α] (a b : AnyQuantity α) : Attempt (AnyQuantity α) := do
  a.expectSameUnit b
  return ⟨a.value - b.value, a.unit.relative⟩

/-- The product of two quantities. -/
def mul [Scalar α] (a b : AnyQuantity α) : Calc (AnyQuantity α) := do
  return ⟨a.value * b.value, ← a.unit.multiply b.unit⟩

/-- The quotient of two quantities. -/
def div [Scalar α] (a b : AnyQuantity α) : Calc (AnyQuantity α) := do
  return ⟨a.value / b.value, ← a.unit.divide b.unit⟩

/-- The negative of a quantity. -/
def neg [Scalar α] (q : AnyQuantity α) : AnyQuantity α := { q with value := -q.value }

/-- A quantity times a number. -/
def scale [Scalar α] (q : AnyQuantity α) (x : α) : AnyQuantity α := { q with value := q.value * x }

/-- A quantity divided by a number. -/
def shrink [Scalar α] (q : AnyQuantity α) (x : α) : AnyQuantity α :=
  { q with value := q.value / x }

/-- A number divided by a quantity. -/
def recip [Scalar α] (x : α) (q : AnyQuantity α) : Calc (AnyQuantity α) := do
  return ⟨x / q.value, ← AnyUnit.unitless.divide q.unit⟩

/-! ## Operations on real numbers -/

variable [RealScalar α]

/-- The absolute value. -/
def abs (q : AnyQuantity α) : AnyQuantity α := { q with value := RealScalar.abs q.value }

/-- The smaller of two quantities of one unit. -/
def min (a b : AnyQuantity α) : Attempt (AnyQuantity α) := do
  a.expectSameUnit b
  return ⟨RealScalar.min a.value b.value, a.unit⟩

/-- The greater of two quantities of one unit. -/
def max (a b : AnyQuantity α) : Attempt (AnyQuantity α) := do
  a.expectSameUnit b
  return ⟨RealScalar.max a.value b.value, a.unit⟩

/-- The square root. -/
def sqrt (q : AnyQuantity α) : Attempt (AnyQuantity α) := do
  return ⟨RealScalar.sqrt q.value, ← q.unit.sqrt⟩

/-- The cube root. -/
def cbrt (q : AnyQuantity α) : Attempt (AnyQuantity α) := do
  return ⟨RealScalar.cbrt q.value, ← q.unit.cbrt⟩

/-- A whole power. -/
def powi (q : AnyQuantity α) (n : Int32) : Calc (AnyQuantity α) := do
  return ⟨RealScalar.powi q.value n, ← q.unit.pow n⟩

/-- The hypotenuse over two quantities of one unit. -/
def hypot (a b : AnyQuantity α) : Attempt (AnyQuantity α) := do
  a.expectSameUnit b
  return ⟨RealScalar.hypot a.value b.value, a.unit⟩

/-- The diagonal over three quantities of one unit. -/
def hypot3 (a b c : AnyQuantity α) : Attempt (AnyQuantity α) := do
  a.expectSameUnit b
  a.expectSameUnit c
  return ⟨RealScalar.hypot (RealScalar.hypot a.value b.value) c.value, a.unit⟩

/-- A product plus a quantity of the unit of the product, rounded once. -/
def fma (a b c : AnyQuantity α) : Attempt (AnyQuantity α) := do
  let product ← a.unit.multiply b.unit
  if !(← product.isEquivalent c.unit) then
    throw (.unit (.unitMismatch product.name c.unit.name))
  return ⟨RealScalar.fma a.value b.value c.value, c.unit⟩

/-! ## Functions -/

/-- A pure number to a power that is a pure number. -/
def powf (a b : AnyQuantity α) : Attempt (AnyQuantity α) := do
  let base ← a.pureValue
  return unitless (RealScalar.powf base (← b.pureValue))

/-- A pure number with the sign of another. -/
def copysign (a b : AnyQuantity α) : Attempt (AnyQuantity α) := do
  let size ← a.pureValue
  return unitless (RealScalar.copysign size (← b.pureValue))

/-- The angle of a point whose ordinate and abscissa are pure numbers. -/
def atan2 (a b : AnyQuantity α) : Attempt (AnyQuantity α) := do
  let ordinate ← a.pureValue
  return ⟨RealScalar.atan2 ordinate (← b.pureValue), .radian⟩

/-- The value of a function at a quantity of the unit that its domain asks for. -/
def evaluate (f : Function) (q : AnyQuantity α) : Attempt (AnyQuantity α) := do
  let x ← if f.domain = Catalog.radian then q.angularValue else q.pureValue
  let unit := if f.codomain = Catalog.radian then AnyUnit.radian else AnyUnit.unitless
  return ⟨RealScalar.evaluate f x, unit⟩

/-! ## Comparison -/

/-- Whether two quantities are equal: equivalent units and equal values. -/
def equals (a b : AnyQuantity α) : Calc Bool := do
  if !(← a.unit.isEquivalent b.unit) then return false
  return RealScalar.compare? a.value b.value == some .eq

/-- How two quantities compare; those of different units do not. -/
def compare? (a b : AnyQuantity α) : Calc (Option Ordering) := do
  if !(← a.unit.isEquivalent b.unit) then return none
  return RealScalar.compare? a.value b.value

end AnyQuantity

end Metrology
