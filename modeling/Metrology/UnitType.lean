import Metrology.AnyUnit

/-!
# Unit types

A `UnitType` is an expression for a unit that is known before any value is: a named unit, a product,
a quotient, a power or a root. Its dimension and magnitude are computed operand by operand, its
`terms` by merging canonical products, and its origin from the terms. `difference` is the type of
differences of two quantities: every absolute unit in it becomes relative.
-/

namespace Metrology

/-! ## Multiples -/

/-- The decimal multiples that a unit can be prefixed with. -/
inductive Multiple
  | mega
  | kilo
  | centi
  | milli
  | micro
  | nano
deriving DecidableEq, Repr

/-- The symbol written before the symbol of the unit. -/
def Multiple.symbol : Multiple → String
  | .mega => "M"
  | .kilo => "k"
  | .centi => "c"
  | .milli => "m"
  | .micro => "µ"
  | .nano => "n"

/-- The factor that a multiple stands for. -/
def Multiple.factor : Multiple → Ratio
  | .mega => .ofInt 1000000
  | .kilo => .ofInt 1000
  | .centi => .hundredth
  | .milli => .thousandth
  | .micro => .mk 1 1000000
  | .nano => .mk 1 1000000000

/-! ## Types of one named unit -/

/-- A unit type that stands for one named unit; a declared unit has a size. -/
inductive NamedType
  | unitless
  | declared (symbol : String) (dimension : Dimension) (magnitude : Ratio) (origin : Origin)
      (magnitude_ne_zero : magnitude.num ≠ 0 := by decide)
  | multiple (factor : Multiple) (of : NamedType)
  | relative (of : NamedType)
deriving DecidableEq, Repr

namespace NamedType

/-- The named unit that the type stands for. -/
def unit : NamedType → Calc NamedUnit
  | unitless => .ok .unitless
  | declared symbol dimension magnitude origin _ =>
      .ok (NamedUnit.plain symbol dimension magnitude origin)
  | multiple factor of => do (← of.unit).withPrefix factor.symbol factor.factor
  | relative of => do return (← of.unit).relative

/-- The dimension; a relative unit has that of its absolute one. -/
def dimension : NamedType → Calc Dimension
  | unitless => .ok .dimensionless
  | relative of => of.dimension
  | t => do return (← t.unit).dimension

/-- The magnitude; a relative unit has that of its absolute one. -/
def magnitude : NamedType → Calc Ratio
  | unitless => .ok .one
  | relative of => of.magnitude
  | t => do return (← t.unit).magnitude

/-- The origin; multiples and relative units have none. -/
def origin : NamedType → Origin
  | declared _ _ _ origin _ => origin
  | _ => none

/-- The canonical product of the unit alone. -/
def terms : NamedType → Calc Canonical
  | unitless => .ok .empty
  | t => do Canonical.ofNamed (← t.unit)

/-- The type of differences: the relative unit of an absolute one. -/
def difference : NamedType → NamedType
  | declared symbol dimension magnitude (some origin) h =>
      relative (declared symbol dimension magnitude (some origin) h)
  | t => t

end NamedType

/-! ## Unit types -/

/-- An expression for a unit. -/
inductive UnitType
  | named (unit : NamedType)
  | product (left right : UnitType)
  | per (numerator denominator : UnitType)
  | power (base : UnitType) (exponent : Int32)
  | root (base : UnitType) (degree : Int32)
deriving DecidableEq, Repr

namespace UnitType

/-- The unit type of pure numbers. -/
def unitless : UnitType := named .unitless

/-- The canonical product of a unit type, simplified. -/
def terms : UnitType → Calc Canonical
  | named t => t.terms
  | product a b => do (← a.terms).multiply (← b.terms)
  | per a b => do (← a.terms).divide (← b.terms)
  | power a n => do (← a.terms).pow n
  | root a n => do (← a.terms).root n

/-- The dimension, computed operand by operand; a root has that of its terms. -/
def dimension : UnitType → Calc Dimension
  | named t => t.dimension
  | product a b => do (← a.dimension).mul (← b.dimension)
  | per a b => do (← a.dimension).div (← b.dimension)
  | power a n => do (← a.dimension).pow n
  | root a n => do (← (root a n).terms).dimension

/-- The magnitude, computed operand by operand; a root has that of its terms. -/
def magnitude : UnitType → Calc Ratio
  | named t => t.magnitude
  | product a b => do (← a.magnitude).mul (← b.magnitude)
  | per a b => do (← a.magnitude).div (← b.magnitude)
  | power a n => do (← a.magnitude).pow n
  | root a n => do (← (root a n).terms).magnitude

/-- The origin: a composite type has one when its terms are a bare absolute unit. -/
def origin : UnitType → Calc Origin
  | named t => .ok t.origin
  | u => do return (← u.terms).origin

/-- The type of differences of two quantities of this type. -/
def difference : UnitType → UnitType
  | named t => named t.difference
  | product a b => product a.difference b.difference
  | per a b => per a.difference b.difference
  | power a n => power a.difference n
  | root a n => root a.difference n

/-- Whether the scale of a unit type has an origin. -/
def isAbsolute (u : UnitType) : Calc Bool := do return (← u.origin).isSome

/-- Whether two unit types are the same physical unit: equal dimensions, magnitudes and origins. -/
def isEqual (u v : UnitType) : Calc Bool := do
  if !(← u.dimension).sameAs (← v.dimension) then return false
  if !(← u.magnitude).sameAs (← v.magnitude) then return false
  return Origin.sameAs (← u.origin) (← v.origin)

/-- The name of a unit type: its terms. -/
def name (u : UnitType) : Calc String := do return (← u.terms).text

/-- The same unit, known at run time. -/
def toAny (u : UnitType) : Calc AnyUnit := do AnyUnit.ofCanonical (← u.terms)

end UnitType

end Metrology
