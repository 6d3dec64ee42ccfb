import Metrology.Canonical
import Metrology.Product

/-!
# Units known at run time

An `AnyUnit` is a named unit, a power of one, or a product of powers. Every operation returns the
simplest of the three that fits: no factor of exponent zero, no product of one factor, no power of
exponent one. `powers` reads a unit of each kind as a list of factors, and products, quotients and
powers are formed on those lists.
-/

namespace Metrology

/-- A unit known at run time. -/
inductive AnyUnit
  | named (unit : NamedUnit)
  | power (power : Power)
  | product (product : Product)
deriving DecidableEq, Repr

/-! ## Simplification -/

/-- The simplest unit equal to a power. -/
def Power.simplify (p : Power) : AnyUnit :=
  if p.base.isUnitless then .named .unitless
  else if p.exponent = 0 then .named .unitless
  else if p.exponent = 1 then .named p.base
  else .power p

/-- The simplest unit equal to a product. -/
def Product.simplify (p : Product) : AnyUnit :=
  match p.terms.filter Power.isLive with
  | [] => .named .unitless
  | [term] => term.simplify
  | terms => .product ⟨terms⟩

namespace AnyUnit

/-- The unit of pure numbers. -/
def unitless : AnyUnit := .named .unitless

instance : Inhabited AnyUnit := ⟨unitless⟩

/-- The simplest equal unit. -/
def simplify : AnyUnit → AnyUnit
  | .named u => .named u
  | .power p => p.simplify
  | .product p => p.simplify

/-- The factors of a unit. -/
def powers : AnyUnit → List Power
  | .named u => [⟨u, 1⟩]
  | .power p => [p]
  | .product p => p.terms

/-! ## What a unit measures -/

/-- The dimension of a unit. -/
def dimension : AnyUnit → Calc Dimension
  | .named u => .ok u.dimension
  | .power p => p.dimension
  | .product p => p.dimension

/-- The size of a unit in base units. -/
def magnitude : AnyUnit → Calc Ratio
  | .named u => .ok u.magnitude
  | .power p => p.magnitude
  | .product p => p.magnitude

/-- The origin of a unit that is a bare named unit, however it is written. -/
def origin : AnyUnit → Origin
  | .named u => u.origin
  | .power p => if p.exponent = 1 then p.base.origin else none
  | .product p => p.origin

/-- Whether the scale of a unit has an origin. -/
def isAbsolute (u : AnyUnit) : Bool := u.origin.isSome

/-- Whether a unit is the bare unit of pure numbers. -/
def isUnitless : AnyUnit → Bool
  | .named u => u.isUnitless
  | _ => false

/-- Whether two units measure the same: equal dimensions, magnitudes and origins, asked in that
order and no further than the first difference. -/
def isEquivalent (u v : AnyUnit) : Calc Bool := do
  let dimension ← u.dimension
  if dimension != (← v.dimension) then return false
  let magnitude ← u.magnitude
  if magnitude != (← v.magnitude) then return false
  return u.origin.sameAs v.origin

/-- The unit of differences of a named unit; other units are left alone. -/
def relative : AnyUnit → AnyUnit
  | .named u => .named u.relative
  | u => u

/-- The name of a unit. -/
def name : AnyUnit → String
  | .named u => u.text
  | .power p => p.text
  | .product p => p.text

end AnyUnit

/-! ## Products in place -/

/-- A power with its exponent negated. -/
def Power.negated (p : Power) : Calc Power := do
  let exponent ← orFault (Bounded.neg? p.exponent) (.exponentOverflow p.base)
  return { p with exponent }

namespace Product

/-- Merges the factors of a unit; on a fault, the factors before it stay merged. -/
def multiplyInPlace (p : Product) (u : AnyUnit) : Product × Option Fault :=
  p.absorb pure u.powers

/-- Merges the inverse factors of a unit; on a fault, the factors before it stay merged. -/
def divideInPlace (p : Product) (u : AnyUnit) : Product × Option Fault :=
  p.absorb Power.negated u.powers

/-- The product that an update in place leaves behind, unless it ends in a fault. -/
def completed : Product × Option Fault → Calc Product
  | (p, none) => .ok p
  | (_, some fault) => .error fault

/-- The product times a unit. -/
def multiplyWith (p : Product) (u : AnyUnit) : Calc Product := completed (p.multiplyInPlace u)

/-- The product divided by a unit. -/
def divideBy (p : Product) (u : AnyUnit) : Calc Product := completed (p.divideInPlace u)

end Product

/-! ## Algebra -/

/-- A power with its exponent multiplied. -/
def Power.raised (n : Int32) (p : Power) : Except UnitError Power :=
  match Bounded.mul? p.exponent n with
  | some exponent => .ok { p with exponent }
  | none => .error (.exponentOverflow p.base.text)

/-- A power with its exponent divided by a degree that divides it. -/
def Power.root (degree : Int32) (p : Power) : Except UnitError Power :=
  match Bounded.remainder? p.exponent degree, Bounded.quotient? p.exponent degree with
  | some rest, some exponent =>
      if rest = 0 then .ok { p with exponent }
      else .error (.nonDivisiblePower p.base.text p.exponent degree)
  | _, _ => .error (.exponentOverflow p.base.text)

namespace AnyUnit

/-- The product of two units. -/
def multiply (u v : AnyUnit) : Calc AnyUnit := do
  let product ← Product.empty.multiplyWith u
  let product ← product.multiplyWith v
  return product.simplify

/-- The quotient of two units. -/
def divide (u v : AnyUnit) : Calc AnyUnit := do
  let product ← Product.empty.multiplyWith u
  let product ← product.divideBy v
  return product.simplify

/-- A power of a unit, refused when an exponent leaves its range. -/
def checkedPow (u : AnyUnit) (n : Int32) : Attempt AnyUnit := do
  let product ← Product.empty.multiplyWith u
  let raised ← (product.terms.mapM (Power.raised n) : Except UnitError (List Power))
  return (← Product.ofPowers raised).simplify

/-- A power of a unit; an exponent that leaves its range is a fault. -/
def pow (u : AnyUnit) (n : Int32) : Calc AnyUnit :=
  (u.checkedPow n).mapError fun
    | .unit error => .refused error
    | .fault cause => cause

/-- A root of a unit. A named unit has only its trivial roots; in powers and products the degree
divides every exponent. -/
def root (u : AnyUnit) (degree : Int32) : Attempt AnyUnit :=
  if degree = 0 then .error (.unit .zeroRootDegree)
  else match u with
    | .named unit =>
        if unit.isUnitless then .ok u
        else if degree = 1 ∨ degree = -1 then .ok (Power.mk unit degree).simplify
        else .error (.unit (.unrootableUnit unit.text degree))
    | .power p => do return (← p.root degree).simplify
    | .product p => do
        let roots ← (p.terms.mapM (Power.root degree) : Except UnitError (List Power))
        return (← Product.ofPowers roots).simplify

/-- The square root of a unit. -/
def sqrt (u : AnyUnit) : Attempt AnyUnit := u.root 2

/-- The cube root of a unit. -/
def cbrt (u : AnyUnit) : Attempt AnyUnit := u.root 3

/-- The unit of a canonical product, its terms merged one after another. -/
def ofCanonical (c : Canonical) : Calc AnyUnit :=
  match c.asNamed with
  | some unit => .ok (.named unit)
  | none => do return (← Product.ofPowers c.terms).simplify

end AnyUnit

end Metrology
