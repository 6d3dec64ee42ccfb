import Metrology.Power

/-!
# Products of any length

A `Product` is a list of powers, each base once, in the order in which the bases came. `merge` puts
one power in. `absorb` puts in one power after another and stops at the first that cannot be merged,
so that it also says what the product holds at that moment; `multiplyWith` and `divideBy` in
`Metrology.AnyUnit` are built from it.
-/

namespace Metrology

/-- The fault of an exponent that leaves its range. -/
def Fault.exponentOverflow (base : NamedUnit) : Fault :=
  .refused (.exponentOverflow base.text)

/-- A product of powers. -/
structure Product where
  terms : List Power
deriving DecidableEq, Repr

namespace Product

/-- The product of nothing. -/
def empty : Product := ⟨[]⟩

instance : Inhabited Product := ⟨empty⟩

/-! ## Merging -/

/-- Adds to the exponent of a base, or appends the base where it is missing. -/
def mergeInto (base : NamedUnit) (exponent : Int32) : List Power → Calc (List Power)
  | [] => .ok [⟨base, exponent⟩]
  | term :: terms =>
      if term.base = base then do
        let sum ← orFault (Bounded.add? term.exponent exponent) (.exponentOverflow base)
        return ⟨base, sum⟩ :: terms
      else do
        return term :: (← mergeInto base exponent terms)

/-- Merges a power into the product; the unit of pure numbers is ignored. -/
def merge (p : Product) (base : NamedUnit) (exponent : Int32) : Calc Product :=
  if base.isUnitless then .ok p
  else do return ⟨← mergeInto base exponent p.terms⟩

/-- Merges powers one after another, each prepared by `prepare`, and stops at the first that cannot
be merged. The product as it then stands is returned with the fault. -/
def absorb (prepare : Power → Calc Power) (p : Product) : List Power → Product × Option Fault
  | [] => (p, none)
  | term :: terms =>
      match do let q ← prepare term; p.merge q.base q.exponent with
      | .ok merged => merged.absorb prepare terms
      | .error fault => (p, some fault)

/-- The product of powers, the exponents of a repeated base added up. -/
def ofPowers (powers : List Power) : Calc Product :=
  match empty.absorb pure powers with
  | (p, none) => .ok p
  | (_, some fault) => .error fault

/-! ## What a product measures -/

/-- The product of the dimensions of the terms. -/
def dimension (p : Product) : Calc Dimension := Power.totalDimension p.terms

/-- The product of the magnitudes of the terms. -/
def magnitude (p : Product) : Calc Ratio := Power.totalMagnitude p.terms

/-- The origin of the only factor, when there is one and its exponent is one. -/
def origin (p : Product) : Origin :=
  match p.terms.filter Power.isLive with
  | [term] => if term.exponent = 1 then term.base.origin else none
  | _ => none

/-- The terms joined by stars. -/
def text (p : Product) : String := Power.listText p.terms

end Product

end Metrology
