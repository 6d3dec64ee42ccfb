import Metrology.Quantity
import Metrology.Number.Floating

/-!
# Quantities as text

A quantity is written as its value, set in a field, followed by the name of its unit; a pure number
is written without a unit. The unit types of pure numbers are those without a term; a unit known at
run time counts as a pure number only when it is the bare unit of pure numbers.
-/

namespace Metrology

open Number

variable {α : Type} [Floating α]

/-- The value, and the name of the unit when there is one. -/
def AnyQuantity.text (q : AnyQuantity α) (layout : Layout) : String :=
  let value := layout.render (Floating.format α) (Floating.toDatum q.value)
  if q.unit.isUnitless then value else value ++ " " ++ q.unit.name

/-- The value, and the terms of the unit type when there are any. -/
def Quantity.text {u : UnitType} (q : Quantity u α) (layout : Layout) : Calc String := do
  let terms ← u.terms
  let value := layout.render (Floating.format α) (Floating.toDatum q.value)
  return if terms.isEmpty then value else value ++ " " ++ terms.text

end Metrology
