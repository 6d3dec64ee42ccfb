import Metrology.AnyQuantity

/-!
# Notices

Some operations leave notices for whoever follows them: a refused conversion or root, a successful
conversion with its coefficients, two operands of different units. Which notices an operation leaves
is decided by its outcome, so this module reads them off the outcome and the operations stay free of
them.
-/

namespace Metrology

/-- What an operation lets its followers know. -/
inductive Notice
  | dimensionsDiffer (source target : String)
  | absolutenessDiffers (source target : String)
  | converted (source target : String) (conversion : Conversion)
  | unitsDiffer (left right : String)
  | unrootableUnit (degree : Int32) (unit : String)
  | unrootableTerm (degree : Int32) (term : String)
deriving DecidableEq, Repr

namespace Notice

/-- The wording of a notice, after its level. -/
def text : Notice → String
  | dimensionsDiffer source target =>
      s!"DEBUG rejecting conversion from {source} to {target}: dimensions differ"
  | absolutenessDiffers source target =>
      s!"DEBUG rejecting conversion from {source} to {target}: absolute/relative mismatch"
  | converted source target conversion =>
      let multiplier := conversion.multiplier.text
      let offset := conversion.offset.text
      s!"TRACE conversion {source} -> {target}: x * {multiplier} + {offset}"
  | unitsDiffer left right => s!"DEBUG unit mismatch: {left} vs {right}"
  | unrootableUnit degree unit => s!"DEBUG rejecting root of degree {degree} of named unit {unit}"
  | unrootableTerm degree term => s!"DEBUG rejecting root of degree {degree} of {term}"

/-- The notices of a conversion between two units. -/
def ofConversion (source target : AnyUnit) : List Notice :=
  match Conversion.between source target with
  | .ok conversion => [converted source.name target.name conversion]
  | .error (.unit (.dimensionMismatch source target)) => [dimensionsDiffer source target]
  | .error (.unit (.affineMismatch source target)) => [absolutenessDiffers source target]
  | .error _ => []

/-- The notices of a root of a unit. -/
def ofRoot (unit : AnyUnit) (degree : Int32) : List Notice :=
  match unit.root degree with
  | .error (.unit (.unrootableUnit unit degree)) => [unrootableUnit degree unit]
  | .error (.unit (.nonDivisiblePower base exponent degree)) =>
      [unrootableTerm degree (if exponent = 1 then base else s!"{base}^{exponent}")]
  | _ => []

/-- The notices of the demand that two quantities be of one unit. -/
def ofSameUnit {α : Type} (a b : AnyQuantity α) : List Notice :=
  match a.expectSameUnit b with
  | .error (.unit (.unitMismatch left right)) => [unitsDiffer left right]
  | _ => []

/-- The notices of the demand that three quantities be of one unit: the second pair is only looked
at when the first agrees. -/
def ofSameUnits {α : Type} (a b c : AnyQuantity α) : List Notice :=
  match a.expectSameUnit b with
  | .ok _ => ofSameUnit a c
  | .error _ => ofSameUnit a b

end Notice

end Metrology
