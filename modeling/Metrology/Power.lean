import Metrology.NamedUnit

/-!
# Powers of named units

A `Power` is a named unit raised to an exponent: one factor of a composite unit.
-/

namespace Metrology

/-- A named unit raised to an exponent. -/
structure Power where
  base : NamedUnit
  exponent : Int32
deriving DecidableEq, Repr

namespace Power

/-- The dimension of the base, raised. -/
def dimension (p : Power) : Calc Dimension := p.base.dimension.pow p.exponent

/-- The magnitude of the base, raised. -/
def magnitude (p : Power) : Calc Ratio := p.base.magnitude.pow p.exponent

/-- Whether a power is a factor at all: its exponent is not zero and its base not the unit of pure
numbers. -/
def isLive (p : Power) : Bool := p.exponent != 0 && !p.base.isUnitless

/-- The base, and the exponent after a caret unless it is one. -/
def text (p : Power) : String :=
  if p.exponent = 1 then p.base.text else s!"{p.base.text}^{p.exponent}"

/-- Factors joined by stars; without factors, the text of a pure number. -/
def listText : List Power → String
  | [] => "1"
  | terms => " * ".intercalate (terms.map text)

/-- The product of the dimensions, from the left. -/
def totalDimension (terms : List Power) : Calc Dimension :=
  terms.foldlM (fun total p => do total.mul (← p.dimension)) .dimensionless

/-- The product of the magnitudes, from the left. -/
def totalMagnitude (terms : List Power) : Calc Ratio :=
  terms.foldlM (fun total p => do total.mul (← p.magnitude)) .one

theorem isLive_iff {p : Power} : p.isLive = true ↔ p.exponent ≠ 0 ∧ p.base ≠ .unitless := by
  simp [isLive, ← NamedUnit.isUnitless_iff]

end Power

end Metrology
