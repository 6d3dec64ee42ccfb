import Metrology.UnitType
import Metrology.Scalar

/-!
# Conversions

A conversion between two scales is the map `x * multiplier + offset` with exact coefficients.
`Conversion.make` finds it from the magnitudes and origins of the scales, `between` after a check
that the units are of one dimension and both absolute or both relative.
-/

namespace Metrology

/-- An affine map between the numbers of two scales. -/
structure Conversion where
  multiplier : Ratio
  offset : Ratio
deriving DecidableEq, Repr

namespace Conversion

/-- The conversion of a scale to itself. -/
def identity : Conversion := ⟨.one, .zero⟩

instance : Inhabited Conversion := ⟨identity⟩

/-- The conversion from one magnitude and origin to another; no origin counts as zero. -/
def make (magnitude : Ratio) (origin : Origin) (newMagnitude : Ratio) (newOrigin : Origin) :
    Calc Conversion := do
  let multiplier ← magnitude.div newMagnitude
  let start ← origin.orZero.div newMagnitude
  let newStart ← newOrigin.orZero.div newMagnitude
  return ⟨multiplier, ← start.sub newStart⟩

/-- The conversion between two unit types. -/
def ofTypes (source target : UnitType) : Calc Conversion := do
  make (← source.magnitude) (← source.origin) (← target.magnitude) (← target.origin)

/-- The conversion between two units, refused when their dimensions differ or only one of them is
absolute. -/
def between (source target : AnyUnit) : Attempt Conversion := do
  let dimension ← source.dimension
  if dimension != (← target.dimension) then
    throw (.unit (.dimensionMismatch source.name target.name))
  if source.isAbsolute != target.isAbsolute then
    throw (.unit (.affineMismatch source.name target.name))
  let magnitude ← source.magnitude
  let newMagnitude ← target.magnitude
  make magnitude source.origin newMagnitude target.origin

/-- Whether a conversion changes nothing. -/
def isIdentity (c : Conversion) : Bool := c.multiplier.sameAs .one && c.offset.isZero

/-- The conversion back. -/
def inverse (c : Conversion) : Calc Conversion := do
  let multiplier ← c.multiplier.inverse
  return ⟨multiplier, ← Ratio.zero.sub (← c.offset.mul multiplier)⟩

/-- Converts a number. A multiplier of one and an offset of zero leave the number untouched, so that
nothing is rounded. -/
def apply {α : Type} [Scalar α] (c : Conversion) (x : α) : α :=
  let scaled := if c.multiplier.sameAs .one then x else x * c.multiplier.toScalar
  if c.offset.isZero then scaled else scaled + c.offset.toScalar

end Conversion

end Metrology
