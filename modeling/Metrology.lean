import Metrology.Declaration.Expansion
import Metrology.Journal
import Metrology.QuantityText
import Metrology.Record.Dimension
import Metrology.Record.Quantity
import Metrology.Record.Ratio
import Metrology.UnitType.Notation
import Metrology.Proofs.Bounded.Range
import Metrology.Proofs.Dimension.Value
import Metrology.Proofs.Dimension.Range
import Metrology.Proofs.Text.Factor
import Metrology.Proofs.Dimension.Text
import Metrology.Proofs.Ratio.Expression
import Metrology.Proofs.Ratio.Overflow
import Metrology.Proofs.Ratio.Range
import Metrology.Proofs.Ratio.Pair
import Metrology.Proofs.Power.Weight
import Metrology.Proofs.Power.Range
import Metrology.Proofs.Product.Merge
import Metrology.Proofs.Canonical.Merge
import Metrology.Proofs.Canonical.Identity
import Metrology.Proofs.AnyUnit.Normal
import Metrology.Proofs.AnyUnit.Overflow
import Metrology.Proofs.Canonical.Weight
import Metrology.Proofs.UnitType.Terms
import Metrology.Proofs.AnyUnit.Mirror
import Metrology.Proofs.AnyUnit.Measure
import Metrology.Proofs.AnyUnit.Homomorphism
import Metrology.Proofs.AnyUnit.Group
import Metrology.Proofs.AnyUnit.Built
import Metrology.Proofs.Product.InPlace
import Metrology.Proofs.AnyUnit.Range
import Metrology.Proofs.AnyUnit.Root
import Metrology.Proofs.AnyUnit.Simplify
import Metrology.Proofs.AnyUnit.Unsimplified
import Metrology.Proofs.AnyUnit.PowerLaws
import Metrology.Proofs.Canonical.Reading
import Metrology.Proofs.Power.Cancellation
import Metrology.Proofs.UnitType.Constants
import Metrology.Proofs.AnyUnit.Follows
import Metrology.Proofs.Conversion.Affine
import Metrology.Proofs.Conversion.Between
import Metrology.Proofs.AnyQuantity.Carries
import Metrology.Proofs.Conversion.Verdict
import Metrology.Proofs.AnyUnit.FactorOrder
import Metrology.Proofs.Conversion.Faults
import Metrology.Proofs.UnitType.Difference
import Metrology.Proofs.UnitType.Relative
import Metrology.Proofs.UnitType.Range
import Metrology.Proofs.Conversion.Exact
import Metrology.Proofs.Conversion.Difference
import Metrology.Proofs.AnyQuantity.Amount
import Metrology.Proofs.Expression.Basic
import Metrology.Proofs.Expression.Simulation
import Metrology.Proofs.Expression.Difference
import Metrology.Proofs.AnyQuantity.Absolute
import Metrology.Proofs.Power.Text
import Metrology.Proofs.UnitType.Text
import Metrology.Proofs.Record.Fields
import Metrology.Proofs.Record.Quantity
import Metrology.Proofs.Declaration.Fraction
import Metrology.Proofs.Declaration.Expression
import Metrology.Proofs.Declaration.Setting
import Metrology.Proofs.Declaration.Attribute
import Metrology.Proofs.Declaration.Orderly
import Metrology.Proofs.Declaration.Reading
import Metrology.Proofs.Declaration.Expansion
