import Metrology.Proofs.AnyUnit.Follows
import Metrology.Proofs.Fault.Results
import Metrology.Quantity

/-!
# Expressions of quantities

An `Expression α u` is built from quantities of unit types and has the unit type `u`. It can be
evaluated as it stands (`evaluate`), or with every quantity and every operation taken at run time
(`evaluateAny`). `Checked` says that it compiles: the checks that stand in the operations on
quantities of unit types pass.
-/

namespace Metrology

/-- An expression of quantities, with its unit type. -/
inductive Expression (α : Type) : UnitType → Type
  | quantity {u : UnitType} (q : Quantity u α) : Expression α u
  | add {u : UnitType} (a b : Expression α u) : Expression α u
  | sub {u : UnitType} (a b : Expression α u) : Expression α u.difference
  | mul {u v : UnitType} (a : Expression α u) (b : Expression α v) : Expression α (.product u v)
  | div {u v : UnitType} (a : Expression α u) (b : Expression α v) : Expression α (.per u v)
  | neg {u : UnitType} (a : Expression α u) : Expression α u
  | scale {u : UnitType} (a : Expression α u) (x : α) : Expression α u
  | shrink {u : UnitType} (a : Expression α u) (x : α) : Expression α u
  | recip {u : UnitType} (x : α) (a : Expression α u) : Expression α (.per .unitless u)
  | powi {u : UnitType} (a : Expression α u) (n : Int32) : Expression α (.power u n)
  | sqrt {u : UnitType} (a : Expression α u) : Expression α (.root u 2)
  | cbrt {u : UnitType} (a : Expression α u) : Expression α (.root u 3)
  | hypot {u : UnitType} (a b : Expression α u) : Expression α u
  | fma {u v w : UnitType} (a : Expression α u) (b : Expression α v) (c : Expression α w) :
      Expression α w
  | convert {u : UnitType} (a : Expression α u) (v : UnitType) : Expression α v

namespace Expression

variable {α : Type} {u : UnitType}

/-! ## Evaluation -/

/-- The value of an expression, as a quantity of its unit type. -/
def evaluate [RealScalar α] {u : UnitType} : Expression α u → Calc (Quantity u α)
  | quantity q => .ok q
  | add a b => do return (← a.evaluate).add (← b.evaluate)
  | sub a b => do return (← a.evaluate).sub (← b.evaluate)
  | mul a b => do return (← a.evaluate).mul (← b.evaluate)
  | div a b => do return (← a.evaluate).div (← b.evaluate)
  | neg a => do return (← a.evaluate).neg
  | scale a x => do return (← a.evaluate).scale x
  | shrink a x => do return (← a.evaluate).shrink x
  | recip x a => do return .recip x (← a.evaluate)
  | powi a n => do return (← a.evaluate).powi n
  | sqrt a => do return (← a.evaluate).sqrt
  | cbrt a => do return (← a.evaluate).cbrt
  | hypot a b => do return (← a.evaluate).hypot (← b.evaluate)
  | fma a b c => do return (← a.evaluate).fma (← b.evaluate) (← c.evaluate)
  | convert a v => do (← a.evaluate).convert v

/-- The value of an expression at run time: its quantities and operations with a unit known then. -/
def evaluateAny [RealScalar α] {u : UnitType} : Expression α u → Attempt (AnyQuantity α)
  | quantity q => q.toAny
  | add a b => do (← a.evaluateAny).add (← b.evaluateAny)
  | sub a b => do (← a.evaluateAny).sub (← b.evaluateAny)
  | mul a b => do (← a.evaluateAny).mul (← b.evaluateAny)
  | div a b => do (← a.evaluateAny).div (← b.evaluateAny)
  | neg a => do return (← a.evaluateAny).neg
  | scale a x => do return (← a.evaluateAny).scale x
  | shrink a x => do return (← a.evaluateAny).shrink x
  | recip x a => do AnyQuantity.recip x (← a.evaluateAny)
  | powi a n => do (← a.evaluateAny).powi n
  | sqrt a => do (← a.evaluateAny).sqrt
  | cbrt a => do (← a.evaluateAny).cbrt
  | hypot a b => do (← a.evaluateAny).hypot (← b.evaluateAny)
  | fma a b c => do (← a.evaluateAny).fma (← b.evaluateAny) (← c.evaluateAny)
  | convert a v => do (← a.evaluateAny).convert (← v.toAny)

/-! ## Checks -/

/-- Whether the checks of the unit types pass: no sum of an absolute unit, no root that does not
divide the exponents, `fma` of equal units, and conversion of units that convert. -/
def Checked {u : UnitType} : Expression α u → Prop
  | quantity _ => True
  | add a b => u.isAbsolute = .ok false ∧ a.Checked ∧ b.Checked
  | sub a b => a.Checked ∧ b.Checked
  | mul a b => a.Checked ∧ b.Checked
  | div a b => a.Checked ∧ b.Checked
  | neg a => a.Checked
  | scale a _ => a.Checked
  | shrink a _ => a.Checked
  | recip _ a => a.Checked
  | powi a _ => a.Checked
  | @sqrt _ u a => Returns (UnitType.root u 2).terms ∧ a.Checked
  | @cbrt _ u a => Returns (UnitType.root u 3).terms ∧ a.Checked
  | hypot a b => a.Checked ∧ b.Checked
  | @fma _ u v w a b c =>
      w.isEqual (.product u v) = .ok true ∧ a.Checked ∧ b.Checked ∧ c.Checked
  | @convert _ u a v => u.isConvertible v = .ok true ∧ a.Checked

/-- Whether every difference in an expression is one of quantities of a plain unit. -/
def PlainDifferences {u : UnitType} : Expression α u → Prop
  | quantity _ => True
  | add a b => a.PlainDifferences ∧ b.PlainDifferences
  | @sub _ u a b =>
      (∃ c, u.terms = .ok c ∧ c.Plain) ∧ a.PlainDifferences ∧ b.PlainDifferences
  | mul a b => a.PlainDifferences ∧ b.PlainDifferences
  | div a b => a.PlainDifferences ∧ b.PlainDifferences
  | neg a => a.PlainDifferences
  | scale a _ => a.PlainDifferences
  | shrink a _ => a.PlainDifferences
  | recip _ a => a.PlainDifferences
  | powi a _ => a.PlainDifferences
  | sqrt a => a.PlainDifferences
  | cbrt a => a.PlainDifferences
  | hypot a b => a.PlainDifferences ∧ b.PlainDifferences
  | fma a b c => a.PlainDifferences ∧ b.PlainDifferences ∧ c.PlainDifferences
  | convert a _ => a.PlainDifferences

end Expression

end Metrology
