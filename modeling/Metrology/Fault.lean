/-!
# Why a calculation stops

Two kinds of failure are kept apart. A `UnitError` is a refusal that an operation reports to its
caller: the units do not fit. A `Fault` is a calculation that cannot go on: a number has left its
range, or a construction has no meaning. `Failure` is either of them. Each cause has its wording in
one `message` function.
-/

namespace Metrology

/-! ## Refusals -/

/-- Why an operation on units is refused; units are given by their names. -/
inductive UnitError
  | unrootableUnit (unit : String) (degree : Int32)
  | nonDivisiblePower (base : String) (exponent degree : Int32)
  | exponentOverflow (base : String)
  | zeroRootDegree
  | dimensionMismatch (source target : String)
  | affineMismatch (source target : String)
  | unitMismatch (left right : String)
  | absoluteAddition (unit : String)
  | notDimensionless (unit : String)
  | notAngular (unit : String)
  | zeroDenominator
deriving DecidableEq, Repr

/-- The wording of a refusal. -/
def UnitError.message : UnitError → String
  | .unrootableUnit unit degree => s!"cannot take root of degree {degree} of named unit `{unit}`"
  | .nonDivisiblePower base exponent degree =>
      s!"cannot take root of degree {degree} of `{base}^{exponent}`: exponent is not divisible"
  | .exponentOverflow base => s!"exponent of `{base}` overflows"
  | .zeroRootDegree => "root degree must be non-zero"
  | .dimensionMismatch source target =>
      s!"cannot convert `{source}` to `{target}`: dimensions differ"
  | .affineMismatch source target =>
      s!"cannot convert between absolute and relative units `{source}` and `{target}`"
  | .unitMismatch left right => s!"operands have different units: `{left}` and `{right}`"
  | .absoluteAddition unit => s!"cannot add quantities of absolute unit `{unit}`"
  | .notDimensionless unit => s!"expected a dimensionless quantity, found `{unit}`"
  | .notAngular unit => s!"expected a quantity in radians, found `{unit}`"
  | .zeroDenominator => "rational with zero denominator"

/-! ## Faults -/

/-- The operations on bounded integers whose result can leave the range. -/
inductive Arithmetic
  | addition
  | subtraction
  | multiplication
  | negation
  | remainder
deriving DecidableEq, Repr

/-- What an arithmetic operation was attempting. -/
def Arithmetic.verb : Arithmetic → String
  | .addition => "add"
  | .subtraction => "subtract"
  | .multiplication => "multiply"
  | .negation => "negate"
  | .remainder => "calculate the remainder"

/-- Why a calculation cannot go on. -/
inductive Fault
  /-- An integer operation left its range. -/
  | overflow (operation : Arithmetic)
  /-- A component of a ratio left its range. -/
  | ratioOverflow
  /-- A second prefix was put on a unit. -/
  | stackedPrefix
  /-- A canonical product has no slot left for a new base. -/
  | tooManyBases
  /-- A root of a canonical product does not divide every exponent. -/
  | indivisibleRoot
  /-- A refusal arose where the caller left no way to report one. -/
  | refused (error : UnitError)
deriving DecidableEq, Repr

/-- The wording of a fault. -/
def Fault.message : Fault → String
  | .overflow operation => s!"attempt to {operation.verb} with overflow"
  | .ratioOverflow => "rational overflow"
  | .stackedPrefix => "unit prefixes cannot be stacked"
  | .tooManyBases => "too many distinct base units in one composite unit"
  | .indivisibleRoot => "taking root of non-divisible power"
  | .refused error => error.message

/-- A fault of a calculation, or a refusal of an operation. -/
inductive Failure
  | fault (cause : Fault)
  | unit (error : UnitError)
deriving DecidableEq, Repr

/-- The wording of a failure. -/
def Failure.message : Failure → String
  | .fault cause => cause.message
  | .unit error => error.message

/-! ## Calculations -/

/-- A calculation: a value, or the fault that stopped it. -/
abbrev Calc := Except Fault

/-- An operation that checks units: a value, a refusal or a fault. -/
abbrev Attempt := Except Failure

instance : MonadLift Calc Attempt where
  monadLift calculation := calculation.mapError .fault

instance : MonadLift (Except UnitError) Attempt where
  monadLift operation := operation.mapError .unit

/-- The value, or the fault that its absence stands for. -/
def orFault {α : Type} (value : Option α) (fault : Fault) : Calc α :=
  match value with
  | some a => .ok a
  | none => .error fault

@[simp] theorem orFault_eq_ok_iff {α : Type} {value : Option α} {fault : Fault} {a : α} :
    orFault value fault = .ok a ↔ value = some a := by
  cases value <;> simp [orFault]

@[simp] theorem orFault_some {α : Type} (a : α) (fault : Fault) :
    orFault (some a) fault = .ok a := rfl

@[simp] theorem orFault_none {α : Type} (fault : Fault) :
    orFault (none : Option α) fault = .error fault := rfl

/-! ## What a calculation that ends has done -/

section Results

variable {ε ε' α β : Type}

@[simp] theorem bind_eq_ok_iff {x : Except ε α} {f : α → Except ε β} {b : β} :
    (x >>= f) = .ok b ↔ ∃ a, x = .ok a ∧ f a = .ok b := by
  cases x <;> simp [bind, Except.bind]

@[simp] theorem map_eq_ok_iff {x : Except ε α} {f : α → β} {b : β} :
    f <$> x = .ok b ↔ ∃ a, x = .ok a ∧ f a = b := by
  cases x <;> simp [Functor.map, Except.map]

@[simp] theorem pure_eq_ok_iff {a b : α} : (pure a : Except ε α) = .ok b ↔ a = b :=
  Except.ok.injEq a b ▸ Iff.rfl

@[simp] theorem mapError_eq_ok_iff {x : Except ε α} {f : ε → ε'} {a : α} :
    x.mapError f = .ok a ↔ x = .ok a := by
  cases x with
  | ok b => exact ⟨fun h => congrArg Except.ok (Except.ok.inj h), fun h => h ▸ rfl⟩
  | error e => exact ⟨nofun, nofun⟩

@[simp] theorem liftCalc_eq_ok_iff {x : Calc α} {a : α} :
    (liftM x : Attempt α) = .ok a ↔ x = .ok a :=
  mapError_eq_ok_iff

@[simp] theorem liftRefusal_eq_ok_iff {x : Except UnitError α} {a : α} :
    (liftM x : Attempt α) = .ok a ↔ x = .ok a :=
  mapError_eq_ok_iff

end Results

end Metrology
