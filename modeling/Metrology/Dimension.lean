import Metrology.Bounded

/-!
# Physical dimensions

A `Dimension` holds the exponents of the seven base dimensions. `mul`, `div` and `pow` work exponent
by exponent and stop at the first that leaves its range. `text` writes a dimension as a product of
base units, in the customary order of kilogram, metre, second, ampere, kelvin, mole and candela.
-/

namespace Metrology

/-- Exponents of the seven base dimensions. -/
structure Dimension where
  time : Int32
  length : Int32
  mass : Int32
  electricCurrent : Int32
  temperature : Int32
  amountOfSubstance : Int32
  luminousIntensity : Int32
deriving DecidableEq, Repr

namespace Dimension

/-! ## Base dimensions -/

/-- The dimension of a pure number. -/
def dimensionless : Dimension := ⟨0, 0, 0, 0, 0, 0, 0⟩

/-- The dimension of durations. -/
def ofTime : Dimension := ⟨1, 0, 0, 0, 0, 0, 0⟩

/-- The dimension of lengths. -/
def ofLength : Dimension := ⟨0, 1, 0, 0, 0, 0, 0⟩

/-- The dimension of masses. -/
def ofMass : Dimension := ⟨0, 0, 1, 0, 0, 0, 0⟩

/-- The dimension of electric currents. -/
def ofElectricCurrent : Dimension := ⟨0, 0, 0, 1, 0, 0, 0⟩

/-- The dimension of temperatures. -/
def ofTemperature : Dimension := ⟨0, 0, 0, 0, 1, 0, 0⟩

/-- The dimension of amounts of substance. -/
def ofAmountOfSubstance : Dimension := ⟨0, 0, 0, 0, 0, 1, 0⟩

/-- The dimension of luminous intensities. -/
def ofLuminousIntensity : Dimension := ⟨0, 0, 0, 0, 0, 0, 1⟩

instance : Inhabited Dimension := ⟨dimensionless⟩

/-! ## The seven exponents -/

/-- The exponents in the order of the fields. -/
def exponents (d : Dimension) : List Int32 :=
  [d.time, d.length, d.mass, d.electricCurrent, d.temperature, d.amountOfSubstance,
    d.luminousIntensity]

/-- Agreement of the exponents, one place after another. -/
def sameAs (a b : Dimension) : Bool :=
  (a.exponents.zip b.exponents).all fun (x, y) => x == y

theorem sameAs_iff {a b : Dimension} : a.sameAs b = true ↔ a = b := by
  cases a
  cases b
  simp [sameAs, exponents]

/-- Whether every exponent is zero. -/
def isDimensionless (d : Dimension) : Bool := d.sameAs dimensionless

theorem isDimensionless_iff {d : Dimension} : d.isDimensionless = true ↔ d = dimensionless :=
  sameAs_iff

/-! ## Products, quotients and powers -/

/-- Combines two dimensions exponent by exponent, in the order of the fields. -/
def combine (f : Int32 → Int32 → Calc Int32) (a b : Dimension) : Calc Dimension := do
  let time ← f a.time b.time
  let length ← f a.length b.length
  let mass ← f a.mass b.mass
  let electricCurrent ← f a.electricCurrent b.electricCurrent
  let temperature ← f a.temperature b.temperature
  let amountOfSubstance ← f a.amountOfSubstance b.amountOfSubstance
  let luminousIntensity ← f a.luminousIntensity b.luminousIntensity
  return ⟨time, length, mass, electricCurrent, temperature, amountOfSubstance, luminousIntensity⟩

/-- The dimension of a product. -/
def mul : Dimension → Dimension → Calc Dimension :=
  combine fun x y => orFault (Bounded.add? x y) (.overflow .addition)

/-- The dimension of a quotient. -/
def div : Dimension → Dimension → Calc Dimension :=
  combine fun x y => orFault (Bounded.sub? x y) (.overflow .subtraction)

/-- The dimension of a power. -/
def pow (d : Dimension) (n : Int32) : Calc Dimension :=
  combine (fun x _ => orFault (Bounded.mul? x n) (.overflow .multiplication)) d d

/-! ## Text -/

/-- The base units in the order in which they are written, each with its exponent. -/
def factors (d : Dimension) : List (String × Int32) :=
  [("kg", d.mass), ("m", d.length), ("s", d.time), ("A", d.electricCurrent), ("K", d.temperature),
    ("mol", d.amountOfSubstance), ("cd", d.luminousIntensity)]

/-- A symbol with its exponent after a caret; the exponent one is not written. -/
def factorText : String × Int32 → String
  | (symbol, exponent) => if exponent = 1 then symbol else s!"{symbol}^{exponent}"

/-- The factors of non-zero exponent, parted by spaces; a pure number is written `1`. -/
def text (d : Dimension) : String :=
  if d.isDimensionless then "1"
  else " ".intercalate ((d.factors.filter fun factor => factor.2 != 0).map factorText)

/-- The names under which the exponents are stored, in the order of the fields. -/
def fieldNames : List String :=
  ["time", "length", "mass", "electric_current", "temperature", "amount_of_substance",
    "luminous_intensity"]

/-- The dimension of seven exponents in the order of the fields. -/
def ofExponents? : List Int32 → Option Dimension
  | [time, length, mass, electricCurrent, temperature, amountOfSubstance, luminousIntensity] =>
      some ⟨time, length, mass, electricCurrent, temperature, amountOfSubstance, luminousIntensity⟩
  | _ => none

@[simp] theorem ofExponents?_exponents (d : Dimension) : ofExponents? d.exponents = some d := rfl

/-- The base dimension of a given name. -/
def named? : String → Option Dimension
  | "dimensionless" => some dimensionless
  | "time" => some ofTime
  | "length" => some ofLength
  | "mass" => some ofMass
  | "electric_current" => some ofElectricCurrent
  | "temperature" => some ofTemperature
  | "amount_of_substance" => some ofAmountOfSubstance
  | "luminous_intensity" => some ofLuminousIntensity
  | _ => none

end Dimension

end Metrology
