import Metrology.Number.FixedPoint

/-!
# The error function and the gamma function

Both are evaluated in fixed point at a precision far beyond that of the floating-point formats, and
rounded once at the end. The error function is summed as a power series; the logarithm of the gamma
function is Stirling's series at an argument moved up to 64, and the reflection formula serves the
arguments at and below minus one.
-/

namespace Metrology.Number

/-! ## The error function -/

/-- The terms `t ^ n / (n! * (2 * n + 1))` with alternating signs, from `term` on. -/
def erfSeries (p : Nat) (negSquare : Int) : (fuel : Nat) → (term : Int) → (n : Nat) → Int
  | 0, _, _ => 0
  | fuel + 1, term, n =>
      if term = 0 ∨ term = -1 then 0
      else term / (2 * n + 1) +
        erfSeries p negSquare fuel (FixedPoint.mul p term negSquare / (n + 1)) (n + 1)

/-- The error function divided by its argument, as an exact number of precision `2 ^ -p`. -/
def erfQuotient (p : Nat) (x : Rat) : Rat :=
  let square := FixedPoint.ofRat p (x * x)
  let sum := erfSeries p (-square) (p + 8 * (x * x).ceil.toNat + 64) (Nat.pow 2 p) 0
  FixedPoint.toRat p (2 * sum) / FixedPoint.toRat p (FixedPoint.sqrt p (FixedPoint.pi p))

/-- Bits of precision at which one minus the error function of `x` keeps its leading digits. -/
def erfPrecision (x : Rat) : Nat := 256 + 4 * (x * x).ceil.toNat

/-- The error function of an exact number. Beyond 28 it is one in every format. -/
def erfRat (x : Rat) : Rat :=
  if 28 ≤ x then 1
  else if x ≤ -28 then -1
  else x * erfQuotient (erfPrecision x) x

/-- One minus the error function of an exact number. Beyond 28 it vanishes in every format. -/
def erfcRat (x : Rat) : Rat := if 28 ≤ x then 0 else 1 - erfRat x

/-! ## The gamma function -/

/-- Bits of precision at which the gamma function is evaluated. -/
def gammaPrecision : Nat := 256

/-- The coefficients of Stirling's series. -/
def stirlingCoefficients : List Rat :=
  [mkRat 1 12, mkRat (-1) 360, mkRat 1 1260, mkRat (-1) 1680, mkRat 1 1188, mkRat (-691) 360360,
    mkRat 1 156, mkRat (-3617) 122400, mkRat 43867 244188, mkRat (-174611) 125400,
    mkRat 77683 5796, mkRat (-236364091) 1506960]

/-- The logarithm of the gamma function of a number from 64 on, by Stirling's series. -/
def lnGammaLarge (p : Nat) (x : Rat) : Int :=
  let inverse := FixedPoint.ofRat p (1 / x)
  let square := FixedPoint.mul p inverse inverse
  let correction := (stirlingCoefficients.foldl
    (fun (sum, power) c => (sum + power * c.num / c.den, FixedPoint.mul p power square))
    ((0, inverse) : Int × Int)).1
  let logarithm := FixedPoint.ln p x
  let main := (x.num * 2 - x.den) * logarithm / (2 * x.den)
  let turn := FixedPoint.ln p (FixedPoint.toRat p (2 * FixedPoint.pi p))
  main - FixedPoint.ofRat p x + turn / 2 + correction

/-- The product `x * (x + 1) * …` of `n` factors. -/
def risingProduct (x : Rat) : Nat → Rat
  | 0 => 1
  | n + 1 => x * risingProduct (x + 1) n

/-- The logarithm of the absolute gamma function above minus one, and not at zero: the argument is
moved up to 64 and the factors passed on the way are taken off again. -/
def lnGammaRight (p : Nat) (x : Rat) : Int :=
  let steps := (64 - x).ceil.toNat
  lnGammaLarge p (x + steps) - FixedPoint.ln p (risingProduct x steps)

/-- The logarithm of the absolute gamma function where it is finite. -/
def lnGammaFixed (p : Nat) (x : Rat) : Int :=
  if -1 < x then lnGammaRight p x
  else
    let sine := FixedPoint.toRat p (FixedPoint.sinPi p (x - x.floor))
    FixedPoint.ln p (FixedPoint.toRat p (FixedPoint.pi p) / sine) - lnGammaRight p (1 - x)

/-- Whether the gamma function has a pole at an exact number. -/
def isGammaPole (x : Rat) : Bool := x ≤ 0 && x.den == 1

/-- Whether the gamma function is negative at an exact number: between an odd negative integer and
the next even one. -/
def isGammaNegative (x : Rat) : Bool := x < 0 && x.floor % 2 != 0

/-- The gamma function where it is finite, given by its size: beyond 180 in size the argument is
taken for 180, whose value exceeds, and whose reciprocal vanishes in, every format. -/
def gammaRat (x : Rat) : Rat :=
  let p := gammaPrecision
  if 180 ≤ x then mkRat (Nat.pow 2 2000) 1
  else
    let size :=
      if x ≤ -200 then mkRat 1 (Nat.pow 2 2000) else FixedPoint.exp p (lnGammaFixed p x)
    if isGammaNegative x then -size else size

/-- The logarithm of the absolute gamma function where it is finite; its zeros at one and two are
exact. -/
def lnGammaRat (x : Rat) : Rat :=
  if x = 1 ∨ x = 2 then 0 else FixedPoint.toRat gammaPrecision (lnGammaFixed gammaPrecision x)

/-! ## Functions of data -/

/-- The error function of a datum; an exact zero keeps its sign. -/
def Datum.erf (f : BinaryFormat) : Datum → Datum
  | .nan => .nan
  | .infinite negative => f.round negative 1 1
  | d => match d.toRat? with
    | some x => f.roundRat d.isNegative (erfRat x)
    | none => .nan

/-- One minus the error function of a datum. -/
def Datum.erfc (f : BinaryFormat) : Datum → Datum
  | .nan => .nan
  | .infinite negative => f.round false (if negative then 2 else 0) 1
  | d => match d.toRat? with
    | some x => f.roundRat false (erfcRat x)
    | none => .nan

/-- The gamma function of a datum: infinite with the sign of a zero argument, and undefined at the
other poles and at negative infinity. -/
def Datum.gamma (f : BinaryFormat) : Datum → Datum
  | .nan => .nan
  | .infinite negative => if negative then .nan else .infinite false
  | d => match d.toRat? with
    | some x =>
        if x = 0 then .infinite d.isNegative
        else if isGammaPole x then .nan
        else f.roundRat (isGammaNegative x) (gammaRat x)
    | none => .nan

/-- The logarithm of the absolute gamma function of a datum: infinite at the poles and at both
infinities. -/
def Datum.lnGamma (f : BinaryFormat) : Datum → Datum
  | .nan => .nan
  | .infinite _ => .infinite false
  | d => match d.toRat? with
    | some x =>
        if isGammaPole x then .infinite false else f.roundRat false (lnGammaRat x)
    | none => .nan

end Metrology.Number
