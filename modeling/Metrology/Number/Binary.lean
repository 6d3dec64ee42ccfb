/-!
# Binary floating-point formats

A `BinaryFormat` fixes the number of significand bits and the width of the exponent. A `Datum` is
what a word of the format stands for; `decode` and `encode` pass between words and data, and `round`
finds the datum nearest to an exact fraction. Conversions from decimal text, from whole numbers and
from exact results of functions all go through `round`, so each is rounded once.
-/

namespace Metrology.Number

/-! ## Whole numbers -/

/-- The whole number nearest to `n / d`; a half goes to the even neighbour. -/
def roundDiv (n d : Nat) : Nat :=
  let q := n / d
  let r := n % d
  if d < 2 * r ∨ (2 * r = d ∧ q % 2 = 1) then q + 1 else q

/-- The fraction `n * 2 ^ e` over one, or over the power of two that a negative exponent asks for.
-/
def scaleFraction (n d : Nat) (e : Int) : Nat × Nat :=
  if 0 ≤ e then (n * Nat.pow 2 e.toNat, d) else (n, d * Nat.pow 2 (-e).toNat)

/-- The exponent of the largest power of two that is at most `n / d`. -/
def floorLog2 (n d : Nat) : Int :=
  let e : Int := (n.log2 : Int) - (d.log2 : Int)
  let (p, q) := scaleFraction 1 1 e
  if n * q < d * p then e - 1 else e

/-- The largest whole number whose square is at most `n`. -/
def floorSqrt (n : Nat) : Nat :=
  if n < 2 then n
  else
    let s := 2 * floorSqrt (n / 4)
    if (s + 1) * (s + 1) ≤ n then s + 1 else s
termination_by n

/-! ## Formats -/

/-- A binary floating-point format. -/
structure BinaryFormat where
  /-- Bits of the significand, the leading one included. -/
  precision : Nat
  /-- Bits of the exponent field. -/
  exponentBits : Nat
deriving DecidableEq, Repr

/-- The format of 64 bits. -/
def binary64 : BinaryFormat := ⟨53, 11⟩

/-- The format of 32 bits. -/
def binary32 : BinaryFormat := ⟨24, 8⟩

/-- What a word of a format stands for; a finite value is `significand * 2 ^ exponent`. -/
inductive Datum
  | nan
  | infinite (negative : Bool)
  | finite (negative : Bool) (significand : Nat) (exponent : Int)
deriving DecidableEq, Repr

namespace BinaryFormat

/-- The exponent of the smallest positive value. -/
def minExponent (f : BinaryFormat) : Int := 3 - Nat.pow 2 (f.exponentBits - 1) - f.precision

/-- The exponent of the largest finite value. -/
def maxExponent (f : BinaryFormat) : Int := Nat.pow 2 (f.exponentBits - 1) - f.precision

/-- Hexadecimal digits of a word. -/
def hexDigits (f : BinaryFormat) : Nat := (f.precision + f.exponentBits) / 4

/-- The datum of a word. -/
def decode (f : BinaryFormat) (word : Nat) : Datum :=
  let fractionBits := f.precision - 1
  let fraction := word % Nat.pow 2 fractionBits
  let field := word / Nat.pow 2 fractionBits % Nat.pow 2 f.exponentBits
  let negative := word / Nat.pow 2 (fractionBits + f.exponentBits) % 2 == 1
  if field = Nat.pow 2 f.exponentBits - 1 then
    if fraction = 0 then .infinite negative else .nan
  else if field = 0 then .finite negative fraction f.minExponent
  else .finite negative (Nat.pow 2 fractionBits + fraction) (f.minExponent + (field - 1))

/-- The word of a datum whose significand and exponent are those of the format. -/
def encode (f : BinaryFormat) (datum : Datum) : Nat :=
  let fractionBits := f.precision - 1
  let signWord (negative : Bool) : Nat :=
    if negative then Nat.pow 2 (fractionBits + f.exponentBits) else 0
  let allOnes := (Nat.pow 2 f.exponentBits - 1) * Nat.pow 2 fractionBits
  match datum with
  | .nan => allOnes + Nat.pow 2 (fractionBits - 1)
  | .infinite negative => signWord negative + allOnes
  | .finite negative significand exponent =>
      signWord negative +
        if significand < Nat.pow 2 fractionBits then significand
        else (exponent - f.minExponent).toNat * Nat.pow 2 fractionBits + significand

/-- The datum nearest to `n / d` with a given sign; a tie goes to the even significand, and what
exceeds the format is infinite. -/
def round (f : BinaryFormat) (negative : Bool) (n d : Nat) : Datum :=
  if n = 0 then .finite negative 0 f.minExponent
  else
    let exponent := max (floorLog2 n d - (f.precision - 1 : Nat)) f.minExponent
    let (p, q) := scaleFraction n d (-exponent)
    let significand := roundDiv p q
    let (significand, exponent) :=
      if significand = Nat.pow 2 f.precision then (Nat.pow 2 (f.precision - 1), exponent + 1)
      else (significand, exponent)
    if f.maxExponent < exponent then .infinite negative
    else .finite negative significand exponent

/-- The datum nearest to an exact number; `negativeZero` is the sign of zero. -/
def roundRat (f : BinaryFormat) (negativeZero : Bool) (x : Rat) : Datum :=
  f.round (if x = 0 then negativeZero else decide (x < 0)) x.num.natAbs x.den

end BinaryFormat

namespace Datum

/-- The exact number of a finite datum. -/
def toRat? : Datum → Option Rat
  | .finite negative significand exponent =>
      let (n, d) := scaleFraction significand 1 exponent
      some (mkRat (if negative then -(n : Int) else n) d)
  | _ => none

/-- Whether the sign is negative; a datum that is no number has none. -/
def isNegative : Datum → Bool
  | .nan => false
  | .infinite negative => negative
  | .finite negative _ _ => negative

/-- The datum with a given sign. -/
def withSign (negative : Bool) : Datum → Datum
  | .nan => .nan
  | .infinite _ => .infinite negative
  | .finite _ significand exponent => .finite negative significand exponent

end Datum

end Metrology.Number
