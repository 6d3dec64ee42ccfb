import Metrology.Number.Binary

/-!
# Elementary functions in fixed point

A real number is held as a whole number of units of `2 ^ -p`. Logarithm, exponential and sine come
from their series, which end where a term has fallen below the unit; `fuel` only bounds the number
of terms, and is never used up at the precisions asked for.
-/

namespace Metrology.Number.FixedPoint

/-- The product of two numbers. -/
def mul (p : Nat) (a b : Int) : Int := (a * b) >>> p

/-- The number nearest below an exact one. -/
def ofRat (p : Nat) (x : Rat) : Int := x.num * Nat.pow 2 p / x.den

/-- The exact number of a fixed-point one. -/
def toRat (p : Nat) (a : Int) : Rat := mkRat a (Nat.pow 2 p)

/-- The sum of `term / (index * count)` over the odd numbers from `index`, where each term is
`square` times the one before: with `term` and `square` from `s`, the inverse hyperbolic tangent. -/
def oddSeries (p : Nat) (square : Int) : (fuel : Nat) → (term : Int) → (index : Nat) → Int
  | 0, _, _ => 0
  | fuel + 1, term, index =>
      if term = 0 ∨ term = -1 then 0
      else term / index + oddSeries p square fuel (mul p term square) (index + 2)

/-- The inverse hyperbolic tangent of a number at most one third in size. -/
def artanh (p : Nat) (s : Int) : Int := oddSeries p (mul p s s) (p + 2) s 1

/-- The inverse tangent of `1 / n`. -/
def arctanInverse (p n : Nat) : Int :=
  let s : Int := Nat.pow 2 p / n
  oddSeries p (-(s / n)) (p + 2) s 1

/-- The logarithm of two. -/
def ln2 (p : Nat) : Int := 2 * artanh p (Nat.pow 2 p / 3)

/-- The ratio of the circumference of a circle to its diameter. -/
def pi (p : Nat) : Int := 16 * arctanInverse p 5 - 4 * arctanInverse p 239

/-- The natural logarithm of a positive number: that of a number between one and two, and a multiple
of the logarithm of two. -/
def ln (p : Nat) (x : Rat) : Int :=
  let e := floorLog2 x.num.natAbs x.den
  let (n, d) := scaleFraction x.num.natAbs x.den (-e)
  let s : Int := ((n : Int) - d) * Nat.pow 2 p / (n + d)
  2 * artanh p s + e * ln2 p

/-- The terms of the exponential series from `term` on, where `index` is the next divisor. -/
def expSeries (p : Nat) (x : Int) : (fuel : Nat) → (term : Int) → (index : Nat) → Int
  | 0, _, _ => 0
  | fuel + 1, term, index =>
      if term = 0 then 0 else term + expSeries p x fuel (mul p term x / index) (index + 1)

/-- The exponential of a number, exact but for the precision of its significand. -/
def exp (p : Nat) (x : Int) : Rat :=
  let unit := ln2 p
  let k := x / unit
  let (n, d) := scaleFraction 1 1 k
  toRat p (expSeries p (x - k * unit) (p + 2) (Nat.pow 2 p) 1) * mkRat n d

/-- The terms of the sine series from `term` on, for an argument whose negative square is given. -/
def sinSeries (p : Nat) (negSquare : Int) : (fuel : Nat) → (term : Int) → (index : Nat) → Int
  | 0, _, _ => 0
  | fuel + 1, term, index =>
      if term = 0 ∨ term = -1 then 0
      else term + sinSeries p negSquare fuel (mul p term negSquare / (index * (index + 1)))
        (index + 2)

/-- The sine of `x` half turns, for `x` between zero and one. -/
def sinPi (p : Nat) (x : Rat) : Int :=
  let angle := mul p (pi p) (ofRat p (if 2 * x ≤ 1 then x else 1 - x))
  sinSeries p (-(mul p angle angle)) (p + 2) angle 2

/-- The square root of a number that is not negative. -/
def sqrt (p : Nat) (a : Int) : Int := floorSqrt (a.toNat * Nat.pow 2 p)

end Metrology.Number.FixedPoint
