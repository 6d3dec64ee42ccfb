import Metrology.Number.Layout
import Metrology.Number.Special
import Metrology.Scalar

/-!
# Floating-point payloads

`Floating` gathers what the two floating-point types of the machine offer, and makes each of them a
`RealScalar`. Arithmetic and the elementary functions are the machine's; where the machine has no
operation that rounds once (`fma`, `hypot`, the error and gamma functions), the exact result is
rounded by `BinaryFormat.round`.
-/

namespace Metrology.Number

/-- A floating-point type of the machine. -/
class Floating (α : Type) extends Add α, Sub α, Mul α, Div α, Neg α where
  format : BinaryFormat
  toDatum : α → Datum
  ofDatum : Datum → α
  less : α → α → Bool
  equal : α → α → Bool
  sqrt : α → α
  cbrt : α → α
  pow : α → α → α
  atan2 : α → α → α
  exp : α → α
  exp2 : α → α
  log : α → α
  log2 : α → α
  log10 : α → α
  sin : α → α
  cos : α → α
  tan : α → α
  asin : α → α
  acos : α → α
  atan : α → α
  sinh : α → α
  cosh : α → α
  tanh : α → α

instance : Floating Float where
  format := binary64
  toDatum x := binary64.decode x.toBits.toNat
  ofDatum d := Float.ofBits (UInt64.ofNat (binary64.encode d))
  less x y := x < y
  equal x y := x == y
  sqrt := Float.sqrt
  cbrt := Float.cbrt
  pow := Float.pow
  atan2 := Float.atan2
  exp := Float.exp
  exp2 := Float.exp2
  log := Float.log
  log2 := Float.log2
  log10 := Float.log10
  sin := Float.sin
  cos := Float.cos
  tan := Float.tan
  asin := Float.asin
  acos := Float.acos
  atan := Float.atan
  sinh := Float.sinh
  cosh := Float.cosh
  tanh := Float.tanh

instance : Floating Float32 where
  format := binary32
  toDatum x := binary32.decode x.toBits.toNat
  ofDatum d := Float32.ofBits (UInt32.ofNat (binary32.encode d))
  less x y := x < y
  equal x y := x == y
  sqrt := Float32.sqrt
  cbrt := Float32.cbrt
  pow := Float32.pow
  atan2 := Float32.atan2
  exp := Float32.exp
  exp2 := Float32.exp2
  log := Float32.log
  log2 := Float32.log2
  log10 := Float32.log10
  sin := Float32.sin
  cos := Float32.cos
  tan := Float32.tan
  asin := Float32.asin
  acos := Float32.acos
  atan := Float32.atan
  sinh := Float32.sinh
  cosh := Float32.cosh
  tanh := Float32.tanh

namespace Floating

variable {α : Type} [Floating α]

/-! ## Numbers of the type -/

/-- The number nearest to a whole one. -/
def ofWhole (n : Int) : α :=
  ofDatum ((format α).round (decide (n < 0)) n.natAbs 1)

/-- One. -/
def one : α := ofWhole 1

/-- What is no number. -/
def nan : α := ofDatum .nan

/-- The number that a literal stands for, rounded once. -/
def ofText? (text : String) : Option α := ((format α).ofText? text).map ofDatum

/-- Whether a payload is no number. -/
def isNaN (x : α) : Bool := !equal x x

/-- The word of a number, in hexadecimal digits. -/
def toHex (x : α) : String :=
  let digits := Nat.toDigits 16 ((format α).encode (toDatum x))
  String.ofList (List.replicate ((format α).hexDigits - digits.length) '0' ++ digits)

/-! ## Operations rounded once -/

/-- The payload with a given sign. -/
def withSign (negative : Bool) (x : α) : α := ofDatum ((toDatum x).withSign negative)

/-- A product plus a number, rounded once. Where an operand or the product is not finite, and where
the sum is an exact zero, the two operations one after the other give the same. -/
def fma (x y z : α) : α :=
  match (toDatum x).toRat?, (toDatum y).toRat?, (toDatum z).toRat? with
  | some a, some b, some c =>
      if a * b + c = 0 then x * y + z else ofDatum ((format α).roundRat false (a * b + c))
  | some _, some _, none => z
  | _, _, _ => x * y + z

/-- The length of the hypotenuse over two legs: one infinite leg makes it infinite, and otherwise
the square root of the exact sum of squares is rounded once. -/
def hypot (x y : α) : α :=
  match (toDatum x), (toDatum y) with
  | .infinite _, _ => ofDatum (.infinite false)
  | _, .infinite _ => ofDatum (.infinite false)
  | a, b =>
      match a.toRat?, b.toRat? with
      | some a, some b =>
          let sum := a * a + b * b
          let scale := 2 * ((format α).precision + 2)
          let e := floorLog2 sum.num.natAbs sum.den / 2
          let (n, d) := scaleFraction sum.num.natAbs sum.den (scale - 2 * e)
          let root := floorSqrt (n / d)
          let sticky := if root * root * d = n then 0 else 1
          let (p, q) := scaleFraction (2 * root + sticky) 2 (e - (format α).precision - 2)
          ofDatum ((format α).round false p q)
      | _, _ => nan

/-! ## Composed functions -/

/-- The logarithm of one plus a number. The quotient undoes the rounding of the sum. -/
def logOnePlus (x : α) : α :=
  let sum := one + x
  if equal sum one then x
  else if toDatum sum = .infinite false then sum
  else log sum * (x / (sum - one))

/-- The inverse hyperbolic sine, by a logarithm that keeps small arguments exact. -/
def asinh (x : α) : α :=
  let size := withSign false x
  let inverse := one / size
  withSign (toDatum x).isNegative
    (logOnePlus (size + size / (hypot one inverse + inverse)))

/-- The inverse hyperbolic cosine, which is defined from one on. -/
def acosh (x : α) : α :=
  if less x one then nan else log (x + sqrt (x - one) * sqrt (x + one))

/-- The inverse hyperbolic tangent. -/
def atanh (x : α) : α :=
  let two : α := ofWhole 2
  one / two * logOnePlus (two * x / (one - x))

/-- The power to a natural exponent by repeated squaring, times `total`. -/
def powerBySquaring (total base : α) (n : Nat) : α :=
  let total := if n % 2 = 1 then total * base else total
  if n / 2 = 0 then total else powerBySquaring total (base * base) (n / 2)
termination_by n
decreasing_by omega

/-- The power to a whole exponent; a negative exponent inverts the power of its size. -/
def powi (x : α) (n : Int32) : α :=
  let power := powerBySquaring one x n.toInt.natAbs
  if n < 0 then one / power else power

/-- The value of a function. -/
def evaluate : Function → α → α
  | .exp => exp
  | .exp2 => exp2
  | .ln => log
  | .log10 => log10
  | .log2 => log2
  | .asin => asin
  | .acos => acos
  | .atan => atan
  | .asinh => asinh
  | .acosh => acosh
  | .atanh => atanh
  | .sin => sin
  | .cos => cos
  | .tan => tan
  | .sinh => sinh
  | .cosh => cosh
  | .tanh => tanh
  | .erf => fun x => ofDatum ((toDatum x).erf (format α))
  | .erfc => fun x => ofDatum ((toDatum x).erfc (format α))
  | .gamma => fun x => ofDatum ((toDatum x).gamma (format α))
  | .lnGamma => fun x => ofDatum ((toDatum x).lnGamma (format α))

end Floating

/-- Floating-point numbers as payloads. Of two numbers that compare equal, the first is the smaller
and the greater; what is no number gives way to the other operand. -/
instance {α : Type} [Floating α] : RealScalar α where
  ofInt n := Floating.ofWhole n.toInt
  compare? x y :=
    if Floating.less x y then some .lt
    else if Floating.equal x y then some .eq
    else if Floating.less y x then some .gt
    else none
  abs := Floating.withSign false
  min x y := if Floating.isNaN x then y else if Floating.less y x then y else x
  max x y := if Floating.isNaN x then y else if Floating.less x y then y else x
  copysign x y := Floating.withSign (Floating.toDatum y).isNegative x
  sqrt := Floating.sqrt
  cbrt := Floating.cbrt
  powi := Floating.powi
  powf := Floating.pow
  hypot := Floating.hypot
  fma := Floating.fma
  atan2 := Floating.atan2
  evaluate := Floating.evaluate

end Metrology.Number
