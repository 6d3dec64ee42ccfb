import Metrology.Number.Binary

/-!
# Decimal text of floating-point numbers

`Decimal` is a whole number of a power of ten. `Decimal.shortest` gives a finite datum the fewest
digits that read back as it: it walks the decimal grids from coarse to fine and takes the first that
has a point in the interval of numbers which round to the datum. Digits are laid out positionally
(`positional`), with a fixed number of places (`fixed`), or with one digit before the point and an
exponent (`scientific`); `ofText?` reads a literal.
-/

namespace Metrology.Number

/-- The number `digits * 10 ^ exponent`. -/
structure Decimal where
  digits : Nat
  exponent : Int
deriving DecidableEq, Repr

/-! ## Digits -/

/-- The decimal digits of a whole number. -/
def digitText (n : Nat) : String := String.ofList (Nat.toDigits 10 n)

/-- How many decimal digits a whole number has. -/
def digitCount (n : Nat) : Nat := (Nat.toDigits 10 n).length

/-- A number of zeros. -/
def zeros (n : Nat) : String := String.ofList (List.replicate n '0')

/-- The exponent of the largest power of ten that is at most `n / d`. -/
def floorLog10 (n d : Nat) : Int :=
  if d ≤ n then (digitCount (n / d) : Int) - 1
  else -(digitCount ((d + n - 1) / n - 1) : Int)

/-- The fraction `n / d` divided by a power of ten. -/
def unscaleTen (n d : Nat) (e : Int) : Nat × Nat :=
  if 0 ≤ e then (n, d * Nat.pow 10 e.toNat) else (n * Nat.pow 10 (-e).toNat, d)

namespace Decimal

/-- The exact numerator and denominator. -/
def toFraction (x : Decimal) : Nat × Nat := unscaleTen x.digits 1 (-x.exponent)

/-- The same number without zeros at the end of its digits. -/
def normalize (x : Decimal) : Decimal :=
  if x.digits = 0 then ⟨0, 0⟩
  else
    let text := (Nat.toDigits 10 x.digits).reverse
    let count := (text.takeWhile (· == '0')).length
    ⟨x.digits / Nat.pow 10 count, x.exponent + count⟩

/-! ## The fewest digits that read back -/

/-- The numbers that round to a datum: an interval around its value, with bounds over a common
denominator. The bounds belong to it when the significand is even. -/
structure Interval where
  low : Nat
  value : Nat
  high : Nat
  den : Nat
  closed : Bool

/-- The interval of numbers that round to `significand * 2 ^ exponent`. Below a power of two the
next number is only half as far away. -/
def Interval.of (f : BinaryFormat) (significand : Nat) (exponent : Int) : Interval :=
  let atPower := significand = Nat.pow 2 (f.precision - 1) ∧ f.minExponent < exponent
  let (n, den) := scaleFraction 1 1 (exponent - 2)
  { low := (4 * significand - if atPower then 1 else 2) * n
    value := 4 * significand * n
    high := (4 * significand + 2) * n
    den
    closed := significand % 2 = 0 }

/-- Whether a decimal lies in an interval. -/
def Interval.contains (i : Interval) (x : Decimal) : Bool :=
  let (n, d) := x.toFraction
  if i.closed then i.low * d ≤ n * i.den && n * i.den ≤ i.high * d
  else i.low * d < n * i.den && n * i.den < i.high * d

/-- The point of the grid of `10 ^ exponent` in the interval that is nearest to its value. -/
def Interval.gridPoint? (i : Interval) (exponent : Int) : Option Decimal :=
  let (n, d) := unscaleTen i.value i.den exponent
  let below : Decimal := ⟨n / d, exponent⟩
  let above : Decimal := ⟨n / d + 1, exponent⟩
  let r := n % d
  let belowFits := below.digits != 0 && i.contains below
  let aboveFits := i.contains above
  if belowFits && aboveFits then
    if 2 * r < d ∨ (2 * r = d ∧ below.digits % 2 = 0) then some below else some above
  else if belowFits then some below
  else if aboveFits then some above
  else none

/-- The first grid, of the next `count` ones from a given exponent downward, with a point in the
interval. -/
def Interval.search (i : Interval) (exponent : Int) : Nat → Option Decimal
  | 0 => none
  | count + 1 => (i.gridPoint? exponent).or (i.search (exponent - 1) count)

/-- The shortest decimal that rounds to `significand * 2 ^ exponent`, and of those the nearest. -/
def shortest (f : BinaryFormat) (significand : Nat) (exponent : Int) : Decimal :=
  if significand = 0 then ⟨0, 0⟩
  else
    let i := Interval.of f significand exponent
    let start := floorLog10 i.value i.den
    ((i.search start 20).getD ⟨0, 0⟩).normalize

/-! ## Layouts of digits -/

/-- The digits without an exponent, with a point only where a fraction follows. -/
def positional (x : Decimal) : String :=
  if 0 ≤ x.exponent then digitText (x.digits * Nat.pow 10 x.exponent.toNat)
  else
    let places := (-x.exponent).toNat
    let scale := Nat.pow 10 places
    let fraction := digitText (x.digits % scale)
    digitText (x.digits / scale) ++ "." ++ zeros (places - fraction.length) ++ fraction

/-- The digits with one before the point and the exponent of ten after an `e`. -/
def exponential (x : Decimal) : String :=
  let text := Nat.toDigits 10 x.digits
  let exponent := x.exponent + (text.length - 1 : Nat)
  match text with
  | [] => "0e0"
  | [digit] => String.ofList [digit] ++ s!"e{exponent}"
  | digit :: rest => String.ofList (digit :: '.' :: rest) ++ s!"e{exponent}"

end Decimal

/-- A fraction with a fixed number of places; a half goes to the even digit. -/
def fixed (n d places : Nat) : String :=
  let scaled := roundDiv (n * Nat.pow 10 places) d
  if places = 0 then digitText scaled
  else
    let scale := Nat.pow 10 places
    let fraction := digitText (scaled % scale)
    digitText (scaled / scale) ++ "." ++ zeros (places - fraction.length) ++ fraction

/-- A fraction with one digit before the point, `places` after it and an exponent of ten; a half
goes to the even digit. -/
def scientific (n d places : Nat) : String :=
  if n = 0 then digitText 0 ++ "." ++ zeros places ++ "e0"
  else
    let exponent := floorLog10 n d
    let (p, q) := unscaleTen n d (exponent - places)
    let digits := roundDiv p q
    let (digits, exponent) :=
      if digits = Nat.pow 10 (places + 1) then (Nat.pow 10 places, exponent + 1)
      else (digits, exponent)
    match Nat.toDigits 10 digits with
    | [] => ""
    | digit :: rest => String.ofList (digit :: '.' :: rest) ++ s!"e{exponent}"

/-! ## Reading -/

/-- The value of a row of decimal digits. -/
def digitsValue (digits : List Char) : Nat :=
  digits.foldl (fun n c => 10 * n + (c.toNat - '0'.toNat)) 0

/-- A decimal literal: digits with an optional fraction and an optional exponent. -/
def Decimal.ofText? (text : List Char) : Option Decimal :=
  let whole := text.takeWhile Char.isDigit
  let rest := text.dropWhile Char.isDigit
  let (fraction, rest) : List Char × List Char :=
    match rest with
    | '.' :: rest => (rest.takeWhile Char.isDigit, rest.dropWhile Char.isDigit)
    | _ => ([], rest)
  let digits := digitsValue (whole ++ fraction)
  let places : Int := fraction.length
  if whole.isEmpty && fraction.isEmpty then none
  else match rest with
    | [] => some ⟨digits, -places⟩
    | e :: rest =>
        if e != 'e' && e != 'E' then none
        else
          let (negative, rest) : Bool × List Char :=
            match rest with
            | '-' :: rest => (true, rest)
            | '+' :: rest => (false, rest)
            | _ => (false, rest)
          if rest.isEmpty || !rest.all Char.isDigit then none
          else
            let n : Int := digitsValue rest
            some ⟨digits, (if negative then -n else n) - places⟩

/-- The datum nearest to a decimal. A decimal of more digits before the point than the exponent
field has values exceeds the format, and one of as many zeros after the point vanishes. -/
def BinaryFormat.roundDecimal (f : BinaryFormat) (negative : Bool) (x : Decimal) : Datum :=
  let height := x.exponent + digitCount x.digits
  if x.digits = 0 ∨ height < -Nat.pow 2 f.exponentBits then f.round negative 0 1
  else if Nat.pow 2 f.exponentBits < height then .infinite negative
  else
    let (n, d) := x.toFraction
    f.round negative n d

/-- The datum that a literal stands for, rounded once. -/
def BinaryFormat.ofText? (f : BinaryFormat) (text : String) : Option Datum :=
  let (negative, body) : Bool × List Char :=
    match text.toList with
    | '-' :: rest => (true, rest)
    | '+' :: rest => (false, rest)
    | chars => (false, chars)
  if body = "inf".toList then some (.infinite negative)
  else if body = "NaN".toList then some .nan
  else (Decimal.ofText? body).map (f.roundDecimal negative)

end Metrology.Number
