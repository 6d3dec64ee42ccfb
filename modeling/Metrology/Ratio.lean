import Metrology.Bounded

/-!
# Exact ratios

A `Ratio` is a fraction of two 64-bit integers in lowest terms with a positive denominator, and it
carries the proof of that, so that a number has one ratio at most. `Ratio.make` brings a pair of
integers to this form, and every operation ends in `make`. The least 64-bit integer has no absolute
value of its own width, so `make` refuses it on either side. Products are reduced across before they
are multiplied, so that they leave the range only when the reduced product does.
-/

namespace Metrology

/-- A fraction of 64-bit integers in lowest terms. -/
structure Ratio where
  num : Int64
  den : Int64
  den_pos : 0 < den.toInt := by decide
  reduced : Nat.gcd num.toInt.natAbs den.toInt.natAbs = 1 := by decide
deriving DecidableEq, Repr

namespace Ratio

/-- A whole number as a ratio. -/
def ofInt (n : Int64) : Ratio where
  num := n
  den := 1
  reduced := Nat.gcd_one_right _

/-- Nothing. -/
def zero : Ratio := ofInt 0

/-- One. -/
def one : Ratio := ofInt 1

/-- One part of a hundred. -/
def hundredth : Ratio := .mk 1 100

/-- One part of a thousand. -/
def thousandth : Ratio := .mk 1 1000

instance : Inhabited Ratio := ⟨zero⟩

/-! ## Construction -/

/-- The absolute value of a component. -/
def magnitude (n : Int64) : Calc Nat := orFault (Bounded.abs? n) (.overflow .negation)

/-- A component of a ratio, which must be in range. -/
def component (n : Int) : Calc Int64 := orFault (Bounded.ofInt? n) .ratioOverflow

theorem natAbs_toInt_lt {n : Int64} (h : n ≠ .minValue) :
    n.toInt.natAbs < 0x8000000000000000 := by
  have hlow := n.le_toInt
  have hhigh := n.toInt_lt
  have hmin : n.toInt ≠ -2 ^ 63 := fun hn => h (Int64.toInt_inj.1 hn)
  omega

/-- The numerator of a fraction in lowest terms. -/
def lowestNum (n d : Int64) : Int :=
  let p : Nat := n.toInt.natAbs / n.toInt.natAbs.gcd d.toInt.natAbs
  if decide (n < 0) = decide (d < 0) then p else -p

/-- The denominator of a fraction in lowest terms. -/
def lowestDen (n d : Int64) : Int := (d.toInt.natAbs / n.toInt.natAbs.gcd d.toInt.natAbs : Nat)

theorem natAbs_lowestNum (n d : Int64) :
    (lowestNum n d).natAbs = n.toInt.natAbs / n.toInt.natAbs.gcd d.toInt.natAbs := by
  unfold lowestNum
  split <;> simp only [Int.natAbs_neg, Int.natAbs_natCast]

theorem toInt_ofInt_lowestNum {n : Int64} (d : Int64) (h : n ≠ .minValue) :
    (Int64.ofInt (lowestNum n d)).toInt = lowestNum n d := by
  have habs := natAbs_lowestNum n d
  have hle := Nat.div_le_self n.toInt.natAbs (n.toInt.natAbs.gcd d.toInt.natAbs)
  have hlt := natAbs_toInt_lt h
  apply Int64.toInt_ofInt_of_le <;> omega

theorem toInt_ofInt_lowestDen {d : Int64} (n : Int64) (h : d ≠ .minValue) :
    (Int64.ofInt (lowestDen n d)).toInt = lowestDen n d := by
  have hle := Nat.div_le_self d.toInt.natAbs (n.toInt.natAbs.gcd d.toInt.natAbs)
  have hlt := natAbs_toInt_lt h
  apply Int64.toInt_ofInt_of_le
  · exact Int.le_trans (by decide) (Int.natCast_nonneg _)
  · exact Int.ofNat_lt.2 (Nat.lt_of_le_of_lt hle hlt)

/-- The fraction of two integers in lowest terms; both absolute values are in range. -/
def lowest (n d : Int64) (hn : n ≠ .minValue) (hd : d ≠ .minValue) (h : d ≠ 0) : Ratio :=
  have hpos : 0 < d.toInt.natAbs := Int.natAbs_pos.2 fun hd0 => h (Int64.toInt_inj.1 hd0)
  have hgcd : 0 < n.toInt.natAbs.gcd d.toInt.natAbs := Nat.gcd_pos_of_pos_right _ hpos
  { num := Int64.ofInt (lowestNum n d)
    den := Int64.ofInt (lowestDen n d)
    den_pos := by
      rw [toInt_ofInt_lowestDen n hd]
      exact Int.natCast_pos.2 (Nat.div_pos (Nat.le_of_dvd hpos (Nat.gcd_dvd_right ..)) hgcd)
    reduced := by
      rw [toInt_ofInt_lowestNum d hn, toInt_ofInt_lowestDen n hd, natAbs_lowestNum]
      exact Nat.coprime_div_gcd_div_gcd hgcd }

/-- The ratio `n / d` in lowest terms with a positive denominator. -/
def make (n d : Int64) : Calc Ratio :=
  if h : d = 0 then .error (.refused .zeroDenominator)
  else if hn : n = .minValue then .error (.overflow .negation)
  else if hd : d = .minValue then .error (.overflow .negation)
  else .ok (lowest n d hn hd h)

/-- The ratio of a pair from outside, where a zero denominator is a refusal and not a fault. -/
def ofPair (n d : Int64) : Attempt Ratio :=
  if d = 0 then .error (.unit .zeroDenominator) else make n d

/-- The components, numerator first. -/
def toPair (r : Ratio) : Int64 × Int64 := (r.num, r.den)

/-- Whether a ratio is nothing. -/
def isZero (r : Ratio) : Bool := r.num == 0

/-- Componentwise agreement. -/
def sameAs (a b : Ratio) : Bool := a.num == b.num && a.den == b.den

theorem sameAs_iff {a b : Ratio} : a.sameAs b = true ↔ a = b := by
  cases a
  cases b
  simp [sameAs]

/-! ## Arithmetic -/

/-- The reciprocal. -/
def inverse (r : Ratio) : Calc Ratio := make r.den r.num

/-- The product, reduced across before multiplying. -/
def mul (a b : Ratio) : Calc Ratio := do
  let p ← magnitude a.num
  let g := Nat.gcd p b.den.toInt.natAbs
  let q ← magnitude b.num
  let h := Nat.gcd q a.den.toInt.natAbs
  let n ← component (a.num.toInt / g * (b.num.toInt / h))
  let d ← component (a.den.toInt / h * (b.den.toInt / g))
  make n d

/-- The quotient. -/
def div (a b : Ratio) : Calc Ratio := do
  a.mul (← b.inverse)

/-- The sum, over the least common denominator. -/
def add (a b : Ratio) : Calc Ratio := do
  let common := Nat.gcd a.den.toInt.natAbs b.den.toInt.natAbs
  let m ← component (a.num.toInt * (b.den.toInt / common))
  let n ← component (b.num.toInt * (a.den.toInt / common))
  let num ← component (m.toInt + n.toInt)
  let den ← component (a.den.toInt * (b.den.toInt / common))
  make num den

/-- The negative, which is in lowest terms already. -/
def neg (r : Ratio) : Calc Ratio :=
  match h : Bounded.neg? r.num with
  | some n => .ok
      { r with
        num := n
        reduced := by
          have hn : n.toInt = -r.num.toInt := Bounded.neg?_eq_some_iff.1 h
          rw [hn, Int.natAbs_neg]
          exact r.reduced }
  | none => .error .ratioOverflow

/-- The difference. -/
def sub (a b : Ratio) : Calc Ratio := do
  a.add (← b.neg)

/-! ## Powers -/

/-- The ratio `start`, multiplied `k` times by `factor`. -/
def mulTimes (start factor : Ratio) : Nat → Calc Ratio
  | 0 => .ok start
  | k + 1 => do (← mulTimes start factor k).mul factor

/-- The ratio `start`, divided `k` times by `divisor`. -/
def divTimes (start divisor : Ratio) : Nat → Calc Ratio
  | 0 => .ok start
  | k + 1 => do (← divTimes start divisor k).div divisor

/-- How many factors decide a power of `k` factors. After 64 factors only the powers of `0`, `1` and
`-1` are still in range, and those repeat with period two. -/
def factorCount (k : Nat) : Nat := if k ≤ 64 then k else 64 + k % 2

/-- The power to a whole exponent, one factor after another. -/
def pow (r : Ratio) (n : Int32) : Calc Ratio :=
  if 0 ≤ n then mulTimes one r (factorCount n.toInt.natAbs)
  else divTimes one r (factorCount n.toInt.natAbs)

/-! ## Text -/

/-- The numerator, and the denominator after a slash unless it is one. -/
def text (r : Ratio) : String :=
  if r.den = 1 then toString r.num.toInt else s!"{r.num.toInt}/{r.den.toInt}"

end Ratio

/-! ## Origins -/

/-- Where the zero of an absolute scale lies; a relative scale has none. -/
abbrev Origin := Option Ratio

namespace Origin

/-- Agreement of two origins, component by component. -/
def sameAs : Origin → Origin → Bool
  | none, none => true
  | some a, some b => a.sameAs b
  | _, _ => false

theorem sameAs_iff {a b : Origin} : sameAs a b = true ↔ a = b := by
  cases a <;> cases b <;> simp [sameAs, Ratio.sameAs_iff]

/-- The place of the zero, which is the zero of the base scale where nothing else is said. -/
def orZero (origin : Origin) : Ratio := origin.getD Ratio.zero

end Origin

end Metrology
