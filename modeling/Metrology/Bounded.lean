import Metrology.Fault

/-!
# Bounded integers

Exponents are 32-bit and the components of a ratio 64-bit signed integers. `Bounded` reads such a
number as an exact integer and writes an exact integer back when it is in range; every operation
here is the exact one followed by that check, so its value, when it has one, is the exact value
(`add?_eq_some_iff` and its companions).
-/

namespace Metrology

/-- Integers of a bounded range, each determined by its exact value. -/
class Bounded (α : Type) where
  /-- The exact value. -/
  toInt : α → Int
  /-- The number of a given exact value, if it is in range. -/
  ofInt? : Int → Option α
  ofInt?_eq_some_iff : ∀ {x : Int} {a : α}, ofInt? x = some a ↔ toInt a = x

namespace Bounded

instance : Bounded Int32 where
  toInt := Int32.toInt
  ofInt? x :=
    if h : Int32.minValue.toInt ≤ x ∧ x ≤ Int32.maxValue.toInt
    then some (Int32.ofIntLE x h.1 h.2) else none
  ofInt?_eq_some_iff {x a} := by
    split
    · rename_i h
      rw [Option.some.injEq]
      constructor
      · rintro rfl
        exact Int32.toInt_ofIntLE
      · rintro rfl
        exact Int32.ofIntLE_toInt a
    · rename_i h
      simp only [reduceCtorEq, false_iff]
      rintro rfl
      exact h ⟨Int32.minValue_le_toInt a, Int32.toInt_le a⟩

instance : Bounded Int64 where
  toInt := Int64.toInt
  ofInt? x :=
    if h : Int64.minValue.toInt ≤ x ∧ x ≤ Int64.maxValue.toInt
    then some (Int64.ofIntLE x h.1 h.2) else none
  ofInt?_eq_some_iff {x a} := by
    split
    · rename_i h
      rw [Option.some.injEq]
      constructor
      · rintro rfl
        exact Int64.toInt_ofIntLE
      · rintro rfl
        exact Int64.ofIntLE_toInt a
    · rename_i h
      simp only [reduceCtorEq, false_iff]
      rintro rfl
      exact h ⟨Int64.minValue_le_toInt a, Int64.toInt_le a⟩

variable {α : Type} [Bounded α]

theorem toInt_inj {a b : α} : toInt a = toInt b ↔ a = b := by
  constructor
  · intro h
    have ha : ofInt? (toInt b) = some a := ofInt?_eq_some_iff.2 h
    have hb : ofInt? (toInt b) = some b := ofInt?_eq_some_iff.2 rfl
    exact Option.some.inj (ha.symm.trans hb)
  · rintro rfl
    rfl

@[simp] theorem ofInt?_toInt (a : α) : ofInt? (toInt a) = some a :=
  ofInt?_eq_some_iff.2 rfl

/-! ## Operations -/

/-- The sum, if it is in range. -/
def add? (a b : α) : Option α := ofInt? (toInt a + toInt b)

/-- The difference, if it is in range. -/
def sub? (a b : α) : Option α := ofInt? (toInt a - toInt b)

/-- The product, if it is in range. -/
def mul? (a b : α) : Option α := ofInt? (toInt a * toInt b)

/-- The negative, if it is in range. -/
def neg? (a : α) : Option α := ofInt? (-toInt a)

/-- The quotient rounded toward zero, for a divisor other than zero and if it is in range. -/
def quotient? (a b : α) : Option α :=
  if toInt b = 0 then none else ofInt? (Int.tdiv (toInt a) (toInt b))

/-- The remainder that goes with `quotient?`; there is none where there is no quotient. -/
def remainder? (a b : α) : Option α :=
  (quotient? a b).bind fun _ => ofInt? (Int.tmod (toInt a) (toInt b))

/-- The absolute value, if it is in range. -/
def abs? (a : α) : Option Nat :=
  if 0 ≤ toInt a then some (toInt a).natAbs else (neg? a).map fun b => (toInt b).natAbs

theorem add?_eq_some_iff {a b c : α} : add? a b = some c ↔ toInt c = toInt a + toInt b :=
  ofInt?_eq_some_iff

theorem sub?_eq_some_iff {a b c : α} : sub? a b = some c ↔ toInt c = toInt a - toInt b :=
  ofInt?_eq_some_iff

theorem mul?_eq_some_iff {a b c : α} : mul? a b = some c ↔ toInt c = toInt a * toInt b :=
  ofInt?_eq_some_iff

theorem neg?_eq_some_iff {a c : α} : neg? a = some c ↔ toInt c = -toInt a :=
  ofInt?_eq_some_iff

/-- A quotient without remainder is the number that the divisor has to be multiplied by. -/
theorem exactQuotient_iff {a b c z : α} (hz : toInt z = 0) (hb : toInt b ≠ 0) :
    remainder? a b = some z ∧ quotient? a b = some c ↔ toInt a = toInt c * toInt b := by
  unfold remainder? quotient?
  rw [if_neg hb]
  simp only [Option.bind_eq_some_iff, ofInt?_eq_some_iff, hz]
  constructor
  · rintro ⟨⟨-, -, hr⟩, hc⟩
    rw [hc, Int.tdiv_mul_cancel (Int.dvd_of_tmod_eq_zero hr.symm)]
  · intro h
    have hquotient : (toInt a).tdiv (toInt b) = toInt c := by rw [h, Int.mul_tdiv_cancel _ hb]
    have hremainder : (toInt a).tmod (toInt b) = 0 := by rw [h, Int.mul_tmod_left]
    exact ⟨⟨c, hquotient.symm, hremainder.symm⟩, hquotient.symm⟩

theorem abs?_eq_some {a : α} {n : Nat} (h : abs? a = some n) : n = (toInt a).natAbs := by
  unfold abs? at h
  split at h
  · exact (Option.some.inj h).symm
  · obtain ⟨b, hb, rfl⟩ := Option.map_eq_some_iff.1 h
    rw [neg?_eq_some_iff.1 hb, Int.natAbs_neg]

end Bounded

end Metrology
