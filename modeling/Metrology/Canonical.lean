import Metrology.Power

/-!
# Canonical products

The canonical product of a unit type is a row of sixteen slots of which the first `live` are in use;
`terms` is the view of those. A base occurs once: `multiplyWith` adds to the exponent of a base that
is there and takes a new slot for one that is not. Exponents are machine integers here, and an
operation whose exponent leaves the range is a fault of that operation.
-/

namespace Metrology

/-- Most distinct bases in one canonical product. -/
def slotCount : Nat := 16

/-- A product of powers in a row of slots, the first `live` of which are in use. -/
structure Canonical where
  slots : Vector Power slotCount
  live : Nat
  live_le : live ≤ slotCount

namespace Canonical

/-- What a slot holds that is not in use. -/
def filler : Power := ⟨.unitless, 0⟩

/-- The empty product: the unit of pure numbers. -/
def empty : Canonical := ⟨Vector.replicate slotCount filler, 0, Nat.zero_le _⟩

instance : Inhabited Canonical := ⟨empty⟩

/-- The slots in use, in order. -/
def terms (c : Canonical) : List Power := c.slots.toList.take c.live

/-- The product that holds the given terms in order, with filler behind them; there are no more
terms than slots. -/
def ofTerms (terms : List Power) : Canonical :=
  ⟨Vector.ofFn fun i => terms[i.val]?.getD filler, min terms.length slotCount, Nat.min_le_right ..⟩

@[simp] theorem length_terms (c : Canonical) : c.terms.length = c.live := by
  simp [terms, c.live_le]

/-- No term is lost when the terms fit the slots. -/
theorem terms_ofTerms {terms : List Power} (h : terms.length ≤ slotCount) :
    (ofTerms terms).terms = terms := by
  apply List.ext_getElem
  · simp [ofTerms, h]
  · intro i _ hi
    simp [Canonical.terms, ofTerms, List.getElem_take, hi]

/-- Whether no slot is in use. -/
def isEmpty (c : Canonical) : Bool := c.live == 0

/-! ## Merging -/

/-- The slot of a base, with the exponent it holds there. -/
def find? (c : Canonical) (base : NamedUnit) : Option (Nat × Int32) :=
  (c.terms.zipIdx.find? fun (term, _) => term.base.sameAs base).map
    fun (term, i) => (i, term.exponent)

/-- Writes a power into a slot. -/
def put (c : Canonical) (i : Nat) (p : Power) : Vector Power slotCount :=
  c.slots.setIfInBounds i p

/-- Merges a power into the product. The unit of pure numbers is ignored; a zero exponent is kept
until `simplify`. -/
def multiplyWith (c : Canonical) (base : NamedUnit) (exponent : Int32) : Calc Canonical :=
  if base.isUnitless then .ok c
  else match c.find? base with
    | some (i, present) => do
        let sum ← orFault (Bounded.add? present exponent) (.overflow .addition)
        return { c with slots := c.put i ⟨base, sum⟩ }
    | none =>
        if h : c.live = slotCount then .error .tooManyBases
        else .ok ⟨c.put c.live ⟨base, exponent⟩, c.live + 1, Nat.lt_of_le_of_ne c.live_le h⟩

/-- Merges the inverse of a power into the product. -/
def divideBy (c : Canonical) (base : NamedUnit) (exponent : Int32) : Calc Canonical := do
  let negative ← orFault (Bounded.neg? exponent) (.overflow .negation)
  c.multiplyWith base negative

/-- The product of one named unit. -/
def ofNamed (u : NamedUnit) : Calc Canonical := empty.multiplyWith u 1

/-! ## Algebra -/

/-- Keeps the terms that are factors. -/
def simplify (c : Canonical) : Canonical := ofTerms (c.terms.filter Power.isLive)

/-- The product of two products, simplified. -/
def multiply (a b : Canonical) : Calc Canonical := do
  let merged ← b.terms.foldlM (fun c term => c.multiplyWith term.base term.exponent) a
  return merged.simplify

/-- The quotient of two products, simplified. -/
def divide (a b : Canonical) : Calc Canonical := do
  let merged ← b.terms.foldlM (fun c term => c.divideBy term.base term.exponent) a
  return merged.simplify

/-- A power with its exponent multiplied. -/
def raise (n : Int32) (p : Power) : Calc Power := do
  let exponent ← orFault (Bounded.mul? p.exponent n) (.overflow .multiplication)
  return { p with exponent }

/-- Every exponent multiplied, simplified. -/
def pow (c : Canonical) (n : Int32) : Calc Canonical := do
  return (ofTerms (← c.terms.mapM (raise n))).simplify

/-- A power with its exponent divided by a degree that divides it. -/
def extract (degree : Int32) (p : Power) : Calc Power := do
  let rest ← orFault (Bounded.remainder? p.exponent degree) (.overflow .remainder)
  if rest != 0 then .error .indivisibleRoot
  let exponent ← orFault (Bounded.quotient? p.exponent degree) (.overflow .remainder)
  return { p with exponent }

/-- Every exponent divided by a degree that divides them all, simplified. -/
def root (c : Canonical) (degree : Int32) : Calc Canonical :=
  if degree = 0 then .error (.refused .zeroRootDegree)
  else do return (ofTerms (← c.terms.mapM (extract degree))).simplify

/-! ## What a product measures -/

/-- The product of the dimensions of the terms. -/
def dimension (c : Canonical) : Calc Dimension := Power.totalDimension c.terms

/-- The product of the magnitudes of the terms. -/
def magnitude (c : Canonical) : Calc Ratio := Power.totalMagnitude c.terms

/-- The named unit that the product is, when it is a single term of exponent one. -/
def asNamed (c : Canonical) : Option NamedUnit :=
  match c.terms with
  | [term] => if term.exponent = 1 then some term.base else none
  | _ => none

/-- The origin of a product that is a bare named unit. -/
def origin (c : Canonical) : Origin := c.asNamed.bind NamedUnit.origin

/-- Agreement of the slots in use, one after another. -/
def sameAs (a b : Canonical) : Bool :=
  a.live == b.live &&
    (a.terms.zip b.terms).all fun (s, t) => s.exponent == t.exponent && s.base.sameAs t.base

/-- Products are equal when their slots in use are; the filler does not count. -/
instance : BEq Canonical := ⟨fun a b => a.terms == b.terms⟩

/-- The terms joined by stars. -/
def text (c : Canonical) : String := Power.listText c.terms

end Canonical

end Metrology
