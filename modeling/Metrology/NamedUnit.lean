import Metrology.Dimension
import Metrology.Ratio

/-!
# Named units

A `NamedUnit` has a symbol, a dimension, a magnitude in base units and, on an absolute scale, an
origin. A multiple such as the kilometre carries the symbol of its prefix. Two named units are the
same base when all five agree: `sameAs` compares them piece by piece, and `sameAs_iff` says that
this is equality.
-/

namespace Metrology

/-- Agreement of two texts, byte by byte. -/
def sameBytes (a b : String) : Bool :=
  let x := a.toUTF8.data
  let y := b.toUTF8.data
  x.size == y.size && (x.toList.zip y.toList).all fun (p, q) => p == q

/-- A comparison of places, one after another, is equality of lists of one length when it is equality
at each place. -/
theorem all_zip_iff {α : Type} {same : α → α → Bool}
    (hsame : ∀ x y, same x y = true ↔ x = y) :
    ∀ {xs ys : List α}, xs.length = ys.length →
      ((xs.zip ys).all (fun (x, y) => same x y) = true ↔ xs = ys)
  | [], [], _ => by simp
  | x :: xs, y :: ys, h => by
      have hlength : xs.length = ys.length := by simpa using h
      have ih := all_zip_iff hsame hlength
      simp only [List.zip_cons_cons, List.all_cons, Bool.and_eq_true, ih, hsame, List.cons.injEq]

theorem sameBytes_iff {a b : String} : sameBytes a b = true ↔ a = b := by
  have hbytes : ∀ p q : UInt8, (p == q) = true ↔ p = q := fun _ _ => beq_iff_eq
  constructor
  · intro h
    simp only [sameBytes, Bool.and_eq_true, beq_iff_eq] at h
    have hl := (all_zip_iff hbytes (by simpa using h.1)).1 h.2
    have hb : a.toUTF8 = b.toUTF8 := by
      apply ByteArray.ext
      exact Array.toList_inj.1 hl
    exact String.toByteArray_inj.1 hb
  · rintro rfl
    simp only [sameBytes, beq_self_eq_true, Bool.true_and]
    exact (all_zip_iff hbytes rfl).2 rfl

/-- A unit with a symbol of its own. -/
structure NamedUnit where
  /-- Symbol of the prefix, empty where there is none. -/
  prefixSymbol : String
  symbol : String
  dimension : Dimension
  /-- Size in base units. -/
  magnitude : Ratio
  /-- Place of the zero in base units, on an absolute scale. -/
  origin : Origin
deriving DecidableEq, Repr

namespace NamedUnit

/-- A unit without a prefix. -/
def plain (symbol : String) (dimension : Dimension) (magnitude : Ratio) (origin : Origin) :
    NamedUnit :=
  ⟨"", symbol, dimension, magnitude, origin⟩

/-- The unit of pure numbers. -/
def unitless : NamedUnit := plain "1" .dimensionless .one none

instance : Inhabited NamedUnit := ⟨unitless⟩

/-- The multiple of a unit by `factor`, on a relative scale; a unit takes one prefix only. -/
def withPrefix (u : NamedUnit) (symbol : String) (factor : Ratio) : Calc NamedUnit :=
  if u.prefixSymbol != "" then .error .stackedPrefix
  else do
    let magnitude ← factor.mul u.magnitude
    return { u with prefixSymbol := symbol, magnitude, origin := none }

/-- The unit of differences on the scale of `u`. -/
def relative (u : NamedUnit) : NamedUnit := { u with origin := none }

/-- Whether the scale has an origin. -/
def isAbsolute (u : NamedUnit) : Bool := u.origin.isSome

/-- Agreement of two units, piece by piece. -/
def sameAs (u v : NamedUnit) : Bool :=
  sameBytes u.prefixSymbol v.prefixSymbol && sameBytes u.symbol v.symbol &&
    u.dimension.sameAs v.dimension && u.magnitude.sameAs v.magnitude &&
    Origin.sameAs u.origin v.origin

/-- Whether a unit is the unit of pure numbers. -/
def isUnitless (u : NamedUnit) : Bool := u.sameAs unitless

/-- The prefix and the symbol. -/
def text (u : NamedUnit) : String := u.prefixSymbol ++ u.symbol

@[simp] theorem relative_origin (u : NamedUnit) : u.relative.origin = none := rfl

@[simp] theorem relative_relative (u : NamedUnit) : u.relative.relative = u.relative := rfl

theorem relative_eq_self {u : NamedUnit} (h : u.origin = none) : u.relative = u := by
  cases u
  obtain rfl := h
  rfl

theorem sameAs_iff {u v : NamedUnit} : u.sameAs v = true ↔ u = v := by
  cases u
  cases v
  simp [sameAs, sameBytes_iff, Dimension.sameAs_iff, Ratio.sameAs_iff, Origin.sameAs_iff, and_assoc]

theorem isUnitless_iff {u : NamedUnit} : u.isUnitless = true ↔ u = unitless := sameAs_iff

end NamedUnit

end Metrology
