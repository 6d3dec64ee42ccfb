import Metrology.Number.Decimal

/-!
# Number layout

A `Layout` says how a number is set in a field: whether a plus sign is written, how many places
follow the point, how wide the field is and how it is filled. `Layout.render` sets a datum in a
field; `Datum.stored` writes one for storage, where every finite number has a point or an exponent.
-/

namespace Metrology.Number

/-- Where a text stands in a wider field. -/
inductive Alignment
  | left
  | center
  | right
deriving DecidableEq, Repr

/-- How a number is set in a field. -/
structure Layout where
  plus : Bool
  fill : Char
  alignment : Alignment
  /-- Fill with zeros between the sign and the digits, whatever the fill and the alignment are. -/
  zeroFill : Bool
  width : Option Nat
  places : Option Nat
deriving DecidableEq, Repr

namespace Layout

/-- A number as it is, without a field. -/
def plain : Layout := ⟨false, ' ', .right, false, none, none⟩

instance : Inhabited Layout := ⟨plain⟩

/-- Sets a text in a field of a given width; the smaller half of the filling goes to the left of a
centred text. -/
def pad (fill : Char) (alignment : Alignment) (width : Nat) (text : String) : String :=
  let room := width - text.length
  let filling (n : Nat) : String := String.ofList (List.replicate n fill)
  match alignment with
  | .left => text ++ filling room
  | .center => filling (room / 2) ++ text ++ filling (room - room / 2)
  | .right => filling room ++ text

/-- The sign that is written before a datum. -/
def signText (layout : Layout) : Datum → String
  | .nan => ""
  | d => if d.isNegative then "-" else if layout.plus then "+" else ""

/-- A datum without its sign. -/
def bodyText (layout : Layout) (f : BinaryFormat) : Datum → String
  | .nan => "NaN"
  | .infinite _ => "inf"
  | .finite _ significand exponent =>
      match layout.places with
      | some places =>
          let (n, d) := scaleFraction significand 1 exponent
          fixed n d places
      | none => (Decimal.shortest f significand exponent).positional

/-- Sets a datum in its field. -/
def render (layout : Layout) (f : BinaryFormat) (d : Datum) : String :=
  let sign := layout.signText d
  let body := layout.bodyText f d
  match layout.width with
  | none => sign ++ body
  | some width =>
      if layout.zeroFill then sign ++ pad '0' .right (width - sign.length) body
      else pad layout.fill layout.alignment width (sign ++ body)

end Layout

/-! ## Storage -/

/-- Where positional digits end in stored numbers of a format: the most digits before the point, and
the most zeros after it. -/
def BinaryFormat.storedRange (f : BinaryFormat) : Int × Int :=
  if f = binary32 then (13, 5) else (16, 4)

/-- A finite number for storage: positional near one, with an exponent elsewhere, and always told
apart from a whole number. -/
def Decimal.stored (f : BinaryFormat) (x : Decimal) : String :=
  let (mostDigits, mostZeros) := f.storedRange
  let point := x.exponent + digitCount x.digits
  if x.digits = 0 then "0.0"
  else if point ≤ mostDigits ∧ -mostZeros ≤ point then
    if 0 ≤ x.exponent then x.positional ++ ".0" else x.positional
  else x.exponential

/-- A datum for storage; what is no finite number is stored as `null`. -/
def Datum.stored (f : BinaryFormat) : Datum → String
  | .finite negative significand exponent =>
      (if negative then "-" else "") ++ (Decimal.shortest f significand exponent).stored f
  | _ => "null"

/-! ## Rough values -/

/-- A datum with `places` digits after the point in scientific notation. -/
def Datum.rough (places : Nat) : Datum → String
  | .nan => "NaN"
  | .infinite negative => if negative then "-inf" else "inf"
  | .finite negative significand exponent =>
      let (n, d) := scaleFraction significand 1 exponent
      (if negative then "-" else "") ++ scientific n d places

end Metrology.Number
