import Metrology.Json.Decode
import Metrology.Ratio

/-!
# Stored ratios

A ratio is stored as an array of its numerator and its denominator. Reading brings it to lowest
terms again, so that only a ratio comes out whatever pair is stored.
-/

namespace Metrology.Ratio

open Json

/-- A ratio as an array of numerator and denominator. -/
def toValue (r : Ratio) : Value := .ofItems [.whole r.num.toInt, .whole r.den.toInt]

/-- What an array of two integers is called. -/
def pairText : String := "a tuple of size 2"

/-- The ratio that an array of two integers holds. -/
def ofValue : Decoder Ratio
  | .array items ending => do
      let [n, d] ← decodeItems decodeInt64 2 pairText items ending
        | throw (.wrongLength items.length pairText)
      (ofPair n d).mapError fun
        | .unit error => .refused error
        | .fault cause => .fault cause
  | v => .error (v.mistyped pairText)

end Metrology.Ratio
