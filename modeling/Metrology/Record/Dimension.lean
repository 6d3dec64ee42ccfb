import Metrology.Dimension
import Metrology.Json.Decode

/-!
# Stored dimensions

A dimension is stored as an object of its seven exponents. Reading takes the members in any order
and passes over members of other names; an array of seven exponents in the order of the fields is
read as well.
-/

namespace Metrology.Dimension

open Json

/-- A dimension as an object of named exponents. -/
def toValue (d : Dimension) : Value :=
  .ofMembers ((fieldNames.zip d.exponents).map fun (name, n) => (name, .whole n.toInt))

/-- Exponents found so far, by name. -/
abbrev Found := List (String × Int32)

/-- Takes one member of an object: an exponent under a name that is new, or something to pass over.
-/
def takeMember (found : Found) (member : String × Value) : Except DecodeError Found := do
  let (name, value) := member
  if fieldNames.contains name then
    if (found.lookup name).isSome then throw (.duplicateField name)
    return (name, ← decodeInt32 value) :: found
  match value.passing? with
  | some error => throw (.malformed error)
  | none => return found

/-- The exponent found under a name. -/
def fieldOf (found : Found) (name : String) : Except DecodeError Int32 :=
  match found.lookup name with
  | some n => .ok n
  | none => .error (.missingField name)

/-- What an array of the seven exponents is called. -/
def exponentsText : String := "struct Dimension with 7 elements"

/-- The dimension of exponents in the order of the fields. -/
def ofExponents (exponents : List Int32) : Except DecodeError Dimension :=
  match ofExponents? exponents with
  | some d => .ok d
  | none => .error (.wrongLength exponents.length exponentsText)

/-- The dimension that an object or an array holds. -/
def ofValue : Decoder Dimension
  | .object members ending => do
      let found ← members.foldlM takeMember []
      closed ending
      ofExponents (← fieldNames.mapM (fieldOf found))
  | .array items ending => do
      ofExponents (← decodeItems decodeInt32 fieldNames.length exponentsText items ending)
  | v => .error (v.mistyped "struct Dimension")

end Metrology.Dimension
