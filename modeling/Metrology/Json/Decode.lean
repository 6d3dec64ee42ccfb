import Metrology.Bounded
import Metrology.Json.Reader
import Metrology.Number.Floating
import Metrology.Text.Printable

/-!
# Decoding JSON

A decoder takes the value that it wants from a `Value`, or says why it cannot: the text is wrong at
that place, the value is of another kind, or it does not fit. `decode` runs a decoder on a whole
document.
-/

namespace Metrology.Json

open Number

/-! ## Errors -/

/-- Why a value cannot be decoded. -/
inductive DecodeError
  | malformed (error : SyntaxError)
  | mistyped (found expected : String)
  | outOfRange (n : Int) (expected : String)
  | wrongLength (length : Nat) (expected : String)
  | missingField (name : String)
  | duplicateField (name : String)
  | unknownField (name : String) (known : List String)
  /-- The name of the unit is another. -/
  | otherUnit (expected found : String)
  /-- The unit is absolute in place of relative, or relative in place of absolute. -/
  | otherScale (expectedAbsolute : Bool) (unit : String)
  | refused (error : UnitError)
  /-- The numbers are well formed, but a calculation with them stops. -/
  | fault (cause : Fault)
deriving DecidableEq, Repr

/-- The word for the scale of a unit. -/
def scaleWord (absolute : Bool) : String := if absolute then "absolute" else "relative"

/-- A field name as errors give it. -/
def fieldText (name : String) : String := s!"`{name}`"

/-- The wording of a decoding error. -/
def DecodeError.message : DecodeError → String
  | .malformed error => error.message
  | .mistyped found expected => s!"invalid type: {found}, expected {expected}"
  | .outOfRange n expected => s!"invalid value: integer `{n}`, expected {expected}"
  | .wrongLength length expected => s!"invalid length {length}, expected {expected}"
  | .missingField name => "missing field " ++ fieldText name
  | .duplicateField name => "duplicate field " ++ fieldText name
  | .unknownField name known =>
      s!"unknown field {fieldText name}, expected one of " ++ ", ".intercalate (known.map fieldText)
  | .otherUnit expected found => s!"unit mismatch: expected '{expected}', found '{found}'"
  | .otherScale expectedAbsolute unit =>
      s!"unit mismatch: expected {scaleWord expectedAbsolute} '{unit}', found " ++
        scaleWord !expectedAbsolute
  | .refused error => error.message
  | .fault cause => cause.message

/-- A decoder of values. -/
abbrev Decoder (α : Type) := Value → Except DecodeError α

/-! ## Values of a wanted kind -/

/-- What a value of an unwanted kind is called. -/
def Value.kindText : Value → String
  | .null => "null"
  | .bool true => "boolean `true`"
  | .bool false => "boolean `false`"
  | .whole n => s!"integer `{n}`"
  | .real format x => "floating point " ++ fieldText (x.stored format)
  | .string s => "string " ++ Text.debugQuote s
  | .array .. => "sequence"
  | .object .. => "map"
  | .broken _ => ""

/-- The error for a value that is not of the expected kind. -/
def Value.mistyped (expected : String) : Value → DecodeError
  | .broken defect => .malformed defect.decoding
  | v => .mistyped v.kindText expected

/-- A whole number of a bounded type. -/
def decodeBounded (α : Type) [Bounded α] (expected : String) : Decoder α
  | .whole n =>
      match Bounded.ofInt? n with
      | some a => .ok a
      | none => .error (.outOfRange n expected)
  | v => .error (v.mistyped expected)

/-- A 64-bit integer. -/
def decodeInt64 : Decoder Int64 := decodeBounded Int64 "i64"

/-- A 32-bit integer. -/
def decodeInt32 : Decoder Int32 := decodeBounded Int32 "i32"

/-- A floating-point number; a whole number is rounded to one. -/
def decodeFloat : Decoder Float
  | .whole n => .ok (Floating.ofWhole n)
  | .real _ x => .ok (Floating.ofDatum x)
  | v => .error (v.mistyped "f64")

/-- A text. -/
def decodeString : Decoder String
  | .string s => .ok s
  | v => .error (v.mistyped "a string")

/-- A truth value. -/
def decodeBool : Decoder Bool
  | .bool b => .ok b
  | v => .error (v.mistyped "a boolean")

/-! ## Collections and whole documents -/

/-- A collection of which every part was taken must be closed. -/
def closed (ending : Option Defect) : Except DecodeError PUnit :=
  match ending with
  | none => .ok ⟨⟩
  | some defect => .error (.malformed defect.decoding)

/-- An array of which every wanted item was taken must be closed, and hold no other items. -/
def closedBehind (others : List Value) (ending : Option Defect) : Except DecodeError PUnit :=
  match others, ending with
  | [], none => .ok ⟨⟩
  | [], some defect =>
      if defect.decoding = .trailingComma ∨ defect.decoding = .endInList then
        .error (.malformed defect.decoding)
      else .error (.malformed .trailingCharacters)
  | _, _ => .error (.malformed .trailingCharacters)

/-- The items of an array that must hold a given number of them. -/
def decodeItems {α : Type} (decoder : Decoder α) (count : Nat) (expected : String)
    (items : List Value) (ending : Option Defect) : Except DecodeError (List α) := do
  let found ← (items.take count).mapM decoder
  if found.length < count then
    closed ending
    throw (.wrongLength found.length expected)
  closedBehind (items.drop count) ending
  return found

/-- Decodes a text that holds one document and nothing else. -/
def decode {α : Type} (decoder : Decoder α) (text : String) : Except DecodeError α := do
  let reading := Value.read text
  let a ← decoder reading.value
  if (dropBlanks (reading.rest.getD [])).isEmpty then return a
  throw (.malformed .trailingCharacters)

end Metrology.Json
