import Metrology.Json.Quote
import Metrology.Number.Layout

/-!
# JSON values

A `Value` is a JSON document as far as it can be read. Where reading stops, or a part cannot be
decoded, a `Defect` stands in the document and says what is wrong there; so a decoder that walks the
document from the front meets the first problem first. A document without a defect is what
`Value.text` writes.
-/

namespace Metrology.Json

open Number

/-! ## Defects -/

/-- What can be wrong with the text of a document. -/
inductive SyntaxError
  | endInList
  | endInObject
  | endInString
  | endInValue
  | expectedColon
  | expectedListEnd
  | expectedObjectEnd
  | expectedWord
  | expectedValue
  /-- An unknown letter after a backslash. -/
  | unknownEscape
  /-- An escape by number whose digits are none. -/
  | invalidHexEscape
  | invalidNumber
  | numberOutOfRange
  | controlCharacter
  | keyMustBeString
  | loneSurrogate
  | unfinishedSurrogate
  | trailingComma
  | trailingCharacters
deriving DecidableEq, Repr

/-- The wording of a syntax error. -/
def SyntaxError.message : SyntaxError → String
  | .endInList => "EOF while parsing a list"
  | .endInObject => "EOF while parsing an object"
  | .endInString => "EOF while parsing a string"
  | .endInValue => "EOF while parsing a value"
  | .expectedColon => "expected `:`"
  | .expectedListEnd => "expected `,` or `]`"
  | .expectedObjectEnd => "expected `,` or `\x7d`"
  | .expectedWord => "expected ident"
  | .expectedValue => "expected value"
  | .unknownEscape | .invalidHexEscape => "invalid escape"
  | .invalidNumber => "invalid number"
  | .numberOutOfRange => "number out of range"
  | .controlCharacter => "control character (\\u0000-\\u001F) found while parsing a string"
  | .keyMustBeString => "key must be a string"
  | .loneSurrogate => "lone leading surrogate in hex escape"
  | .unfinishedSurrogate => "unexpected end of hex escape"
  | .trailingComma => "trailing comma"
  | .trailingCharacters => "trailing characters"

/-- What is wrong with a part of a document. Passing over a part asks less of it than decoding it.
-/
structure Defect where
  /-- The error for who decodes the part. -/
  decoding : SyntaxError
  /-- The error for who passes over the part; if there is none, the text goes on behind it. -/
  passing : Option SyntaxError
deriving DecidableEq, Repr

/-- A defect at which reading stops with the same error for everyone. -/
def Defect.stop (error : SyntaxError) : Defect := ⟨error, some error⟩

/-! ## Documents -/

/-- A JSON document, as far as it can be read. -/
inductive Value
  | null
  | bool (b : Bool)
  | whole (n : Int)
  /-- A number with a fraction or an exponent, rounded to a format. -/
  | real (format : BinaryFormat) (x : Datum)
  | string (s : String)
  /-- The items in order, and the defect that stands in place of the closing bracket. -/
  | array (items : List Value) (ending : Option Defect)
  /-- The members in order, and the defect that stands in place of the closing brace. -/
  | object (members : List (String × Value)) (ending : Option Defect)
  | broken (defect : Defect)

namespace Value

/-- An array without a defect of its own. -/
def ofItems (items : List Value) : Value := .array items none

/-- An object without a defect of its own. -/
def ofMembers (members : List (String × Value)) : Value := .object members none

/-- A floating-point datum; what is no finite number becomes null. -/
def ofDatum (format : BinaryFormat) : Datum → Value
  | .finite negative significand exponent => .real format (.finite negative significand exponent)
  | _ => .null

/-! ## Passing over -/

mutual

/-- The first error for who passes over a part of a document. -/
def passing? : Value → Option SyntaxError
  | .array items ending => (passingItems? items).or (ending.bind Defect.passing)
  | .object members ending => (passingMembers? members).or (ending.bind Defect.passing)
  | .broken defect => defect.passing
  | _ => none

/-- The first error among the items of an array. -/
def passingItems? : List Value → Option SyntaxError
  | [] => none
  | item :: items => (passing? item).or (passingItems? items)

/-- The first error among the members of an object. -/
def passingMembers? : List (String × Value) → Option SyntaxError
  | [] => none
  | (_, value) :: members => (passing? value).or (passingMembers? members)

end

/-! ## Text -/

mutual

/-- A document as text, without blanks. A part that could not be read has no text. -/
def text : Value → String
  | .null => "null"
  | .bool b => if b then "true" else "false"
  | .whole n => toString n
  | .real format x => x.stored format
  | .string s => quote s
  | .array items _ => "[" ++ ",".intercalate (itemTexts items) ++ "]"
  | .object members _ => "\x7b" ++ ",".intercalate (memberTexts members) ++ "\x7d"
  | .broken _ => ""

/-- The texts of the items of an array. -/
def itemTexts : List Value → List String
  | [] => []
  | item :: items => text item :: itemTexts items

/-- The texts of the members of an object. -/
def memberTexts : List (String × Value) → List String
  | [] => []
  | (name, value) :: members => (quote name ++ ":" ++ text value) :: memberTexts members

end

end Value

end Metrology.Json
