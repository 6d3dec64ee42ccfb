import Metrology.Fault

/-!
# Why a declaration is refused

A declaration is read from the front, and the first problem is the one that is reported: mostly a
part that is wanted at some place and not there.
-/

namespace Metrology.Declaration

/-- A part of a declaration that is wanted at some place. -/
inductive Part
  | identifier
  | equals
  | comma
  | stringLiteral
  | integerLiteral
  | expression
  | member
  | squareBrackets
  | itemKind
deriving DecidableEq, Repr

/-- The name of a part. -/
def Part.text : Part → String
  | .identifier => "identifier"
  | .equals => "`=`"
  | .comma => "`,`"
  | .stringLiteral => "string literal"
  | .integerLiteral => "integer literal"
  | .expression => "an expression"
  | .member => "identifier or integer"
  | .squareBrackets => "square brackets"
  | .itemKind => "one of: `struct`, `enum`, `union`"

/-- Why a declaration is refused. -/
inductive DeclarationError
  /-- The text is no list of tokens. -/
  | notTokens
  | expected (part : Part)
  /-- The tokens end where a part is wanted. -/
  | ended (part : Part)
  | reservedWord (word : String)
  | tooLarge
  | tooSmall
  | zeroDenominator
  | zeroMagnitude
  | leftOver
  | unknownKey (key : String)
  | missingKey (key : String)
  | noAttribute
  | bareAttribute
  | assignedAttribute
  /-- The declaration is well formed, but a calculation with its numbers stops. -/
  | fault (cause : Fault)
deriving DecidableEq, Repr

/-- The wording of a declaration error. -/
def DeclarationError.message : DeclarationError → String
  | .notTokens => "cannot parse string into token stream"
  | .expected part => "expected " ++ part.text
  | .ended part => "unexpected end of input, expected " ++ part.text
  | .reservedWord word => s!"expected identifier, found keyword `{word}`"
  | .tooLarge => "number too large to fit in target type"
  | .tooSmall => "number too small to fit in target type"
  | .zeroDenominator => "denominator must be non-zero"
  | .zeroMagnitude => "magnitude must be non-zero"
  | .leftOver => "unexpected token"
  | .unknownKey key => s!"unknown attribute `{key}`"
  | .missingKey key => s!"missing required attribute `{key}`"
  | .noAttribute => "missing #[unit(...)] attribute"
  | .bareAttribute => "expected attribute arguments in parentheses: #[unit(...)]"
  | .assignedAttribute => "expected parentheses: #[unit(...)]"
  | .fault cause => cause.message

end Metrology.Declaration
