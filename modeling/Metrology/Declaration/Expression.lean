import Metrology.Declaration.Parser

/-!
# Expressions in declarations

The dimension of a unit is declared by an expression: a literal, a path or an expression in
parentheses, with signs before it, and calls, members and indices behind it. An expression is kept
as the tokens that it consists of, since it is only written again.
-/

namespace Metrology.Declaration

/-- Whether a word can begin an expression. -/
def beginsExpression (word : String) : Bool :=
  !reservedWords.contains word || pathWords.contains word || ["true", "false", "_"].contains word

/-- The segments of a path behind its first one. -/
def takeSegments : Parser (List Token)
  | .path :: .word name :: tokens =>
      if reservedWords.contains name ∧ !pathWords.contains name then .error (.reservedWord name)
      else do
        let (segments, rest) ← takeSegments tokens
        return (.path :: .word name :: segments, rest)
  | .path :: tokens => .error (Part.identifier.missing tokens)
  | tokens => .ok ([], tokens)

mutual

/-- An expression and the tokens behind it. -/
def takeExpression (fuel : Nat) (tokens : List Token) :
    Except DeclarationError (List Token × List Token) :=
  match fuel, tokens with
  | 0, _ => .error .leftOver
  | fuel + 1, .mark c :: rest =>
      if ['-', '!', '*'].contains c then do
        let (operand, rest) ← takeExpression fuel rest
        return (.mark c :: operand, rest)
      else .error (.expected .expression)
  | fuel + 1, .literal l :: rest => takeSuffixes fuel [.literal l] rest
  | fuel + 1, .word name :: rest =>
      if beginsExpression name then do
        let (segments, rest) ← takeSegments rest
        takeSuffixes fuel (.word name :: segments) rest
      else .error (.expected .expression)
  | fuel + 1, .path :: rest => do
      let (segments, rest) ← takeSegments (.path :: rest)
      takeSuffixes fuel segments rest
  | fuel + 1, .group .parenthesis content :: rest => do
      checkExpressions fuel content
      takeSuffixes fuel [.group .parenthesis content] rest
  | _, tokens => .error (Part.expression.missing tokens)

/-- What follows an operand: the arguments of a call, an index, a member or a question mark, again
and again. -/
def takeSuffixes (fuel : Nat) (operand tokens : List Token) :
    Except DeclarationError (List Token × List Token) :=
  match fuel, tokens with
  | 0, _ => .ok (operand, tokens)
  | fuel + 1, .group .parenthesis content :: rest => do
      checkExpressions fuel content
      takeSuffixes fuel (operand ++ [.group .parenthesis content]) rest
  | fuel + 1, .group .bracket content :: rest => do
      checkExpressions fuel content
      takeSuffixes fuel (operand ++ [.group .bracket content]) rest
  | fuel + 1, .mark '?' :: rest => takeSuffixes fuel (operand ++ [.mark '?']) rest
  | _, .mark '.' :: .mark '.' :: _ => .ok (operand, tokens)
  | fuel + 1, .mark '.' :: .word name :: rest =>
      if reservedWords.contains name ∧ name ≠ "await" then .error (.expected .member)
      else takeSuffixes fuel (operand ++ [.mark '.', .word name]) rest
  | fuel + 1, .mark '.' :: .literal ⟨spelling, .whole n⟩ :: rest =>
      takeSuffixes fuel (operand ++ [.mark '.', .literal ⟨spelling, .whole n⟩]) rest
  | _, .mark '.' :: rest => .error (Part.member.missing rest)
  | _, tokens => .ok (operand, tokens)

/-- Checks that tokens are expressions with commas between them. -/
def checkExpressions (fuel : Nat) (tokens : List Token) : Except DeclarationError PUnit :=
  match fuel, tokens with
  | _, [] => .ok ⟨⟩
  | 0, _ => .error .leftOver
  | fuel + 1, tokens => do
      let (_, rest) ← takeExpression fuel tokens
      match rest with
      | [] => return ⟨⟩
      | rest =>
          let (_, rest) ← takeMark ',' .comma rest
          checkExpressions fuel rest

end

/-- An expression, as the tokens that it consists of. -/
def takeDimension : Parser (List Token) := fun tokens =>
  takeExpression (2 * Token.weightOf tokens + 2) tokens

end Metrology.Declaration
