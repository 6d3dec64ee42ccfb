import Metrology.Declaration.Parser
import Metrology.Declaration.Token.Lexer
import Metrology.Ratio

/-!
# Fractions in declarations

A fraction is written as an integer, and an integer behind a slash where the denominator is not one.
It is kept as it is written: neither reduced nor brought to a positive denominator.
`Fraction.tokens` is the code of the ratio that it stands for.
-/

namespace Metrology.Declaration

/-- A fraction as it is written. -/
structure Fraction where
  numerator : Int64
  denominator : Int64
deriving DecidableEq, Repr

/-- An integer literal, which may carry a sign of its own. -/
def takeInteger : Parser Int
  | .literal ⟨_, .whole n⟩ :: tokens => .ok (n, tokens)
  | .mark '-' :: .literal ⟨_, .whole n⟩ :: tokens => .ok (-n, tokens)
  | tokens => .error (Part.integerLiteral.missing tokens)

/-- A 64-bit integer of a given value. -/
def component (n : Int) : Except DeclarationError Int64 :=
  match Bounded.ofInt? n with
  | some a => .ok a
  | none => .error (if n < 0 then .tooSmall else .tooLarge)

/-- A 64-bit integer literal. -/
def takeComponent : Parser Int64 := fun tokens => do
  let (n, tokens) ← takeInteger tokens
  return (← component n, tokens)

namespace Fraction

/-- One, the size of a unit that states none. -/
def one : Fraction := ⟨1, 1⟩

/-- The numerator. A minus sign in front of it negates the integer behind it. -/
def takeNumerator : Parser Int64
  | .mark '-' :: tokens => do
      let (n, tokens) ← takeComponent tokens
      let n ← (orFault (Bounded.neg? n) (.overflow .negation)).mapError .fault
      return (n, tokens)
  | tokens => takeComponent tokens

/-- The denominator behind its slash. -/
def takeDenominator : Parser Int64
  | .mark '/' :: tokens => do
      let (n, tokens) ← takeComponent tokens
      if n = 0 then throw .zeroDenominator
      return (n, tokens)
  | tokens => .ok (1, tokens)

/-- A fraction. -/
def take : Parser Fraction := fun tokens => do
  let (numerator, tokens) ← takeNumerator tokens
  let (denominator, tokens) ← takeDenominator tokens
  return (⟨numerator, denominator⟩, tokens)

/-- The fraction that a text holds. -/
def ofText (text : String) : Except DeclarationError Fraction := do
  Parser.complete take (← Token.scan text)

/-- The ratio that a fraction stands for. -/
def toRatio (f : Fraction) : Calc Ratio := Ratio.make f.numerator f.denominator

/-- The code of an integer; a minus sign is a token of its own. -/
def integerTokens (n : Int64) : List Token :=
  let digits : Token :=
    .literal ⟨toString n.toInt.natAbs ++ "i64", .whole n.toInt.natAbs⟩
  if n < 0 then [.mark '-', digits] else [digits]

/-- The code of the ratio that a fraction stands for. -/
def tokens (f : Fraction) : List Token :=
  [.word "crate", .path, .word "Rational", .path, .word "new",
    .group .parenthesis (integerTokens f.numerator ++ .mark ',' :: integerTokens f.denominator)]

end Fraction

end Metrology.Declaration
