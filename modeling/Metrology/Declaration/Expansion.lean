import Metrology.Declaration.Item

/-!
# Expansions of unit declarations

A declaration expands to the descriptor of the unit and to the constants that are read from it. The
magnitude is one unless it is declared. A unit with an origin is absolute, and its differences are
measured in its relative counterpart; a unit without an origin measures its own differences.
-/

namespace Metrology.Declaration

/-- In which unit the differences of a unit are measured. -/
inductive Difference
  | same
  | relative
deriving DecidableEq, Repr

/-- What a unit declaration defines. -/
structure Expansion where
  name : String
  symbol : Literal
  dimension : List Token
  magnitude : Fraction
  origin : Option Fraction
  difference : Difference

namespace Expansion

/-- The expansion of an attribute on an item of a given name. -/
def ofAttribute (name : String) (a : Attribute) : Expansion where
  name := name
  symbol := a.symbol
  dimension := a.dimension
  magnitude := a.magnitude.getD .one
  origin := a.origin
  difference := if a.origin.isSome then .relative else .same

/-- The expansion of an item. -/
def ofItem (item : Item) (expressions : Parser (List Token) := takeDimension) :
    Except DeclarationError Expansion := do
  return ofAttribute item.name (← item.unitAttribute expressions)

/-! ## Code -/

/-- The token of a word, a mark or a double colon between blanks. -/
def tokenOf (text : String) : Token :=
  if text = "::" then .path
  else match text.toList with
    | [c] => if c.isAlpha then .word text else .mark c
    | _ => .word text

/-- The tokens of a text without groups and literals. -/
def code (text : String) : List Token := (text.splitOn " ").map tokenOf

/-- The tokens of a list in parentheses. -/
def arguments (items : List (List Token)) : Token :=
  .group .parenthesis ([Token.mark ','].intercalate items)

/-- The descriptor under which a unit is known. -/
def descriptor : List Token := code "< Self as crate :: Named > :: NAMED"

/-- The definition of a constant by what the descriptor answers to a question. -/
def constant (name type question : String) : List Token :=
  code ("const " ++ name ++ " : crate :: " ++ type ++ " =") ++ descriptor ++
    code (". " ++ question) ++ [arguments [], .mark ';']

/-- The origin as code. -/
def originTokens (e : Expansion) : List Token :=
  match e.origin with
  | some f => code ":: core :: option :: Option :: Some" ++ [arguments [f.tokens]]
  | none => code ":: core :: option :: Option :: None"

/-- The unit of differences as code. -/
def differenceTokens (e : Expansion) : List Token :=
  match e.difference with
  | .same => [.word e.name]
  | .relative => code "crate :: Relative <" ++ [.word e.name, .mark '>']

/-- The definition of the descriptor. -/
def namedTokens (e : Expansion) : List Token :=
  code "const NAMED : crate :: NamedUnit = crate :: NamedUnit :: new" ++
    [arguments [[.literal e.symbol], e.dimension, e.magnitude.tokens, e.originTokens], .mark ';']

/-- The definitions of the constants of a unit. -/
def unitTokens (e : Expansion) : List Token :=
  constant "DIMENSION" "Dimension" "dimension" ++ constant "MAGNITUDE" "Rational" "magnitude" ++
    constant "ORIGIN" "Origin" "origin" ++
    code "const TERMS : crate :: CanonicalProduct = crate :: CanonicalProduct :: of" ++
    [arguments [descriptor], .mark ';'] ++
    code "type Difference =" ++ e.differenceTokens ++ [.mark ';']

/-- The code of an expansion. -/
def tokens (e : Expansion) : List Token :=
  code "impl crate :: Named for" ++ [.word e.name, .group .brace e.namedTokens] ++
    code "impl crate :: Unit for" ++ [.word e.name, .group .brace e.unitTokens]

end Expansion

end Metrology.Declaration
