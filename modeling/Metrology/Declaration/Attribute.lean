import Metrology.Declaration.Expression
import Metrology.Declaration.Fraction

/-!
# Unit attributes

The attribute of a unit is a sequence of entries `key = value`, each of them followed by a comma or
not. Of several entries with one key the last one counts. The symbol and the dimension are required.

Entries are read with any parser of expressions. The attributes of declarations are read with
`takeDimension`.
-/

namespace Metrology.Declaration

/-- A string literal. -/
def takeText : Parser Literal
  | .literal ⟨spelling, .text s⟩ :: tokens => .ok (⟨spelling, .text s⟩, tokens)
  | tokens => .error (Part.stringLiteral.missing tokens)

/-! ## Entries -/

/-- An entry of a unit attribute. -/
inductive Entry
  | symbol (l : Literal)
  | dimension (expression : List Token)
  | magnitude (f : Fraction)
  | origin (f : Fraction)

namespace Entry

/-- The value of a magnitude entry, which must not be zero. -/
def takeMagnitude : Parser Entry := fun tokens => do
  let (f, rest) ← Fraction.take tokens
  if f.numerator = 0 then throw .zeroMagnitude
  return (.magnitude f, rest)

/-- One comma is dropped where there is one. -/
def dropComma : List Token → List Token
  | .mark ',' :: tokens => tokens
  | tokens => tokens

section Expressions

variable (expressions : Parser (List Token))

/-- The value of an entry under a key. -/
def takeValue (key : String) : Parser Entry := fun tokens =>
  match key with
  | "symbol" => (takeText tokens).map fun (l, rest) => (.symbol l, rest)
  | "dimension" => (expressions tokens).map fun (e, rest) => (.dimension e, rest)
  | "magnitude" => takeMagnitude tokens
  | "origin" => (Fraction.take tokens).map fun (f, rest) => (.origin f, rest)
  | key => .error (.unknownKey key)

/-- An entry and the comma behind it. -/
def take : Parser Entry := fun tokens => do
  let (key, tokens) ← takeName tokens
  let (_, tokens) ← takeMark '=' .equals tokens
  let (entry, tokens) ← takeValue expressions key tokens
  return (entry, dropComma tokens)

/-- Entries up to the end of the tokens. -/
def takeAll (fuel : Nat) (tokens : List Token) : Except DeclarationError (List Entry) :=
  match fuel, tokens with
  | _, [] => .ok []
  | 0, _ => .error .leftOver
  | fuel + 1, tokens => do
      let (entry, rest) ← take expressions tokens
      return entry :: (← takeAll fuel rest)

end Expressions

end Entry

/-! ## Attributes -/

/-- What a unit attribute says. -/
structure Attribute where
  symbol : Literal
  dimension : List Token
  magnitude : Option Fraction
  origin : Option Fraction

/-- What the entries up to some place say. -/
structure Draft where
  symbol : Option Literal
  dimension : Option (List Token)
  magnitude : Option Fraction
  origin : Option Fraction

namespace Draft

/-- Nothing is said. -/
def empty : Draft := ⟨none, none, none, none⟩

/-- One more entry. -/
def put (draft : Draft) : Entry → Draft
  | .symbol l => { draft with symbol := some l }
  | .dimension e => { draft with dimension := some e }
  | .magnitude f => { draft with magnitude := some f }
  | .origin f => { draft with origin := some f }

/-- What several entries say together. -/
def ofEntries (entries : List Entry) : Draft := entries.foldl put empty

/-- The attribute of a draft that has the required keys. -/
def finish (draft : Draft) : Except DeclarationError Attribute := do
  let some symbol := draft.symbol | throw (.missingKey "symbol")
  let some dimension := draft.dimension | throw (.missingKey "dimension")
  return ⟨symbol, dimension, draft.magnitude, draft.origin⟩

end Draft

namespace Attribute

/-- The attribute that tokens hold, with a given parser of expressions. -/
def ofTokens (expressions : Parser (List Token)) (tokens : List Token) :
    Except DeclarationError Attribute := do
  (Draft.ofEntries (← Entry.takeAll expressions tokens.length tokens)).finish

/-- The attribute that a text holds. -/
def ofText (text : String) : Except DeclarationError Attribute := do
  ofTokens takeDimension (← Token.scan text)

/-- The symbol itself. -/
def symbolText (a : Attribute) : String :=
  match a.symbol.meaning with
  | .text s => s
  | _ => a.symbol.spelling

end Attribute

end Metrology.Declaration
