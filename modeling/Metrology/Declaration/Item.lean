import Metrology.Declaration.Attribute

/-!
# Unit declarations

A unit is declared by an item, a structure or an enumeration, that carries a `unit` attribute. The
first attribute of that name counts. What the item holds itself is of no concern. Like the entries of an
attribute, the attribute of an item is read with any parser of expressions, by default with
`takeDimension`.
-/

namespace Metrology.Declaration

/-! ## Tags -/

/-- What follows the name of a tag. -/
inductive Arguments
  | absent
  | enclosed (tokens : List Token)
  | assigned

/-- A tag of an item. -/
structure Tag where
  path : List Token
  arguments : Arguments

namespace Tag

/-- The path in front of tokens. -/
def takePath : Parser (List Token)
  | .word name :: .path :: tokens => do
      let (path, rest) ← takePath tokens
      return (.word name :: .path :: path, rest)
  | .word name :: tokens => .ok ([.word name], tokens)
  | tokens => .error (Part.identifier.missing tokens)

/-- The path in front of tokens, which may begin with a double colon. -/
def takeWholePath : Parser (List Token)
  | .path :: tokens => (takePath tokens).map fun (path, rest) => (.path :: path, rest)
  | tokens => takePath tokens

/-- The tag inside its brackets. -/
def ofTokens (tokens : List Token) : Except DeclarationError Tag := do
  match ← takeWholePath tokens with
  | (path, []) => return ⟨path, .absent⟩
  | (path, [.group _ content]) => return ⟨path, .enclosed content⟩
  | (path, .mark '=' :: _) => return ⟨path, .assigned⟩
  | _ => throw .leftOver

/-- Whether a tag declares a unit. -/
def isUnit (a : Tag) : Bool :=
  match a.path with
  | [.word name] => name == "unit"
  | _ => false

/-- The unit attribute that a tag holds. -/
def unitAttribute (a : Tag) (expressions : Parser (List Token) := takeDimension) :
    Except DeclarationError Attribute :=
  match a.arguments with
  | .absent => .error .bareAttribute
  | .assigned => .error .assignedAttribute
  | .enclosed tokens => Attribute.ofTokens expressions tokens

end Tag

/-! ## Items -/

/-- An item with its tags in order. -/
structure Item where
  tags : List Tag
  name : String

namespace Item

/-- The tags in front of an item. -/
def takeTags : Parser (List Tag)
  | .mark '#' :: .group .bracket content :: tokens => do
      let tag ← Tag.ofTokens content
      let (tags, rest) ← takeTags tokens
      return (tag :: tags, rest)
  | .mark '#' :: tokens => .error (Part.squareBrackets.missing tokens)
  | tokens => .ok ([], tokens)

/-- The tokens behind the visibility of an item. -/
def dropVisibility : List Token → List Token
  | .word "pub" :: .group .parenthesis _ :: tokens => tokens
  | .word "pub" :: tokens => tokens
  | tokens => tokens

/-- The kinds of items that can declare a unit. -/
def kinds : List String := ["struct", "enum", "union"]

/-- The tokens behind the kind of an item. -/
def dropKind : List Token → Except DeclarationError (List Token)
  | .word kind :: tokens => if kinds.contains kind then .ok tokens else .error (.expected .itemKind)
  | tokens => .error (Part.itemKind.missing tokens)

/-- The item that tokens hold. -/
def ofTokens (tokens : List Token) : Except DeclarationError Item := do
  let (tags, tokens) ← takeTags tokens
  let tokens ← dropKind (dropVisibility tokens)
  let (name, _) ← takeName tokens
  return ⟨tags, name⟩

/-- The item that a text holds. -/
def ofText (text : String) : Except DeclarationError Item := do ofTokens (← Token.scan text)

/-- The unit attribute of an item. -/
def unitAttribute (item : Item) (expressions : Parser (List Token) := takeDimension) :
    Except DeclarationError Attribute :=
  match item.tags.find? Tag.isUnit with
  | some tag => tag.unitAttribute expressions
  | none => .error .noAttribute

end Item

end Metrology.Declaration
