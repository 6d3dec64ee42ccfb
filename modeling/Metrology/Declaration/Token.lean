/-!
# Tokens of declarations

A declaration of a unit is a list of tokens: words, literals, punctuation marks and groups in
brackets. A literal keeps its spelling beside its meaning, so that it can be written again as it
was. `Token.textOf` writes tokens with one blank between two of them.
-/

namespace Metrology.Declaration

/-! ## Literals -/

/-- What a literal stands for. -/
inductive Meaning
  | whole (n : Nat)
  | text (s : String)
  | other
deriving DecidableEq, Repr

/-- A literal as it is written. -/
structure Literal where
  spelling : String
  meaning : Meaning
deriving DecidableEq, Repr

/-! ## Tokens -/

/-- The brackets around a group. -/
inductive Delimiter
  | parenthesis
  | bracket
  | brace
deriving DecidableEq, Repr

/-- A token, with the tokens inside it when it is a group. -/
inductive Token
  | word (name : String)
  | literal (l : Literal)
  | mark (c : Char)
  /-- The double colon between the segments of a path. -/
  | path
  | group (delimiter : Delimiter) (content : List Token)

/-- A group around a text. -/
def Delimiter.enclose (delimiter : Delimiter) (text : String) : String :=
  match delimiter with
  | .parenthesis => "(" ++ text ++ ")"
  | .bracket => "[" ++ text ++ "]"
  | .brace => if text.isEmpty then "\x7b \x7d" else "\x7b " ++ text ++ " \x7d"

namespace Token

mutual

/-- A token as text. -/
def text : Token → String
  | .word name => name
  | .literal l => l.spelling
  | .mark c => c.toString
  | .path => "::"
  | .group delimiter content => delimiter.enclose (" ".intercalate (texts content))

/-- The texts of tokens, one after another. -/
def texts : List Token → List String
  | [] => []
  | token :: tokens => text token :: texts tokens

end

/-- Tokens as text, parted by blanks. -/
def textOf (tokens : List Token) : String := " ".intercalate (texts tokens)

mutual

/-- The tokens that a token consists of. -/
def weight : Token → Nat
  | .group _ content => weightOf content + 1
  | _ => 1

/-- The tokens that a list of tokens consists of. -/
def weightOf : List Token → Nat
  | [] => 0
  | token :: tokens => weight token + weightOf tokens

end

end Token

/-! ## Words -/

/-- The words that are no names. -/
def reservedWords : List String :=
  ["_", "abstract", "as", "async", "await", "become", "box", "break", "const", "continue", "crate",
    "do", "dyn", "else", "enum", "extern", "false", "final", "fn", "for", "if", "impl", "in", "let",
    "loop", "macro", "match", "mod", "move", "mut", "override", "priv", "pub", "ref", "return",
    "Self", "self", "static", "struct", "super", "trait", "true", "try", "type", "typeof", "unsafe",
    "unsized", "use", "virtual", "where", "while", "yield"]

/-- The reserved words that can be segments of a path. -/
def pathWords : List String := ["super", "self", "Self", "crate"]

end Metrology.Declaration
