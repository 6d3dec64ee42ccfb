import Metrology.Declaration.Error
import Metrology.Declaration.Token
import Metrology.Text.Hexadecimal
import Metrology.Text.Name
import Metrology.Text.Printable

/-!
# Tokens of a text

`Token.scan?` parts a text into tokens and gathers what stands in brackets into groups. Blanks and
comments part tokens and vanish; a comment that documents what follows it becomes an attribute
`doc`. A text has no tokens when a literal is malformed, a character belongs to no token, or
brackets do not match.
-/

namespace Metrology.Declaration

open Text

/-- Reads something from the front of a text, and gives what is left. -/
abbrev Scanner (α : Type) := List Char → Option (α × List Char)

/-- The quote around a character. -/
def singleQuote : Char := Char.ofNat 39

/-- The text in front of what is left of it. -/
def consumed (text rest : List Char) : List Char := text.take (text.length - rest.length)

/-! ## Names -/

/-- A name in front of a text. -/
def scanName : Scanner (List Char)
  | [] => none
  | c :: text =>
      if isNameStart c then some (c :: text.takeWhile isNamePart, text.dropWhile isNamePart)
      else none

/-- A text behind the name in front of it, if there is one. -/
def dropName (text : List Char) : List Char := ((scanName text).map Prod.snd).getD text

/-- The words that keep their meaning when they are marked as names. -/
def fixedWords : List String := "_" :: pathWords

/-- A word: a name, or a name behind the mark that makes one of a reserved word. -/
def scanWord : Scanner String
  | 'r' :: '#' :: text => do
      let (name, rest) ← scanName text
      if fixedWords.contains (String.ofList name) then none
      else some ("r#" ++ String.ofList name, rest)
  | text => (scanName text).map fun (name, rest) => (String.ofList name, rest)

/-! ## Strings and characters -/

/-- What a string literal stands for. -/
inductive StringKind
  | text
  | bytes
  /-- A string that an end mark will follow, so that it cannot hold one. -/
  | terminated
deriving DecidableEq, Repr

/-- Whether a character can stand in a string. -/
def StringKind.admits (kind : StringKind) (c : Char) : Bool :=
  match kind with
  | .text => true
  | .bytes => c.toNat < 128
  | .terminated => c.toNat != 0

/-- Reads the digits of an escape by number up to the closing brace. -/
def scanScalar (count value : Nat) : Scanner Char
  | [] => none
  | c :: text =>
      if c = '_' ∧ 0 < count then scanScalar count value text
      else if c = '}' ∧ 0 < count then
        if value.isValidChar then some (Char.ofNat value, text) else none
      else
        match hexDigit? c with
        | some digit => if count = 6 then none else scanScalar (count + 1) (16 * value + digit) text
        | none => none

/-- Reads an escape behind its backslash. -/
def scanEscape (kind : StringKind) : Scanner Char
  | 'n' :: text => some ('\n', text)
  | 'r' :: text => some ('\r', text)
  | 't' :: text => some ('\t', text)
  | '\\' :: text => some ('\\', text)
  | '"' :: text => some ('"', text)
  | '0' :: text => if kind = .terminated then none else some (Char.ofNat 0, text)
  | 'x' :: a :: b :: text => do
      let n ← hexValue? [a, b]
      if kind = .text ∧ 128 ≤ n ∨ kind = .terminated ∧ n = 0 then none
      else some (Char.ofNat n, text)
  | 'u' :: '{' :: text => do
      let (c, rest) ← scanScalar 0 0 text
      if kind = .bytes ∨ kind = .terminated ∧ c.toNat = 0 then none else some (c, rest)
  | c :: text => if c = singleQuote then some (c, text) else none
  | [] => none

/-- Drops the line break behind a backslash and the blanks that begin the next line. -/
def dropContinuation : List Char → Option (List Char)
  | '\r' :: '\n' :: text => dropContinuation text
  | '\n' :: text | ' ' :: text | '\t' :: text => dropContinuation text
  | '\r' :: _ => none
  | [] => none
  | text => some text

/-- Reads a string behind its opening quote. -/
def scanCooked (kind : StringKind) (fuel : Nat) (text : List Char) :
    Option (List Char × List Char) :=
  match fuel with
  | 0 => none
  | fuel + 1 =>
      let put (c : Char) (text : List Char) : Option (List Char × List Char) :=
        (scanCooked kind fuel text).map fun (value, rest) => (c :: value, rest)
      match text with
      | [] => none
      | '"' :: text => some ([], text)
      | '\r' :: '\n' :: text => put '\n' text
      | '\r' :: _ => none
      | '\\' :: '\n' :: text | '\\' :: '\r' :: '\n' :: text =>
          (dropContinuation text).bind (scanCooked kind fuel)
      | '\\' :: text => (scanEscape kind text).bind fun (c, text) => put c text
      | c :: text => if kind.admits c then put c text else none

/-- Reads a string without escapes up to a quote that as many hashes follow as stood before it. -/
def scanRaw (kind : StringKind) (hashes : Nat) : Scanner (List Char)
  | [] => none
  | '"' :: text =>
      if text.take hashes = List.replicate hashes '#' then some ([], text.drop hashes)
      else (scanRaw kind hashes text).map fun (value, rest) => ('"' :: value, rest)
  | '\r' :: '\n' :: text =>
      (scanRaw kind hashes text).map fun (value, rest) => ('\r' :: '\n' :: value, rest)
  | '\r' :: _ => none
  | c :: text =>
      if kind.admits c then (scanRaw kind hashes text).map fun (value, rest) => (c :: value, rest)
      else none

/-- The most hashes around a string without escapes. -/
def maxHashes : Nat := 255

/-- A string literal behind the letter of its kind. -/
def scanQuoted (kind : StringKind) : Scanner (List Char)
  | '"' :: text => scanCooked kind (text.length + 1) text
  | 'r' :: text =>
      let hashes := (text.takeWhile (· == '#')).length
      match text.dropWhile (· == '#') with
      | '"' :: text => if hashes ≤ maxHashes then scanRaw kind hashes text else none
      | _ => none
  | _ => none

/-- A string literal of any kind. -/
def scanString (text : List Char) : Option (Meaning × List Char) :=
  match scanQuoted .text text with
  | some (value, rest) => some (.text (String.ofList value), rest)
  | none =>
      match text with
      | 'b' :: text => (scanQuoted .bytes text).map fun (_, rest) => (.other, rest)
      | 'c' :: text => (scanQuoted .terminated text).map fun (_, rest) => (.other, rest)
      | _ => none

/-- The closing quote of a character. -/
def scanClosing : List Char → Option (List Char)
  | c :: text => if c = singleQuote then some text else none
  | [] => none

/-- A character of a kind behind its opening quote. -/
def scanQuotedCharacter (kind : StringKind) : List Char → Option (List Char)
  | '\\' :: text => do
      let (_, rest) ← scanEscape kind text
      scanClosing rest
  | c :: text => if kind.admits c then scanClosing text else none
  | [] => none

/-- A character literal. -/
def scanCharacter : List Char → Option (List Char)
  | 'b' :: c :: text => if c = singleQuote then scanQuotedCharacter .bytes text else none
  | c :: text => if c = singleQuote then scanQuotedCharacter .text text else none
  | [] => none

/-! ## Numbers -/

/-- Digits with underscores between them. -/
def isSpacedDigit (c : Char) : Bool := c.isDigit || c == '_'

/-- Reads the exponent of a number behind its letter: digits and underscores, and a sign before the
first digit. -/
def scanExponent (signed valued : Bool) : List Char → Option (List Char)
  | [] => if valued then some [] else none
  | c :: text =>
      if c.isDigit then scanExponent signed true text
      else if c = '_' then scanExponent signed valued text
      else if c = '+' ∨ c = '-' then
        if valued then some (c :: text) else if signed then none else scanExponent true false text
      else if valued then some (c :: text) else none

/-- The text behind a number with a point or an exponent. -/
def scanReal (text : List Char) : Option (List Char) :=
  match text with
  | [] => none
  | c :: _ =>
      if !c.isDigit then none
      else
        match text.dropWhile isSpacedDigit with
        | '.' :: fraction =>
            if fraction.head?.any fun d => d == '.' || isNameStart d then none
            else
              let rest := fraction.dropWhile isSpacedDigit
              match rest with
              | 'e' :: exponent | 'E' :: exponent =>
                  some ((scanExponent false false exponent).getD rest)
              | rest => some rest
        | 'e' :: exponent | 'E' :: exponent => scanExponent false false exponent
        | _ => none

/-- Reads the digits of a whole number in a base: its value, and whether there was a digit. -/
def scanDigits (base : Nat) (value : Nat) (found : Bool) : List Char → Option (Nat × List Char)
  | [] => if found then some (value, []) else none
  | c :: text =>
      if c = '_' then
        if !found ∧ base = 10 then none else scanDigits base value found text
      else
        match hexDigit? c with
        | some digit =>
            if digit < base then scanDigits base (base * value + digit) true text
            else if c.isDigit then none
            else if found then some (value, c :: text) else none
        | none => if found then some (value, c :: text) else none

/-- A whole number, in base ten unless it begins with the mark of another base. -/
def scanWhole : Scanner Nat
  | '0' :: 'x' :: text => scanDigits 16 0 false text
  | '0' :: 'o' :: text => scanDigits 8 0 false text
  | '0' :: 'b' :: text => scanDigits 2 0 false text
  | text => scanDigits 10 0 false text

/-- The text behind the suffix of a number, which no other name may follow. -/
def dropSuffix (text : List Char) : Option (List Char) :=
  let rest := dropName text
  if rest.head?.any isNamePart then none else some rest

/-- A number literal. -/
def scanNumber (text : List Char) : Option (Meaning × List Char) :=
  match (scanReal text).bind dropSuffix with
  | some rest => some (.other, rest)
  | none => do
      if !text.head?.any Char.isDigit then none
      let (n, rest) ← scanWhole text
      return (.whole n, ← dropSuffix rest)

/-- A literal. -/
def scanLiteral (text : List Char) : Option (Literal × List Char) := do
  let (meaning, rest) ← match scanString text with
    | some (meaning, rest) => some (meaning, dropName rest)
    | none =>
        match scanCharacter text with
        | some rest => some (.other, dropName rest)
        | none => scanNumber text
  return (⟨String.ofList (consumed text rest), meaning⟩, rest)

/-! ## Marks -/

/-- The punctuation marks. -/
def marks : List Char := "~!@#$%^&*-=+|;:,<.>/?".toList

/-- Whether a text begins a comment. -/
def startsComment : List Char → Bool
  | '/' :: '/' :: _ => true
  | '/' :: '*' :: _ => true
  | _ => false

/-- A punctuation mark, the double colon, or the quote that begins the name of a label. -/
def scanMark (text : List Char) : Option (Token × List Char) :=
  match text with
  | ':' :: ':' :: rest => some (.path, rest)
  | c :: rest =>
      if c = singleQuote then do
        let (_, after) ← scanWord rest
        if after.head? = some singleQuote then none
        else if after.head? = some '#' ∧ rest.take 2 ≠ ['r', '#'] then none
        else some (.mark c, rest)
      else if marks.contains c ∧ !startsComment text then some (.mark c, rest)
      else none
  | [] => none

/-! ## Comments and blanks -/

/-- The blanks beyond ASCII, the marks of writing direction among them. -/
def wideBlanks : List Nat :=
  [0x85, 0xA0, 0x1680, 0x2000, 0x2001, 0x2002, 0x2003, 0x2004, 0x2005, 0x2006, 0x2007, 0x2008,
    0x2009, 0x200A, 0x200E, 0x200F, 0x2028, 0x2029, 0x202F, 0x205F, 0x3000]

/-- Whether a character parts tokens. -/
def isBlank (c : Char) : Bool :=
  c == ' ' || (9 ≤ c.toNat && c.toNat ≤ 13) || wideBlanks.contains c.toNat

/-- The text behind a comment in brackets, which may hold other comments. -/
def dropComment (depth : Nat) : List Char → Option (List Char)
  | '/' :: '*' :: text => dropComment (depth + 1) text
  | '*' :: '/' :: text => if depth ≤ 1 then some text else dropComment (depth - 1) text
  | _ :: text => dropComment depth text
  | [] => none

/-- Whether a comment documents what follows it, or what it stands in. -/
def isDocumentation : List Char → Bool
  | '/' :: '/' :: '!' :: _ => true
  | '/' :: '*' :: '!' :: _ => true
  | '/' :: '/' :: '/' :: '/' :: _ => false
  | '/' :: '/' :: '/' :: _ => true
  | '/' :: '*' :: '*' :: '/' :: _ => false
  | '/' :: '*' :: '*' :: '*' :: _ => false
  | '/' :: '*' :: '*' :: _ => true
  | _ => false

/-- A comment: its text without its delimiters, and the text behind it. -/
def scanComment (text : List Char) : Option (List Char × List Char) :=
  match text with
  | '/' :: '/' :: content =>
      let line := content.takeWhile (· != '\n')
      let rest := content.dropWhile (· != '\n')
      some (if line.getLast? = some '\r' ∧ !rest.isEmpty then line.dropLast else line, rest)
  | '/' :: '*' :: content => do
      let rest ← dropComment 1 content
      let whole := consumed content rest
      return (whole.take (whole.length - 2), rest)
  | _ => none

/-- Whether every carriage return of a text begins a line break. -/
def hasPlainBreaks : List Char → Bool
  | '\r' :: '\n' :: text => hasPlainBreaks text
  | '\r' :: _ => false
  | _ :: text => hasPlainBreaks text
  | [] => true

/-- The attribute that a documenting comment stands for. -/
def documentation (inner : Bool) (content : String) : List Token :=
  let hash := if inner then [.mark '#', .mark '!'] else [.mark '#']
  hash ++ [.group .bracket
    [.word "doc", .mark '=', .literal ⟨debugQuote content, .text content⟩]]

/-! ## Texts -/

/-- A piece of a text: tokens, or one bracket of a group. -/
inductive Lexeme
  | tokens (tokens : List Token)
  | opening (delimiter : Delimiter)
  | closing (delimiter : Delimiter)

/-- The bracket that a character is. -/
def bracket? : Char → Option Lexeme
  | '(' => some (.opening .parenthesis)
  | '[' => some (.opening .bracket)
  | '{' => some (.opening .brace)
  | ')' => some (.closing .parenthesis)
  | ']' => some (.closing .bracket)
  | '}' => some (.closing .brace)
  | _ => none

/-- The letters that begin a literal and cannot begin a name there. -/
def literalStarts : List String :=
  ["r\"", "r#\"", "r##", "b\"", "br\"", "br#", "c\"", "cr\"", "cr#"]

/-- Whether a text begins like a literal. -/
def startsLiteral (text : List Char) : Bool :=
  literalStarts.any (fun start => start.toList.isPrefixOf text) ||
    ['b', singleQuote].isPrefixOf text

/-- A token that is no group. -/
def scanLeaf (text : List Char) : Option (Token × List Char) :=
  match scanLiteral text with
  | some (l, rest) => some (.literal l, rest)
  | none =>
      match scanMark text with
      | some found => some found
      | none =>
          if startsLiteral text then none
          else (scanWord text).map fun (name, rest) => (.word name, rest)

/-- The pieces of a text. -/
def scanLexemes (fuel : Nat) (text : List Char) : Option (List Lexeme) :=
  match fuel, text with
  | _, [] => some []
  | 0, _ => none
  | fuel + 1, c :: rest =>
      if isBlank c then scanLexemes fuel rest
      else
        match bracket? c with
        | some lexeme => (scanLexemes fuel rest).map (lexeme :: ·)
        | none =>
            match scanComment text with
            | some (content, rest) =>
                if !isDocumentation text then scanLexemes fuel rest
                else
                  let line := content.drop 1
                  if hasPlainBreaks line then
                    let inner := content.head? == some '!'
                    (scanLexemes fuel rest).map
                      (.tokens (documentation inner (String.ofList line)) :: ·)
                  else none
            | none => do
                let (token, rest) ← scanLeaf text
                return .tokens [token] :: (← scanLexemes fuel rest)

/-- Gathers pieces into groups; the groups still open stand on a stack, each with the tokens before
it, the last one first. -/
def gather : List Lexeme → List (Delimiter × List Token) → List Token → Option (List Token)
  | [], [], tokens => some tokens.reverse
  | [], _ :: _, _ => none
  | .tokens more :: lexemes, stack, tokens => gather lexemes stack (more.reverse ++ tokens)
  | .opening delimiter :: lexemes, stack, tokens => gather lexemes ((delimiter, tokens) :: stack) []
  | .closing delimiter :: lexemes, (opened, outer) :: stack, tokens =>
      if opened = delimiter then gather lexemes stack (.group delimiter tokens.reverse :: outer)
      else none
  | .closing _ :: _, [], _ => none

/-- The tokens of a text. -/
def Token.scan? (text : String) : Option (List Token) := do
  gather (← scanLexemes text.length text.toList) [] []

/-- The tokens of a text, or the error for a text without any. -/
def Token.scan (text : String) : Except DeclarationError (List Token) :=
  match Token.scan? text with
  | some tokens => .ok tokens
  | none => .error .notTokens

end Metrology.Declaration
