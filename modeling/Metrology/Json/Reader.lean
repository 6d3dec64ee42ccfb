import Metrology.Json.Value
import Metrology.Number.Decimal
import Metrology.Text.Hexadecimal

/-!
# Reading JSON

`Value.read` reads a document from the front of a text. Reading never fails: where the text leaves
the grammar, a defect enters the document and reading stops. Whole numbers are kept exactly while
they fit 64 bits; every other number is rounded once to the nearest real.
-/

namespace Metrology.Json

open Number

/-- What was read from the front of a text, and the text behind it unless reading stopped. -/
structure Reading (α : Type) where
  value : α
  rest : Option (List Char)

/-- Reading stops at a defect. -/
def Reading.stop (defect : Defect) : Reading Value := ⟨.broken defect, none⟩

/-- Characters that may stand between the parts of a document. -/
def isBlank (c : Char) : Bool := c == ' ' || c == '\n' || c == '\t' || c == '\r'

/-- A text from its first character that is not blank. -/
def dropBlanks (text : List Char) : List Char := text.dropWhile isBlank

/-! ## Words -/

/-- Reads the rest of a word that stands for a value. -/
def readWord (value : Value) : List Char → List Char → Reading Value
  | [], text => ⟨value, some text⟩
  | _ :: _, [] => .stop (.stop .endInValue)
  | c :: word, d :: text => if c = d then readWord value word text else .stop (.stop .expectedWord)

/-! ## Strings -/

/-- One position of a string: a character, or the 16-bit code that an escape gives by number. -/
inductive TextUnit
  | char (c : Char)
  | code (n : Nat)

/-- The character that a letter after a backslash stands for. -/
def escaped? : Char → Option Char
  | '"' => some '"'
  | '\\' => some '\\'
  | '/' => some '/'
  | 'b' => some (Char.ofNat 8)
  | 'f' => some (Char.ofNat 12)
  | 'n' => some '\n'
  | 'r' => some '\r'
  | 't' => some '\t'
  | _ => none

/-- The bytes that a text takes. -/
def byteCount (text : List Char) : Nat := (String.ofList text).utf8ByteSize

/-- Reads a string up to its closing quote: the units before the end, and the text behind the quote
or the error that came instead. -/
def readUnits : List Char → List TextUnit × Except SyntaxError (List Char)
  | [] => ([], .error .endInString)
  | '"' :: text => ([], .ok text)
  | '\\' :: [] => ([], .error .endInString)
  | '\\' :: 'u' :: text =>
      match text with
      | a :: b :: c :: d :: text =>
          match Text.hexValue? [a, b, c, d] with
          | some n =>
              let (units, outcome) := readUnits text
              (.code n :: units, outcome)
          | none => ([], .error .invalidHexEscape)
      | text => ([], .error (if byteCount text < 4 then .endInString else .invalidHexEscape))
  | '\\' :: letter :: text =>
      match escaped? letter with
      | some c =>
          let (units, outcome) := readUnits text
          (.char c :: units, outcome)
      | none => ([], .error .unknownEscape)
  | c :: text =>
      if c.toNat < 32 then ([], .error .controlCharacter)
      else
        let (units, outcome) := readUnits text
        (.char c :: units, outcome)

/-- Whether a code is the first half of a pair. -/
def isLeading (n : Nat) : Bool := decide (0xD800 ≤ n ∧ n ≤ 0xDBFF)

/-- Whether a code is the second half of a pair. -/
def isTrailing (n : Nat) : Bool := decide (0xDC00 ≤ n ∧ n ≤ 0xDFFF)

/-- The characters of a string that ended with a given error or without one; two halves of a pair
make one character, and a half alone makes none. -/
def pairUnits (ending : Option SyntaxError) : List TextUnit → Except SyntaxError (List Char)
  | [] =>
      match ending with
      | none => .ok []
      | some error => .error error
  | .char c :: units => (pairUnits ending units).map (c :: ·)
  | .code n :: units =>
      if isTrailing n then .error .loneSurrogate
      else if !isLeading n then (pairUnits ending units).map (Char.ofNat n :: ·)
      else
        match units with
        | .code m :: units =>
            if isTrailing m then
              (pairUnits ending units).map
                (Char.ofNat (0x10000 + (n - 0xD800) * 0x400 + (m - 0xDC00)) :: ·)
            else .error .loneSurrogate
        | .char _ :: _ => .error .unfinishedSurrogate
        | [] =>
            match ending with
            | some .endInString => .error .endInString
            | some .invalidHexEscape => .error .invalidHexEscape
            | _ => .error .unfinishedSurrogate

/-- Reads a string behind its opening quote: its text or what is wrong with it. -/
def readString (text : List Char) : Reading (Except Defect String) :=
  let (units, outcome) := readUnits text
  let (ending, rest) := match outcome with
    | .ok rest => (none, some rest)
    | .error error => (some error, none)
  match pairUnits ending units with
  | .ok cs => ⟨.ok (String.ofList cs), rest⟩
  | .error error => ⟨.error ⟨error, ending⟩, rest⟩

/-! ## Numbers -/

/-- A number with a fraction or an exponent, rounded once to the nearest real. -/
def realValue (negative : Bool) (x : Decimal) : Value :=
  match binary64.roundDecimal negative x with
  | .finite sign significand exponent => .real binary64 (.finite sign significand exponent)
  | _ => .broken ⟨.numberOutOfRange, none⟩

/-- A number without fraction and exponent: whole where it fits 64 bits, real elsewhere. A zero
behind a minus sign keeps its sign and is real. -/
def wholeValue (negative : Bool) (n : Nat) : Value :=
  if !negative ∧ n < Nat.pow 2 64 then .whole n
  else if negative ∧ 0 < n ∧ n ≤ Nat.pow 2 63 then .whole (-n)
  else realValue negative ⟨n, 0⟩

/-- Reads the exponent behind its letter, after digits of which some stand behind the point. -/
def readExponent (negative : Bool) (digits : List Char) (places : Nat) (text : List Char) :
    Reading Value :=
  let (down, text) := match text with
    | '+' :: text => (false, text)
    | '-' :: text => (true, text)
    | text => (false, text)
  match text with
  | [] => .stop ⟨.endInValue, some .invalidNumber⟩
  | c :: _ =>
      if !c.isDigit then .stop (.stop .invalidNumber)
      else
        let n : Int := digitsValue (text.takeWhile Char.isDigit)
        let exponent := (if down then -n else n) - places
        ⟨realValue negative ⟨digitsValue digits, exponent⟩, some (text.dropWhile Char.isDigit)⟩

/-- Reads the digits behind a decimal point and what follows them. -/
def readFraction (negative : Bool) (whole : List Char) (text : List Char) : Reading Value :=
  let fraction := text.takeWhile Char.isDigit
  let digits := whole ++ fraction
  match fraction, text.dropWhile Char.isDigit with
  | [], [] => .stop ⟨.endInValue, some .invalidNumber⟩
  | [], _ => .stop (.stop .invalidNumber)
  | _, 'e' :: rest | _, 'E' :: rest => readExponent negative digits fraction.length rest
  | _, rest => ⟨realValue negative ⟨digitsValue digits, -fraction.length⟩, some rest⟩

/-- Reads a number behind its sign. -/
def readNumber (negative : Bool) (text : List Char) : Reading Value :=
  match text.takeWhile Char.isDigit, text.dropWhile Char.isDigit with
  | [], [] => .stop ⟨.endInValue, some .invalidNumber⟩
  | [], _ => .stop (.stop .invalidNumber)
  | '0' :: _ :: _, _ => .stop (.stop .invalidNumber)
  | whole, '.' :: rest => readFraction negative whole rest
  | whole, 'e' :: rest | whole, 'E' :: rest => readExponent negative whole 0 rest
  | whole, rest => ⟨wholeValue negative (digitsValue whole), some rest⟩

/-! ## Documents -/

/-- The items or members of a collection, and the defect in place of its closing. -/
abbrev Contents (α : Type) := List α × Option Defect

/-- A collection that ends in a defect, at which reading stops. -/
def Reading.cut {α : Type} (defect : Defect) : Reading (Contents α) := ⟨([], some defect), none⟩

/-- Puts an entry in front of the entries that follow it. -/
def Reading.cons {α : Type} (entry : α) (reading : Reading (Contents α)) : Reading (Contents α) :=
  ⟨(entry :: reading.value.1, reading.value.2), reading.rest⟩

mutual

/-- Reads a value from the front of a text. -/
def readValue (fuel : Nat) (text : List Char) : Reading Value :=
  match fuel with
  | 0 => .stop (.stop .endInValue)
  | fuel + 1 =>
      match dropBlanks text with
      | [] => .stop (.stop .endInValue)
      | 'n' :: text => readWord .null ['u', 'l', 'l'] text
      | 't' :: text => readWord (.bool true) ['r', 'u', 'e'] text
      | 'f' :: text => readWord (.bool false) ['a', 'l', 's', 'e'] text
      | '-' :: text => readNumber true text
      | '"' :: text =>
          let reading := readString text
          match reading.value with
          | .ok s => ⟨.string s, reading.rest⟩
          | .error defect => ⟨.broken defect, reading.rest⟩
      | '[' :: text =>
          let reading := readItems fuel true text
          ⟨.array reading.value.1 reading.value.2, reading.rest⟩
      | '{' :: text =>
          let reading := readMembers fuel true text
          ⟨.object reading.value.1 reading.value.2, reading.rest⟩
      | c :: text =>
          if c.isDigit then readNumber false (c :: text) else .stop (.stop .expectedValue)

/-- Reads the items of an array, the first of them or those behind an item. -/
def readItems (fuel : Nat) (first : Bool) (text : List Char) : Reading (Contents Value) :=
  match fuel with
  | 0 => .cut (.stop .endInList)
  | fuel + 1 =>
      let item (text : List Char) : Reading (Contents Value) :=
        let reading := readValue fuel text
        match reading.rest with
        | none => ⟨([reading.value], none), none⟩
        | some rest => .cons reading.value (readItems fuel false rest)
      match first, dropBlanks text with
      | _, [] => .cut (.stop .endInList)
      | _, ']' :: text => ⟨([], none), some text⟩
      | true, text => item text
      | false, ',' :: text =>
          match dropBlanks text with
          | [] => .cut (.stop .endInValue)
          | ']' :: _ => .cut ⟨.trailingComma, some .expectedValue⟩
          | text => item text
      | false, _ => .cut (.stop .expectedListEnd)

/-- Reads the members of an object, the first of them or those behind a member. -/
def readMembers (fuel : Nat) (first : Bool) (text : List Char) :
    Reading (Contents (String × Value)) :=
  match fuel with
  | 0 => .cut (.stop .endInObject)
  | fuel + 1 =>
      match first, dropBlanks text with
      | _, [] => .cut (.stop .endInObject)
      | _, '}' :: text => ⟨([], none), some text⟩
      | true, '"' :: text => readMember fuel text
      | true, _ => .cut (.stop .keyMustBeString)
      | false, ',' :: text =>
          match dropBlanks text with
          | [] => .cut ⟨.endInValue, some .endInObject⟩
          | '}' :: _ => .cut ⟨.trailingComma, some .keyMustBeString⟩
          | '"' :: text => readMember fuel text
          | _ => .cut (.stop .keyMustBeString)
      | false, _ => .cut (.stop .expectedObjectEnd)

/-- Reads a member behind the opening quote of its name, and the members that follow it. -/
def readMember (fuel : Nat) (text : List Char) : Reading (Contents (String × Value)) :=
  match fuel with
  | 0 => .cut (.stop .endInObject)
  | fuel + 1 =>
      let named (name : String) (text : List Char) : Reading (Contents (String × Value)) :=
        match dropBlanks text with
        | [] => ⟨([(name, .broken (.stop .endInObject))], none), none⟩
        | ':' :: text =>
            let reading := readValue fuel text
            match reading.rest with
            | none => ⟨([(name, reading.value)], none), none⟩
            | some rest => .cons (name, reading.value) (readMembers fuel false rest)
        | _ => ⟨([(name, .broken (.stop .expectedColon))], none), none⟩
      let reading := readString text
      match reading.value, reading.rest with
      | .ok name, some text => named name text
      | .ok _, none => .cut (.stop .endInString)
      | .error defect, none => .cut defect
      | .error defect, some text =>
          let others := named "" text
          ⟨([], some ⟨defect.decoding, (Value.object others.value.1 others.value.2).passing?⟩),
            others.rest⟩

end

/-- Reads a document from the front of a text. -/
def Value.read (text : String) : Reading Value :=
  readValue (3 * text.length + 3) text.toList

end Metrology.Json
