import Metrology.Catalog

/-!
# The notation of unit types

A unit type is written as a name of the catalogue, or as a constructor with its arguments in angle
brackets, as in `Per<Power<Meter,2>,Second>`. `UnitType.ofText?` reads this notation.
-/

namespace Metrology.UnitType

/-- The multiple that a constructor name stands for. -/
def multiple? : String → Option Multiple
  | "Mega" => some .mega
  | "Kilo" => some .kilo
  | "Centi" => some .centi
  | "Milli" => some .milli
  | "Micro" => some .micro
  | "Nano" => some .nano
  | _ => none

/-- An argument between angle brackets. -/
inductive Argument
  | unit (u : UnitType)
  | number (n : Int32)

/-- The unit type of a constructor and its arguments. -/
def build? (constructor : String) : List Argument → Option UnitType
  | [.unit a, .unit b] =>
      match constructor with
      | "Product" => some (product a b)
      | "Per" => some (per a b)
      | _ => none
  | [.unit a, .number n] =>
      match constructor with
      | "Power" => some (power a n)
      | "Root" => some (root a n)
      | _ => none
  | [.unit (named t)] =>
      if constructor = "Relative" then some (named (.relative t))
      else (multiple? constructor).map fun m => named (.multiple m t)
  | _ => none

/-- The characters of names and numbers. -/
def isWordChar (c : Char) : Bool := c.isAlphanum || c == '-'

mutual

/-- Reads one argument, with at most `fuel` steps of nesting, and returns the rest of the text. -/
def readArgument : Nat → List Char → Option (Argument × List Char)
  | 0, _ => none
  | fuel + 1, text =>
      let word := String.ofList (text.takeWhile isWordChar)
      let rest := text.dropWhile isWordChar
      match word.toInt?.bind Bounded.ofInt? with
      | some n => some (.number n, rest)
      | none =>
          match rest with
          | '<' :: rest => do
              let (arguments, rest) ← readArguments fuel rest
              return (.unit (← build? word arguments), rest)
          | _ => (Catalog.find? word).map fun u => (.unit u, rest)

/-- Reads arguments parted by commas up to the closing bracket. -/
def readArguments : Nat → List Char → Option (List Argument × List Char)
  | 0, _ => none
  | fuel + 1, text => do
      let (argument, rest) ← readArgument fuel text
      match rest with
      | ',' :: rest =>
          let (arguments, rest) ← readArguments fuel rest
          return (argument :: arguments, rest)
      | '>' :: rest => return ([argument], rest)
      | _ => none

end

/-- The unit type that a text stands for. -/
def ofText? (text : String) : Option UnitType :=
  match readArgument (2 * text.length + 1) text.toList with
  | some (.unit u, []) => some u
  | _ => none

end Metrology.UnitType
