import Metrology.Json.Decode
import Metrology.Quantity

/-!
# Stored quantities

A quantity of a unit type is stored as its bare value or as a record. A record holds the value, the
name of the unit, and a mark when the unit is absolute; reading checks the name and the mark against
the unit type that is asked for. How a payload is stored is left to the caller, so that what is said
of records holds for every payload.
-/

namespace Metrology

open Json Number

variable {α : Type}

/-! ## Labels -/

/-- What a record says about a unit. -/
structure Label where
  name : String
  absolute : Bool
deriving DecidableEq, Repr

/-- The label of a unit type. -/
def UnitType.label (u : UnitType) : Calc Label := do return ⟨← u.name, ← u.isAbsolute⟩

/-- A record of a payload under a label. -/
def Label.record (label : Label) (payload : Value) : Value :=
  .ofMembers (("value", payload) :: ("unit", .string label.name) ::
    if label.absolute then [("absolute", .bool true)] else [])

/-! ## Fields -/

/-- The fields of a record that were found so far. -/
structure Fields (α : Type) where
  value : Option α
  unit : Option String
  absolute : Option Bool
deriving DecidableEq, Repr

namespace Fields

/-- No field. -/
def empty : Fields α := ⟨none, none, none⟩

/-- The names of the fields. -/
def names : List String := ["value", "unit", "absolute"]

/-- Decodes the value of a field that must not have been found before. -/
def fresh {β : Type} (name : String) (found : Option β) (decoder : Decoder β) (value : Value) :
    Except DecodeError β :=
  if found.isSome then .error (.duplicateField name) else decoder value

/-- Takes one member of a record. -/
def take (payload : Decoder α) (fields : Fields α) (member : String × Value) :
    Except DecodeError (Fields α) :=
  match member with
  | ("value", v) => do return { fields with value := some (← fresh "value" fields.value payload v) }
  | ("unit", v) => do
      return { fields with unit := some (← fresh "unit" fields.unit decodeString v) }
  | ("absolute", v) => do
      return { fields with absolute := some (← fresh "absolute" fields.absolute decodeBool v) }
  | (name, _) => .error (.unknownField name names)

/-- The fields of the members of a record. -/
def ofMembers (payload : Decoder α) (members : List (String × Value)) :
    Except DecodeError (Fields α) :=
  members.foldlM (take payload) empty

/-- The scale that the fields speak of: the mark where there is one, else relative where there is a
unit. -/
def scale? (fields : Fields α) : Option Bool :=
  fields.absolute.or (fields.unit.map fun _ => false)

/-- The value of the fields, when they fit a label. -/
def payloadFor (label : Label) (fields : Fields α) : Except DecodeError α := do
  let some value := fields.value | throw (.missingField "value")
  if let some unit := fields.unit then
    if unit ≠ label.name then throw (.otherUnit label.name unit)
  if let some absolute := fields.scale? then
    if absolute ≠ label.absolute then throw (.otherScale label.absolute label.name)
  return value

end Fields

/-- The payload of a record under a label. -/
def Label.payloadOf (label : Label) (payload : Decoder α) : Decoder α
  | .object members ending => do
      let fields ← Fields.ofMembers payload members
      closed ending
      fields.payloadFor label
  | v => .error (v.mistyped "struct Quantity with value and unit fields")

/-! ## Quantities -/

namespace Quantity

variable {u : UnitType}

/-- A quantity as a record. -/
def toRecord (payload : α → Value) (q : Quantity u α) : Calc Value := do
  return (← u.label).record (payload q.value)

/-- The quantity that a record holds. -/
def ofRecord (payload : Decoder α) (u : UnitType) (v : Value) :
    Except DecodeError (Quantity u α) := do
  let label ← u.label.mapError DecodeError.fault
  return ⟨← label.payloadOf payload v⟩

/-- A quantity as its bare value. -/
def toBare (payload : α → Value) (q : Quantity u α) : Value := payload q.value

/-- The quantity of a bare value. -/
def ofBare (payload : Decoder α) (u : UnitType) (v : Value) :
    Except DecodeError (Quantity u α) := do
  return ⟨← payload v⟩

end Quantity

/-- A quantity with its unit known at run time as a record, which names the unit and has no mark. -/
def AnyQuantity.toRecord (payload : α → Value) (q : AnyQuantity α) : Value :=
  .ofMembers [("value", payload q.value), ("unit", .string q.unit.name)]

/-- A floating-point payload as it is stored. -/
def Number.Floating.toValue [Floating α] (x : α) : Value :=
  .ofDatum (Floating.format α) (Floating.toDatum x)

end Metrology
