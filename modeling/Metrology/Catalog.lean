import Metrology.UnitType

/-!
# The catalogue of units

The units that come with the library, by quantity, and `find?`, which looks a unit type up by its
name.
-/

namespace Metrology.Catalog

open NamedType (declared multiple)

/-! ## Pure numbers -/

def unitless : NamedType := .unitless
def radian : NamedType := declared "rad" .dimensionless .one none
def percent : NamedType := declared "%" .dimensionless .hundredth none

/-! ## Time -/

def second : NamedType := declared "s" .ofTime .one none
def millisecond : NamedType := multiple .milli second
def microsecond : NamedType := multiple .micro second
def nanosecond : NamedType := multiple .nano second
def minute : NamedType := declared "min" .ofTime (.ofInt 60) none
def hour : NamedType := declared "h" .ofTime (.ofInt 3600) none
def day : NamedType := declared "d" .ofTime (.ofInt 86400) none

/-! ## Length, area and volume -/

def meter : NamedType := declared "m" .ofLength .one none
def kilometer : NamedType := multiple .kilo meter
def centimeter : NamedType := multiple .centi meter
def millimeter : NamedType := multiple .milli meter
def micrometer : NamedType := multiple .micro meter

/-- The inch is 2.54 centimetres. -/
def inch : NamedType := declared "in" .ofLength (.mk 127 5000) none

/-- The foot is twelve inches. -/
def foot : NamedType := declared "ft" .ofLength (.mk 381 1250) none

def squareMeter : UnitType := .power (.named meter) 2
def cubicMeter : UnitType := .power (.named meter) 3

/-! ## Mass -/

/-- The base unit of mass is the kilogram. -/
def gram : NamedType := declared "g" .ofMass .thousandth none
def kilogram : NamedType := multiple .kilo gram
def milligram : NamedType := multiple .milli gram

/-! ## Temperature -/

def kelvin : NamedType := declared "K" .ofTemperature .one (some .zero)
def celsius : NamedType := declared "°C" .ofTemperature .one (some (.mk 5463 20))
def fahrenheit : NamedType := declared "°F" .ofTemperature (.mk 5 9) (some (.mk 45967 180))

/-- The temperature at which the thermal energy is one electronvolt. -/
def electronvoltTemperature : NamedType :=
  declared "eV" .ofTemperature (.mk 16021766340 1380649) (some .zero)

/-! ## Electricity -/

def ampere : NamedType := declared "A" .ofElectricCurrent .one none
def milliampere : NamedType := multiple .milli ampere
def coulomb : NamedType := declared "C" ⟨1, 0, 0, 1, 0, 0, 0⟩ .one none
def volt : NamedType := declared "V" ⟨-3, 2, 1, -1, 0, 0, 0⟩ .one none

/-! ## Amount of substance and light -/

def mole : NamedType := declared "mol" .ofAmountOfSubstance .one none
def candela : NamedType := declared "cd" .ofLuminousIntensity .one none

/-! ## Mechanics -/

def hertz : NamedType := declared "Hz" ⟨-1, 0, 0, 0, 0, 0, 0⟩ .one none
def newton : NamedType := declared "N" ⟨-2, 1, 1, 0, 0, 0, 0⟩ .one none
def pascal : NamedType := declared "Pa" ⟨-2, -1, 1, 0, 0, 0, 0⟩ .one none
def joule : NamedType := declared "J" ⟨-2, 2, 1, 0, 0, 0, 0⟩ .one none
def watt : NamedType := declared "W" ⟨-3, 2, 1, 0, 0, 0, 0⟩ .one none
def kilowatt : NamedType := multiple .kilo watt
def megawatt : NamedType := multiple .mega watt

def meterPerSecond : UnitType := .per (.named meter) (.named second)
def kilometerPerHour : UnitType := .per (.named kilometer) (.named hour)

/-! ## Names -/

/-- The types of one named unit, by name. -/
def namedTypes : List (String × NamedType) :=
  [("Unitless", unitless), ("Radian", radian), ("Percent", percent),
    ("Second", second), ("Millisecond", millisecond), ("Microsecond", microsecond),
    ("Nanosecond", nanosecond), ("Minute", minute), ("Hour", hour), ("Day", day),
    ("Meter", meter), ("Kilometer", kilometer), ("Centimeter", centimeter),
    ("Millimeter", millimeter), ("Micrometer", micrometer), ("Inch", inch), ("Foot", foot),
    ("Gram", gram), ("Kilogram", kilogram), ("Milligram", milligram),
    ("Kelvin", kelvin), ("Celsius", celsius), ("Fahrenheit", fahrenheit),
    ("ElectronvoltTemperature", electronvoltTemperature),
    ("Ampere", ampere), ("Milliampere", milliampere), ("Coulomb", coulomb), ("Volt", volt),
    ("Mole", mole), ("Candela", candela),
    ("Hertz", hertz), ("Newton", newton), ("Pascal", pascal), ("Joule", joule), ("Watt", watt),
    ("Kilowatt", kilowatt), ("Megawatt", megawatt)]

/-- The composite types, by name. -/
def composites : List (String × UnitType) :=
  [("SquareMeter", squareMeter), ("CubicMeter", cubicMeter), ("MeterPerSecond", meterPerSecond),
    ("KilometerPerHour", kilometerPerHour)]

/-- The type of one named unit of a given name. -/
def findNamed? (name : String) : Option NamedType := namedTypes.lookup name

/-- The unit type of a given name. -/
def find? (name : String) : Option UnitType :=
  match findNamed? name with
  | some t => some (.named t)
  | none => composites.lookup name

/-- Quantities that have a name of their own: their unit type and whole value. -/
def constants : List (String × UnitType × Int64) :=
  [("M", .named meter, 1), ("KM", .named kilometer, 1), ("G", .named gram, 1),
    ("KG", .named kilogram, 1), ("SEC", .named second, 1), ("MIN", .named minute, 1),
    ("HOUR", .named hour, 1), ("DAY", .named day, 1), ("Celsius::ZERO", .named celsius, 0)]

end Metrology.Catalog
