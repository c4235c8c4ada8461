import BacnetSim.Types.PropertyValue

/-! The topology of a simulation (`topology.rs`) and the names in it
(`simulation_builder.rs`). `lowercase` stands for `str::to_lowercase`. -/
namespace BacnetSim
open Rust

structure ObjectConfig where
  objectType : String
  count : UInt32
  namePrefix : String
  units : Option String
  deriving DecidableEq, Repr

structure ProfileConfig where
  objects : List ObjectConfig
  deriving DecidableEq, Repr

structure DeviceGroupConfig where
  idRange : UInt32 × UInt32
  profile : String
  deriving DecidableEq, Repr

structure SimulatorConfig where
  devices : List DeviceGroupConfig
  profiles : HashMap String ProfileConfig

/-- `s.to_lowercase().replace([' ', '-'], "_")`. -/
def normalize (lowercase : String → String) (s : String) : String :=
  String.ofList ((lowercase s).toList.map fun c => if c = ' ' ∨ c = '-' then '_' else c)

def parseObjectType (lowercase : String → String) (s : String) : Option ObjectType :=
  match normalize lowercase s with
  | "analoginput" | "analog_input" => some .analogInput
  | "analogoutput" | "analog_output" => some .analogOutput
  | "analogvalue" | "analog_value" => some .analogValue
  | "binaryinput" | "binary_input" => some .binaryInput
  | "binaryoutput" | "binary_output" => some .binaryOutput
  | "binaryvalue" | "binary_value" => some .binaryValue
  | "multistateinput" | "multistate_input" | "msi" => some .multiStateInput
  | _ => none

def parseUnits (lowercase : String → String) (s : Option String) : EngineeringUnits :=
  match s.map lowercase with
  | some "degreescelsius" | some "degrees_celsius" | some "celsius" | some "°c" => .degreesCelsius
  | some "degreesfahrenheit" | some "degrees_fahrenheit" | some "fahrenheit" | some "°f" =>
    .degreesFahrenheit
  | some "kelvin" | some "k" => .kelvin
  | some "percent" | some "%" => .percent
  | some "psi" | some "poundspersquareinch" => .poundsPerSquareInch
  | some "watts" | some "w" => .watts
  | some "kilowatts" | some "kw" => .kilowatts
  | some "amperes" | some "a" | some "amps" => .amperes
  | some "volts" | some "v" => .volts
  | some "hertz" | some "hz" => .hertz
  | _ => .noUnits

/-- `format!("{i:03}")`. -/
def paddedNumber (i : UInt32) : String :=
  let digits := toString i.toNat
  "".pushn '0' (3 - digits.length) ++ digits

end BacnetSim
