import BacnetSim.Lib.Ieee754
import BacnetSim.Lib.Utf8
import BacnetSim.Types.PropertyId

/-! Property values. Reals are bit patterns; octet strings and opaque values are
octet lists; a bit string is its list of bits. -/
namespace BacnetSim
open Ieee754

inductive EngineeringUnits where
  | noUnits | degreesCelsius | degreesFahrenheit | kelvin | percent | poundsPerSquareInch
  | cubicMetersPerSecond | liters | watts | kilowatts | amperes | volts | hertz | meters
  deriving DecidableEq, Repr

def EngineeringUnits.code : EngineeringUnits → UInt32
  | noUnits => 95
  | degreesCelsius => 62
  | degreesFahrenheit => 64
  | kelvin => 63
  | percent => 98
  | poundsPerSquareInch => 6
  | cubicMetersPerSecond => 19
  | liters => 82
  | watts => 47
  | kilowatts => 48
  | amperes => 2
  | volts => 5
  | hertz => 27
  | meters => 31

inductive EventState where
  | normal | fault | offNormal | highLimit | lowLimit | lifeSafetyAlarm
  deriving DecidableEq, Repr

def EventState.code (s : EventState) : UInt32 := UInt32.ofNat (EventState.ctorIdx s)

inductive Reliability where
  | noFaultDetected | noSensor | overRange | underRange | openLoop | shortedLoop | noOutput
  | unreliable | processError | multiStateFault | configurationError | communicationFailure
  | memberFault | monitoredObjectFault | tripped | lampFailure | activationFailure
  | renewDhcpFailure | renewFdRegistrationFailure | restartAutoNegotiationFailure
  | restartFailure | proprietaryCommandFailure | faultsListed | referencedObjectFault
  deriving DecidableEq, Repr

/-- The codes are consecutive but for the missing 11. -/
def Reliability.code (r : Reliability) : UInt32 :=
  let i := Reliability.ctorIdx r
  UInt32.ofNat (if i ≤ 10 then i else i + 1)

structure StatusFlags where
  inAlarm : Bool
  fault : Bool
  overridden : Bool
  outOfService : Bool
  deriving DecidableEq, Repr

def StatusFlags.default : StatusFlags := ⟨false, false, false, false⟩

structure BitString where
  bits : List Bool
  deriving DecidableEq, Repr

inductive Weekday where
  | monday | tuesday | wednesday | thursday | friday | saturday | sunday | unspecified
  deriving DecidableEq, Repr

def Weekday.code : Weekday → UInt8
  | monday => 1
  | tuesday => 2
  | wednesday => 3
  | thursday => 4
  | friday => 5
  | saturday => 6
  | sunday => 7
  | unspecified => 255

structure BacnetDate where
  year : UInt16
  month : UInt8
  day : UInt8
  weekday : Weekday
  deriving DecidableEq, Repr

structure BacnetTime where
  hour : UInt8
  minute : UInt8
  second : UInt8
  hundredths : UInt8
  deriving DecidableEq, Repr

inductive PropertyValue where
  | null
  | boolean (v : Bool)
  | unsigned (v : UInt32)
  | integer (v : Int32)
  | real (v : F32)
  | double (v : F64)
  | octetString (data : Bytes)
  | characterString (s : String)
  | bitString (b : BitString)
  | enumerated (v : UInt32)
  | date (d : BacnetDate)
  | time (t : BacnetTime)
  | objectId (oid : ObjectId)
  | array (items : List PropertyValue)
  | list (items : List PropertyValue)
  | any (raw : Bytes)
  deriving Repr

namespace PropertyValue

def asF32 : PropertyValue → Option F32
  | real v => some v
  | double v => some (F32.ofF64 v)
  | unsigned v => some (F32.ofU32 v)
  | integer v => some (F32.ofI32 v)
  | _ => none

def asBool : PropertyValue → Option Bool
  | boolean v => some v
  | enumerated v => some (v != 0)
  | _ => none

mutual

/-- `==`, which on reals and doubles is that of numbers. -/
def eq : PropertyValue → PropertyValue → Bool
  | null, null => true
  | boolean v, boolean w => v == w
  | unsigned v, unsigned w => v == w
  | integer v, integer w => v == w
  | real v, real w => v.eq w
  | double v, double w => v.eq w
  | octetString data, octetString data' => data == data'
  | characterString s, characterString s' => s == s'
  | bitString b, bitString b' => b == b'
  | enumerated v, enumerated w => v == w
  | date d, date d' => d == d'
  | time t, time t' => t == t'
  | objectId oid, objectId oid' => oid == oid'
  | array items, array items' => eqItems items items'
  | list items, list items' => eqItems items items'
  | any raw, any raw' => raw == raw'
  | _, _ => false

def eqItems : List PropertyValue → List PropertyValue → Bool
  | [], [] => true
  | v :: items, w :: items' => v.eq w && eqItems items items'
  | _, _ => false

end

def IsPrimitive : PropertyValue → Prop
  | array _ | list _ | any _ => False
  | _ => True

/-- What the wire form of a primitive value has room for: one length octet, 22
bits of instance number, one octet of years since 1900. -/
def FitsWire : PropertyValue → Prop
  | octetString data => data.length ≤ 255
  | characterString s => (Utf8.octets s).length ≤ 254
  | bitString b => b.bits.length ≤ 2032
  | date d => 1900 ≤ d.year.toNat ∧ d.year.toNat ≤ 2155
  | objectId oid => Is22Bit oid.instanceNumber
  | _ => True

end PropertyValue

end BacnetSim
