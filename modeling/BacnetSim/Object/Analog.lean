import BacnetSim.Object.Property

/-! Analog objects (`analog_input.rs`, `analog_output.rs`, `analog_value.rs`). -/
namespace BacnetSim
open Ieee754 PropertyValue

def zeroF32 : F32 := ⟨0⟩

def tenthF32 : F32 := ⟨0x3DCCCCCD⟩

structure AnalogInput where
  deviceId : DeviceId
  objectId : ObjectId
  objectName : String
  description : String
  presentValue : F32
  statusFlags : StatusFlags
  eventState : EventState
  reliability : Reliability
  outOfService : Bool
  units : EngineeringUnits
  minPresentValue : Option F32
  maxPresentValue : Option F32
  covIncrement : F32
  timeDelay : UInt32
  notificationClass : Option UInt32
  highLimit : Option F32
  lowLimit : Option F32
  deadband : F32
  profileName : Option String
  lastCovVal : F32
  lastChanged : Instant
  deriving DecidableEq, Repr

namespace AnalogInput

def new (now : Now) (deviceId : DeviceId) (instanceNumber : UInt32) (name : String)
    (units : EngineeringUnits) : AnalogInput where
  deviceId
  objectId := ⟨.analogInput, instanceNumber⟩
  objectName := name
  description := ""
  presentValue := zeroF32
  statusFlags := .default
  eventState := .normal
  reliability := .noFaultDetected
  outOfService := false
  units
  minPresentValue := none
  maxPresentValue := none
  covIncrement := tenthF32
  timeDelay := 0
  notificationClass := none
  highLimit := none
  lowLimit := none
  deadband := zeroF32
  profileName := none
  lastCovVal := zeroF32
  lastChanged := now.instant

def readProperty (o : AnalogInput) (propertyId : PropertyIdentifier) :
    Except BacnetError PropertyValue :=
  match propertyId with
  | .objectIdentifier => .ok (.objectId o.objectId)
  | .objectName => .ok (.characterString o.objectName)
  | .objectType => .ok (.enumerated (UInt32.ofNat ObjectType.analogInput.code))
  | .presentValue => .ok (.real o.presentValue)
  | .statusFlags => .ok (.bitString (statusFlagsBits o.statusFlags))
  | .eventState => .ok (.enumerated o.eventState.code)
  | .reliability => .ok (.enumerated o.reliability.code)
  | .outOfService => .ok (.boolean o.outOfService)
  | .units => .ok (.enumerated o.units.code)
  | .description => .ok (.characterString o.description)
  | .covIncrement => .ok (.real o.covIncrement)
  | .highLimit => (o.highLimit.map fun v => Except.ok (.real v)).getD (.error .unknownProperty)
  | .lowLimit => (o.lowLimit.map fun v => Except.ok (.real v)).getD (.error .unknownProperty)
  | _ => .error .unknownProperty

def writeProperty (now : Now) (o : AnalogInput) (propertyId : PropertyIdentifier)
    (value : PropertyValue) : Except BacnetError Unit × AnalogInput :=
  match propertyId with
  | .outOfService => assign o value.asBool fun v => { o with outOfService := v }
  | .presentValue =>
    if !o.outOfService then (.error .writeAccessDenied, o)
    else assign o value.asF32 fun v => { o with presentValue := v, lastChanged := now.instant }
  | .covIncrement => assign o value.asF32 fun v => { o with covIncrement := v }
  | .description => assign o value.characterString? fun s => { o with description := s }
  | _ => (.error .writeAccessDenied, o)

def changedSince (o : AnalogInput) (since : Instant) : List PropertyIdentifier :=
  if since.nanos ≤ o.lastChanged.nanos then [.presentValue, .statusFlags] else []

def allProperties (o : AnalogInput) : PropertyList :=
  [(.objectIdentifier, .objectId o.objectId),
    (.objectName, .characterString o.objectName),
    (.objectType, .enumerated (UInt32.ofNat ObjectType.analogInput.code)),
    (.presentValue, .real o.presentValue),
    (.statusFlags, .bitString (statusFlagsBits o.statusFlags)),
    (.eventState, .enumerated o.eventState.code),
    (.reliability, .enumerated o.reliability.code),
    (.outOfService, .boolean o.outOfService),
    (.units, .enumerated o.units.code),
    (.description, .characterString o.description),
    (.covIncrement, .real o.covIncrement)] ++
  (o.highLimit.map fun hi => (PropertyIdentifier.highLimit, PropertyValue.real hi)).toList ++
  (o.lowLimit.map fun lo => (PropertyIdentifier.lowLimit, PropertyValue.real lo)).toList

instance : BacnetObject AnalogInput where
  objectId := objectId
  deviceId := deviceId
  readProperty _ o p _ := o.readProperty p
  writeProperty now o p _ v _ := o.writeProperty now p v
  tick _ o _ _ := o
  changedSince := changedSince
  allProperties := allProperties

end AnalogInput

def numPriorities : Nat := 16

structure AnalogOutput where
  deviceId : DeviceId
  objectId : ObjectId
  objectName : String
  description : String
  presentValue : F32
  statusFlags : StatusFlags
  eventState : EventState
  reliability : Reliability
  outOfService : Bool
  units : EngineeringUnits
  priorityArray : Vector (Option F32) numPriorities
  relinquishDefault : F32
  covIncrement : F32
  lastChanged : Instant
  deriving DecidableEq, Repr

/-- `Some(v)` as the given constructor, `None` as `Null`. -/
def slotValue (slot : Option F32) : PropertyValue := (slot.map PropertyValue.real).getD .null

/-- `(idx as usize).saturating_sub(1).min(15)`. -/
def clampSlot (n : Nat) : Fin numPriorities := ⟨min (n - 1) (numPriorities - 1), by
  unfold numPriorities
  omega⟩

namespace AnalogOutput

def new (now : Now) (deviceId : DeviceId) (instanceNumber : UInt32) (name : String)
    (units : EngineeringUnits) : AnalogOutput where
  deviceId
  objectId := ⟨.analogOutput, instanceNumber⟩
  objectName := name
  description := ""
  presentValue := zeroF32
  statusFlags := .default
  eventState := .normal
  reliability := .noFaultDetected
  outOfService := false
  units
  priorityArray := Vector.replicate numPriorities none
  relinquishDefault := zeroF32
  covIncrement := tenthF32
  lastChanged := now.instant

def effectiveValue (o : AnalogOutput) : F32 :=
  (o.priorityArray.toList.findSome? id).getD o.relinquishDefault

def readProperty (o : AnalogOutput) (propertyId : PropertyIdentifier)
    (arrayIndex : Option UInt32) : Except BacnetError PropertyValue :=
  match propertyId with
  | .objectIdentifier => .ok (.objectId o.objectId)
  | .objectName => .ok (.characterString o.objectName)
  | .objectType => .ok (.enumerated (UInt32.ofNat ObjectType.analogOutput.code))
  | .presentValue => .ok (.real o.effectiveValue)
  | .statusFlags => .ok (.bitString (statusFlagsBits o.statusFlags))
  | .eventState => .ok (.enumerated o.eventState.code)
  | .outOfService => .ok (.boolean o.outOfService)
  | .units => .ok (.enumerated o.units.code)
  | .relinquishDefault => .ok (.real o.relinquishDefault)
  | .priorityArray =>
    match arrayIndex with
    | some idx => .ok (slotValue (o.priorityArray.get (clampSlot idx.toNat)))
    | none => .ok (.array (o.priorityArray.toList.map slotValue))
  | .description => .ok (.characterString o.description)
  | _ => .error .unknownProperty

/-- A `PresentValue` write at a priority in range: `Null` relinquishes the slot. -/
def command (now : Now) (o : AnalogOutput) (slot : Fin numPriorities) (value : PropertyValue) :
    Except BacnetError Unit × AnalogOutput :=
  let settle (entry : Option F32) : AnalogOutput :=
    let o := { o with priorityArray := o.priorityArray.set slot entry }
    { o with presentValue := o.effectiveValue, lastChanged := now.instant }
  match value with
  | .null => (.ok (), settle none)
  | value => assign o value.asF32 fun v => settle (some v)

def writeProperty (now : Now) (o : AnalogOutput) (propertyId : PropertyIdentifier)
    (value : PropertyValue) (priority : Option UInt8) : Except BacnetError Unit × AnalogOutput :=
  match propertyId with
  | .presentValue =>
    let pri := (priority.getD 16).toNat
    if inRange : 1 ≤ pri ∧ pri ≤ 16 then
      o.command now ⟨pri - 1, by
        unfold numPriorities
        omega⟩ value
    else (.error .valueOutOfRange, o)
  | .outOfService => assign o value.asBool fun v => { o with outOfService := v }
  | .description => assign o value.characterString? fun s => { o with description := s }
  | _ => (.error .writeAccessDenied, o)

def changedSince (o : AnalogOutput) (since : Instant) : List PropertyIdentifier :=
  if since.nanos ≤ o.lastChanged.nanos then [.presentValue] else []

def allProperties (o : AnalogOutput) : PropertyList :=
  [(.objectIdentifier, .objectId o.objectId),
    (.objectName, .characterString o.objectName),
    (.objectType, .enumerated (UInt32.ofNat ObjectType.analogOutput.code)),
    (.presentValue, .real o.effectiveValue),
    (.outOfService, .boolean o.outOfService),
    (.units, .enumerated o.units.code),
    (.relinquishDefault, .real o.relinquishDefault),
    (.description, .characterString o.description)]

instance : BacnetObject AnalogOutput where
  objectId := objectId
  deviceId := deviceId
  readProperty _ o p i := o.readProperty p i
  writeProperty now o p _ v pri := o.writeProperty now p v pri
  tick _ o _ _ := o
  changedSince := changedSince
  allProperties := allProperties

end AnalogOutput

structure AnalogValue where
  deviceId : DeviceId
  objectId : ObjectId
  objectName : String
  description : String
  presentValue : F32
  statusFlags : StatusFlags
  eventState : EventState
  reliability : Reliability
  outOfService : Bool
  units : EngineeringUnits
  covIncrement : F32
  lastChanged : Instant
  deriving DecidableEq, Repr

namespace AnalogValue

def new (now : Now) (deviceId : DeviceId) (instanceNumber : UInt32) (name : String)
    (units : EngineeringUnits) : AnalogValue where
  deviceId
  objectId := ⟨.analogValue, instanceNumber⟩
  objectName := name
  description := ""
  presentValue := zeroF32
  statusFlags := .default
  eventState := .normal
  reliability := .noFaultDetected
  outOfService := false
  units
  covIncrement := tenthF32
  lastChanged := now.instant

def readProperty (o : AnalogValue) (propertyId : PropertyIdentifier) :
    Except BacnetError PropertyValue :=
  match propertyId with
  | .objectIdentifier => .ok (.objectId o.objectId)
  | .objectName => .ok (.characterString o.objectName)
  | .objectType => .ok (.enumerated (UInt32.ofNat ObjectType.analogValue.code))
  | .description => .ok (.characterString o.description)
  | .presentValue => .ok (.real o.presentValue)
  | .statusFlags => .ok (.bitString (statusFlagsBits o.statusFlags))
  | .eventState => .ok (.enumerated o.eventState.code)
  | .reliability => .ok (.enumerated o.reliability.code)
  | .outOfService => .ok (.boolean o.outOfService)
  | .units => .ok (.enumerated o.units.code)
  | .covIncrement => .ok (.real o.covIncrement)
  | _ => .error .unknownProperty

def writeProperty (now : Now) (o : AnalogValue) (propertyId : PropertyIdentifier)
    (value : PropertyValue) : Except BacnetError Unit × AnalogValue :=
  match propertyId with
  | .presentValue =>
    assign o value.real? fun v => { o with presentValue := v, lastChanged := now.instant }
  | .outOfService => assign o value.boolean? fun v => { o with outOfService := v }
  | .description => assign o value.characterString? fun s => { o with description := s }
  | _ => (.error .writeAccessDenied, o)

def changedSince (o : AnalogValue) (since : Instant) : List PropertyIdentifier :=
  if since.nanos < o.lastChanged.nanos then [.presentValue] else []

def allProperties (o : AnalogValue) : PropertyList :=
  [(.objectIdentifier, .objectId o.objectId),
    (.objectName, .characterString o.objectName),
    (.objectType, .enumerated (UInt32.ofNat ObjectType.analogValue.code)),
    (.description, .characterString o.description),
    (.presentValue, .real o.presentValue),
    (.statusFlags, .bitString (statusFlagsBits o.statusFlags)),
    (.eventState, .enumerated o.eventState.code),
    (.reliability, .enumerated o.reliability.code),
    (.outOfService, .boolean o.outOfService),
    (.units, .enumerated o.units.code),
    (.covIncrement, .real o.covIncrement)]

instance : BacnetObject AnalogValue where
  objectId := objectId
  deviceId := deviceId
  readProperty _ o p _ := o.readProperty p
  writeProperty now o p _ v _ := o.writeProperty now p v
  tick _ o _ _ := o
  changedSince := changedSince
  allProperties := allProperties

end AnalogValue

end BacnetSim
