import BacnetSim.Object.Analog

/-! Binary objects (`binary_input.rs`, `binary_output.rs`, `binary_value.rs`). -/
namespace BacnetSim
open PropertyValue

def boolCode (b : Bool) : UInt32 := if b then 1 else 0

structure BinaryInput where
  deviceId : DeviceId
  objectId : ObjectId
  objectName : String
  description : String
  presentValue : Bool
  statusFlags : StatusFlags
  eventState : EventState
  reliability : Reliability
  outOfService : Bool
  polarity : Bool
  lastChanged : Instant
  deriving DecidableEq, Repr

namespace BinaryInput

def new (now : Now) (deviceId : DeviceId) (instanceNumber : UInt32) (name : String) :
    BinaryInput where
  deviceId
  objectId := ⟨.binaryInput, instanceNumber⟩
  objectName := name
  description := ""
  presentValue := false
  statusFlags := .default
  eventState := .normal
  reliability := .noFaultDetected
  outOfService := false
  polarity := false
  lastChanged := now.instant

def readProperty (o : BinaryInput) (propertyId : PropertyIdentifier) :
    Except BacnetError PropertyValue :=
  match propertyId with
  | .objectIdentifier => .ok (.objectId o.objectId)
  | .objectName => .ok (.characterString o.objectName)
  | .objectType => .ok (.enumerated (UInt32.ofNat ObjectType.binaryInput.code))
  | .presentValue => .ok (.enumerated (boolCode o.presentValue))
  | .statusFlags => .ok (.bitString (statusFlagsBits o.statusFlags))
  | .eventState => .ok (.enumerated o.eventState.code)
  | .outOfService => .ok (.boolean o.outOfService)
  | .description => .ok (.characterString o.description)
  | _ => .error .unknownProperty

def writeProperty (now : Now) (o : BinaryInput) (propertyId : PropertyIdentifier)
    (value : PropertyValue) : Except BacnetError Unit × BinaryInput :=
  match propertyId with
  | .outOfService => assign o value.asBool fun v => { o with outOfService := v }
  | .presentValue =>
    if o.outOfService then
      assign o value.asBool fun v => { o with presentValue := v, lastChanged := now.instant }
    else (.error .writeAccessDenied, o)
  | _ => (.error .writeAccessDenied, o)

def changedSince (o : BinaryInput) (since : Instant) : List PropertyIdentifier :=
  if since.nanos ≤ o.lastChanged.nanos then [.presentValue] else []

def allProperties (o : BinaryInput) : PropertyList :=
  [(.objectIdentifier, .objectId o.objectId),
    (.objectName, .characterString o.objectName),
    (.objectType, .enumerated (UInt32.ofNat ObjectType.binaryInput.code)),
    (.presentValue, .enumerated (boolCode o.presentValue)),
    (.outOfService, .boolean o.outOfService),
    (.description, .characterString o.description)]

instance : BacnetObject BinaryInput where
  objectId := objectId
  deviceId := deviceId
  readProperty _ o p _ := o.readProperty p
  writeProperty now o p _ v _ := o.writeProperty now p v
  tick _ o _ _ := o
  changedSince := changedSince
  allProperties := allProperties

end BinaryInput

inductive BinaryPv where
  | inactive | active
  deriving DecidableEq, Repr

structure BinaryOutput where
  deviceId : DeviceId
  objectId : ObjectId
  objectName : String
  description : String
  outOfService : Bool
  statusFlags : StatusFlags
  eventState : EventState
  reliability : Reliability
  relinquishDefault : BinaryPv
  priorityArray : Vector (Option Bool) numPriorities
  lastChanged : Instant
  deriving DecidableEq, Repr

namespace BinaryOutput

def new (now : Now) (deviceId : DeviceId) (instanceNumber : UInt32) (name : String) :
    BinaryOutput where
  deviceId
  objectId := ⟨.binaryOutput, instanceNumber⟩
  objectName := name
  description := ""
  outOfService := false
  statusFlags := .default
  eventState := .normal
  reliability := .noFaultDetected
  relinquishDefault := .inactive
  priorityArray := Vector.replicate numPriorities none
  lastChanged := now.instant

def effectiveValue (o : BinaryOutput) : Bool :=
  (o.priorityArray.toList.findSome? id).getD (o.relinquishDefault == .active)

def readProperty (o : BinaryOutput) (propertyId : PropertyIdentifier) :
    Except BacnetError PropertyValue :=
  match propertyId with
  | .objectIdentifier => .ok (.objectId o.objectId)
  | .objectName => .ok (.characterString o.objectName)
  | .objectType => .ok (.enumerated (UInt32.ofNat ObjectType.binaryOutput.code))
  | .description => .ok (.characterString o.description)
  | .presentValue => .ok (.enumerated (boolCode o.effectiveValue))
  | .statusFlags => .ok (.bitString (statusFlagsBits o.statusFlags))
  | .eventState => .ok (.enumerated o.eventState.code)
  | .reliability => .ok (.enumerated o.reliability.code)
  | .outOfService => .ok (.boolean o.outOfService)
  | _ => .error .unknownProperty

/-- What a slot is set to; the outer option is whether the value is accepted. -/
def slotOf : PropertyValue → Option (Option Bool)
  | .null => some none
  | .enumerated v | .unsigned v => some (some (v != 0))
  | .boolean v => some (some v)
  | _ => none

def writeProperty (now : Now) (o : BinaryOutput) (propertyId : PropertyIdentifier)
    (value : PropertyValue) (priority : Option UInt8) : Except BacnetError Unit × BinaryOutput :=
  match propertyId with
  | .presentValue =>
    let pri := clampSlot (priority.getD 16).toNat
    assign o (slotOf value) fun slot =>
      { o with priorityArray := o.priorityArray.set pri slot, lastChanged := now.instant }
  | .outOfService => assign o value.boolean? fun v => { o with outOfService := v }
  | _ => (.error .writeAccessDenied, o)

def changedSince (o : BinaryOutput) (since : Instant) : List PropertyIdentifier :=
  if since.nanos < o.lastChanged.nanos then [.presentValue] else []

def allProperties (o : BinaryOutput) : PropertyList :=
  [(.objectIdentifier, .objectId o.objectId),
    (.objectName, .characterString o.objectName),
    (.objectType, .enumerated (UInt32.ofNat ObjectType.binaryOutput.code)),
    (.description, .characterString o.description),
    (.presentValue, .enumerated (boolCode o.effectiveValue)),
    (.statusFlags, .bitString (statusFlagsBits o.statusFlags)),
    (.eventState, .enumerated o.eventState.code),
    (.reliability, .enumerated o.reliability.code),
    (.outOfService, .boolean o.outOfService)]

instance : BacnetObject BinaryOutput where
  objectId := objectId
  deviceId := deviceId
  readProperty _ o p _ := o.readProperty p
  writeProperty now o p _ v pri := o.writeProperty now p v pri
  tick _ o _ _ := o
  changedSince := changedSince
  allProperties := allProperties

end BinaryOutput

structure BinaryValue where
  deviceId : DeviceId
  objectId : ObjectId
  objectName : String
  description : String
  presentValue : Bool
  outOfService : Bool
  statusFlags : StatusFlags
  eventState : EventState
  reliability : Reliability
  lastChanged : Instant
  deriving DecidableEq, Repr

namespace BinaryValue

def new (now : Now) (deviceId : DeviceId) (instanceNumber : UInt32) (name : String) :
    BinaryValue where
  deviceId
  objectId := ⟨.binaryValue, instanceNumber⟩
  objectName := name
  description := ""
  presentValue := false
  outOfService := false
  statusFlags := .default
  eventState := .normal
  reliability := .noFaultDetected
  lastChanged := now.instant

def readProperty (o : BinaryValue) (propertyId : PropertyIdentifier) :
    Except BacnetError PropertyValue :=
  match propertyId with
  | .objectIdentifier => .ok (.objectId o.objectId)
  | .objectName => .ok (.characterString o.objectName)
  | .objectType => .ok (.enumerated (UInt32.ofNat ObjectType.binaryValue.code))
  | .description => .ok (.characterString o.description)
  | .presentValue => .ok (.boolean o.presentValue)
  | .statusFlags => .ok (.bitString (statusFlagsBits o.statusFlags))
  | .eventState => .ok (.enumerated o.eventState.code)
  | .reliability => .ok (.enumerated o.reliability.code)
  | .outOfService => .ok (.boolean o.outOfService)
  | _ => .error .unknownProperty

def presentValueOf : PropertyValue → Option Bool
  | .boolean v => some v
  | .enumerated v | .unsigned v => some (v != 0)
  | _ => none

def writeProperty (now : Now) (o : BinaryValue) (propertyId : PropertyIdentifier)
    (value : PropertyValue) : Except BacnetError Unit × BinaryValue :=
  match propertyId with
  | .presentValue =>
    assign o (presentValueOf value) fun v =>
      { o with presentValue := v, lastChanged := now.instant }
  | .outOfService => assign o value.boolean? fun v => { o with outOfService := v }
  | _ => (.error .writeAccessDenied, o)

def changedSince (o : BinaryValue) (since : Instant) : List PropertyIdentifier :=
  if since.nanos < o.lastChanged.nanos then [.presentValue] else []

def allProperties (o : BinaryValue) : PropertyList :=
  [(.objectIdentifier, .objectId o.objectId),
    (.objectName, .characterString o.objectName),
    (.objectType, .enumerated (UInt32.ofNat ObjectType.binaryValue.code)),
    (.description, .characterString o.description),
    (.presentValue, .boolean o.presentValue),
    (.statusFlags, .bitString (statusFlagsBits o.statusFlags)),
    (.eventState, .enumerated o.eventState.code),
    (.reliability, .enumerated o.reliability.code),
    (.outOfService, .boolean o.outOfService)]

instance : BacnetObject BinaryValue where
  objectId := objectId
  deviceId := deviceId
  readProperty _ o p _ := o.readProperty p
  writeProperty now o p _ v _ := o.writeProperty now p v
  tick _ o _ _ := o
  changedSince := changedSince
  allProperties := allProperties

end BinaryValue

end BacnetSim
