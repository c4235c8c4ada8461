import BacnetSim.Object.Property

/-! The remaining object types (`multistate.rs`, `notification_class.rs`, `schedule.rs`,
`trend_log.rs`). -/
namespace BacnetSim
open PropertyValue

structure MultiStateInput where
  deviceId : DeviceId
  objectId : ObjectId
  objectName : String
  description : String
  presentValue : UInt32
  numberOfStates : UInt32
  stateText : List String
  outOfService : Bool
  statusFlags : StatusFlags
  eventState : EventState
  reliability : Reliability
  lastChanged : Instant
  deriving DecidableEq, Repr

namespace MultiStateInput

def new (now : Now) (deviceId : DeviceId) (instanceNumber : UInt32) (name : String)
    (numberOfStates : UInt32) : MultiStateInput where
  deviceId
  objectId := ⟨.multiStateInput, instanceNumber⟩
  objectName := name
  description := ""
  presentValue := 1
  numberOfStates
  stateText := (List.range numberOfStates.toNat).map fun i => s!"State {i + 1}"
  outOfService := false
  statusFlags := .default
  eventState := .normal
  reliability := .noFaultDetected
  lastChanged := now.instant

def readProperty (o : MultiStateInput) (propertyId : PropertyIdentifier) :
    Except BacnetError PropertyValue :=
  match propertyId with
  | .objectIdentifier => .ok (.objectId o.objectId)
  | .objectName => .ok (.characterString o.objectName)
  | .objectType => .ok (.enumerated (UInt32.ofNat ObjectType.multiStateInput.code))
  | .description => .ok (.characterString o.description)
  | .presentValue => .ok (.unsigned o.presentValue)
  | .numberOfStates => .ok (.unsigned o.numberOfStates)
  | .statusFlags => .ok (.bitString (statusFlagsBits o.statusFlags))
  | .eventState => .ok (.enumerated o.eventState.code)
  | .reliability => .ok (.enumerated o.reliability.code)
  | .outOfService => .ok (.boolean o.outOfService)
  | _ => .error .unknownProperty

def writeProperty (now : Now) (o : MultiStateInput) (propertyId : PropertyIdentifier)
    (value : PropertyValue) : Except BacnetError Unit × MultiStateInput :=
  match propertyId with
  | .outOfService => assign o value.boolean? fun v => { o with outOfService := v }
  | .presentValue =>
    if o.outOfService then
      match value with
      | .unsigned v =>
        if v ≥ 1 ∧ v ≤ o.numberOfStates then
          (.ok (), { o with presentValue := v, lastChanged := now.instant })
        else (.error .valueOutOfRange, o)
      | _ => (.error .invalidDataType, o)
    else (.error .writeAccessDenied, o)
  | _ => (.error .writeAccessDenied, o)

def changedSince (o : MultiStateInput) (since : Instant) : List PropertyIdentifier :=
  if since.nanos < o.lastChanged.nanos then [.presentValue] else []

def allProperties (o : MultiStateInput) : PropertyList :=
  [(.objectIdentifier, .objectId o.objectId),
    (.objectName, .characterString o.objectName),
    (.objectType, .enumerated (UInt32.ofNat ObjectType.multiStateInput.code)),
    (.description, .characterString o.description),
    (.presentValue, .unsigned o.presentValue),
    (.numberOfStates, .unsigned o.numberOfStates),
    (.statusFlags, .bitString (statusFlagsBits o.statusFlags)),
    (.eventState, .enumerated o.eventState.code),
    (.reliability, .enumerated o.reliability.code),
    (.outOfService, .boolean o.outOfService)]

instance : BacnetObject MultiStateInput where
  objectId := objectId
  deviceId := deviceId
  readProperty _ o p _ := o.readProperty p
  writeProperty now o p _ v _ := o.writeProperty now p v
  tick _ o _ _ := o
  changedSince := changedSince
  allProperties := allProperties

end MultiStateInput

structure NotificationClass where
  deviceId : DeviceId
  objectId : ObjectId
  objectName : String
  description : String
  priority : Vector UInt8 3
  ackRequired : Vector Bool 3
  notificationClass : UInt32
  deriving DecidableEq, Repr

namespace NotificationClass

def new (deviceId : DeviceId) (instanceNumber : UInt32) (name : String) : NotificationClass where
  deviceId
  objectId := ⟨.notificationClass, instanceNumber⟩
  objectName := name
  description := ""
  priority := #v[111, 111, 111]
  ackRequired := #v[false, false, false]
  notificationClass := instanceNumber

def readProperty (o : NotificationClass) (propertyId : PropertyIdentifier) :
    Except BacnetError PropertyValue :=
  match propertyId with
  | .objectIdentifier => .ok (.objectId o.objectId)
  | .objectName => .ok (.characterString o.objectName)
  | .objectType => .ok (.enumerated (UInt32.ofNat ObjectType.notificationClass.code))
  | .description => .ok (.characterString o.description)
  | .notificationClass => .ok (.unsigned o.notificationClass)
  | _ => .error .unknownProperty

def allProperties (o : NotificationClass) : PropertyList :=
  [(.objectIdentifier, .objectId o.objectId),
    (.objectName, .characterString o.objectName),
    (.objectType, .enumerated (UInt32.ofNat ObjectType.notificationClass.code)),
    (.description, .characterString o.description),
    (.notificationClass, .unsigned o.notificationClass)]

instance : BacnetObject NotificationClass where
  objectId := objectId
  deviceId := deviceId
  readProperty _ o p _ := o.readProperty p
  writeProperty _ o _ _ _ _ := (.error .writeAccessDenied, o)
  tick _ o _ _ := o
  changedSince _ _ := []
  allProperties := allProperties

end NotificationClass

structure TimeValue where
  timeOfDaySecs : UInt32
  value : PropertyValue
  deriving Repr

structure DailySchedule where
  slots : List TimeValue
  deriving Repr

/-- The loop over the slots: the last one that has started. -/
def DailySchedule.activeAt (d : DailySchedule) (timeOfDaySecs : UInt32) : Option PropertyValue :=
  d.slots.foldl (fun active slot =>
    if timeOfDaySecs ≥ slot.timeOfDaySecs then some slot.value else active) none

structure Schedule where
  deviceId : DeviceId
  objectId : ObjectId
  objectName : String
  description : String
  presentValue : PropertyValue
  outOfService : Bool
  weeklySchedule : Vector DailySchedule 7
  scheduleDefault : PropertyValue
  listOfObjectPropertyReferences : List (ObjectId × PropertyIdentifier)
  deriving Repr

namespace Schedule

def new (deviceId : DeviceId) (instanceNumber : UInt32) (name : String) : Schedule where
  deviceId
  objectId := ⟨.schedule, instanceNumber⟩
  objectName := name
  description := ""
  presentValue := .null
  outOfService := false
  weeklySchedule := Vector.replicate 7 ⟨[]⟩
  scheduleDefault := .null
  listOfObjectPropertyReferences := []

/-- Day 0 of the epoch is a Thursday; Monday is 0. -/
def evaluateAt (o : Schedule) (secsSinceEpoch : UInt64) : PropertyValue :=
  let dayOfWeek : Fin 7 := ⟨(secsSinceEpoch.toNat / 86400 + 3) % 7, Nat.mod_lt _ (by decide)⟩
  let timeOfDay := (secsSinceEpoch % 86400).toUInt32
  ((o.weeklySchedule.get dayOfWeek).activeAt timeOfDay).getD o.scheduleDefault

def readProperty (o : Schedule) (propertyId : PropertyIdentifier) :
    Except BacnetError PropertyValue :=
  match propertyId with
  | .objectIdentifier => .ok (.objectId o.objectId)
  | .objectName => .ok (.characterString o.objectName)
  | .objectType => .ok (.enumerated (UInt32.ofNat ObjectType.schedule.code))
  | .description => .ok (.characterString o.description)
  | .presentValue => .ok o.presentValue
  | .outOfService => .ok (.boolean o.outOfService)
  | .scheduleDefault => .ok o.scheduleDefault
  | _ => .error .unknownProperty

def writeProperty (o : Schedule) (propertyId : PropertyIdentifier) (value : PropertyValue) :
    Except BacnetError Unit × Schedule :=
  match propertyId with
  | .presentValue =>
    if o.outOfService then (.ok (), { o with presentValue := value })
    else (.error .writeAccessDenied, o)
  | .outOfService => assign o value.boolean? fun v => { o with outOfService := v }
  | .scheduleDefault => (.ok (), { o with scheduleDefault := value })
  | _ => (.error .writeAccessDenied, o)

def tick (o : Schedule) (now : SystemTime) : Schedule :=
  if o.outOfService then o
  else { o with presentValue := o.evaluateAt (UInt64.ofNat now.unixSecs) }

def allProperties (o : Schedule) : PropertyList :=
  [(.objectIdentifier, .objectId o.objectId),
    (.objectName, .characterString o.objectName),
    (.objectType, .enumerated (UInt32.ofNat ObjectType.schedule.code)),
    (.description, .characterString o.description),
    (.presentValue, o.presentValue),
    (.outOfService, .boolean o.outOfService),
    (.scheduleDefault, o.scheduleDefault)]

instance : BacnetObject Schedule where
  objectId := objectId
  deviceId := deviceId
  readProperty _ o p _ := o.readProperty p
  writeProperty _ o p _ v _ := o.writeProperty p v
  tick _ o now _ := o.tick now
  changedSince _ _ := []
  allProperties := allProperties

end Schedule

structure TrendLogEntry where
  timestamp : SystemTime
  value : PropertyValue
  deriving Repr

structure TrendLog where
  deviceId : DeviceId
  objectId : ObjectId
  objectName : String
  description : String
  enable : Bool
  logInterval : Duration
  bufferSize : Nat
  logBuffer : List TrendLogEntry
  monitoredObject : Option ObjectId
  monitoredProperty : Option PropertyIdentifier
  recordCount : UInt32
  totalRecordCount : UInt32
  outOfService : Bool
  lastSample : Instant
  deriving Repr

namespace TrendLog

def new (now : Now) (deviceId : DeviceId) (instanceNumber : UInt32) (name : String) :
    TrendLog where
  deviceId
  objectId := ⟨.trendLog, instanceNumber⟩
  objectName := name
  description := ""
  enable := true
  logInterval := .fromSecs 60
  bufferSize := 1000
  logBuffer := []
  monitoredObject := none
  monitoredProperty := none
  recordCount := 0
  totalRecordCount := 0
  outOfService := false
  lastSample := now.instant

def record (now : Now) (o : TrendLog) (value : PropertyValue) : TrendLog :=
  if !o.enable || o.outOfService then o
  else
    let kept := if o.logBuffer.length ≥ o.bufferSize then o.logBuffer.drop 1 else o.logBuffer
    let logBuffer := kept ++ [⟨now.system, value⟩]
    { o with
      logBuffer
      recordCount := UInt32.ofNat logBuffer.length
      totalRecordCount := UInt32.ofNat (min (o.totalRecordCount.toNat + 1) (2 ^ 32 - 1)) }

def readProperty (o : TrendLog) (propertyId : PropertyIdentifier) :
    Except BacnetError PropertyValue :=
  match propertyId with
  | .objectIdentifier => .ok (.objectId o.objectId)
  | .objectName => .ok (.characterString o.objectName)
  | .objectType => .ok (.enumerated (UInt32.ofNat ObjectType.trendLog.code))
  | .description => .ok (.characterString o.description)
  | .enable => .ok (.boolean o.enable)
  | .logInterval => .ok (.unsigned (UInt32.ofNat o.logInterval.asSecs))
  | .bufferSize => .ok (.unsigned (UInt32.ofNat o.bufferSize))
  | .recordCount => .ok (.unsigned o.recordCount)
  | .totalRecordCount => .ok (.unsigned o.totalRecordCount)
  | .outOfService => .ok (.boolean o.outOfService)
  | .stopWhenFull => .ok (.boolean false)
  | _ => .error .unknownProperty

def writeProperty (o : TrendLog) (propertyId : PropertyIdentifier) (value : PropertyValue) :
    Except BacnetError Unit × TrendLog :=
  match propertyId with
  | .enable => assign o value.boolean? fun v => { o with enable := v }
  | .outOfService => assign o value.boolean? fun v => { o with outOfService := v }
  | .recordCount =>
    -- any other value is accepted and ignored
    match value with
    | .unsigned 0 => (.ok (), { o with logBuffer := [], recordCount := 0 })
    | _ => (.ok (), o)
  | .logInterval => assign o value.unsigned? fun v => { o with logInterval := .fromSecs v.toNat }
  | _ => (.error .writeAccessDenied, o)

def tick (now : Now) (o : TrendLog) : TrendLog :=
  if !o.enable || o.outOfService then o
  else if now.instant.nanos - o.lastSample.nanos ≥ o.logInterval.nanos then
    { o with lastSample := now.instant }
  else o

def allProperties (o : TrendLog) : PropertyList :=
  [(.objectIdentifier, .objectId o.objectId),
    (.objectName, .characterString o.objectName),
    (.objectType, .enumerated (UInt32.ofNat ObjectType.trendLog.code)),
    (.description, .characterString o.description),
    (.enable, .boolean o.enable),
    (.bufferSize, .unsigned (UInt32.ofNat o.bufferSize)),
    (.logInterval, .unsigned (UInt32.ofNat o.logInterval.asSecs)),
    (.recordCount, .unsigned o.recordCount),
    (.totalRecordCount, .unsigned o.totalRecordCount),
    (.outOfService, .boolean o.outOfService),
    (.stopWhenFull, .boolean false)]

instance : BacnetObject TrendLog where
  objectId := objectId
  deviceId := deviceId
  readProperty _ o p _ := o.readProperty p
  writeProperty _ o p _ v _ := o.writeProperty p v
  tick now o _ _ := o.tick now
  changedSince _ _ := []
  allProperties := allProperties

end TrendLog

end BacnetSim
