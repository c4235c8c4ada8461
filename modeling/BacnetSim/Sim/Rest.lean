import BacnetSim.Lib.Widening
import BacnetSim.Object.Object
import BacnetSim.Object.Store

/-! The management API (`rest.rs`): its handlers on the shared store, and the objects that it
lists. HTTP itself, the metrics and the scenario routes are left out. -/
namespace BacnetSim
open Rust Ieee754

/-- The derived `Debug` names, in the order of the variants. -/
def ObjectType.names : List String :=
  ["AnalogInput", "AnalogOutput", "AnalogValue", "BinaryInput", "BinaryOutput", "BinaryValue",
    "Calendar", "Command", "Device", "EventEnrollment", "File", "Group", "Loop",
    "MultiStateInput", "MultiStateOutput", "NotificationClass", "Program", "Schedule",
    "Averaging", "MultiStateValue", "TrendLog", "LifeSafetyPoint", "LifeSafetyZone",
    "Accumulator", "PulseConverter", "EventLog", "GlobalGroup", "TrendLogMultiple",
    "LoadControl", "StructuredView", "AccessDoor", "Timer", "AccessCredential", "AccessPoint",
    "AccessRights", "AccessUser", "AccessZone", "CredentialDataInput", "NetworkSecurity",
    "BitStringValue", "CharacterStringValue", "DatePatternValue", "DateValue",
    "DateTimePatternValue", "DateTimeValue", "IntegerValue", "LargeAnalogValue",
    "OctetStringValue", "PositiveIntegerValue", "TimePatternValue", "TimeValue",
    "NotificationForwarder", "AlertEnrollment", "Channel", "LightingOutput",
    "BinaryLightingOutput", "NetworkPort", "ElevatorGroup", "Escalator", "Lift", "Staging"]

def ObjectType.debugName (t : ObjectType) : String := names.getD t.code ""

def PropertyIdentifier.names : List String :=
  ["ObjectIdentifier", "ObjectName", "ObjectType", "Description", "ProfileName", "PresentValue",
    "StatusFlags", "EventState", "Reliability", "OutOfService", "Units", "MinPresentValue",
    "MaxPresentValue", "CovIncrement", "TimeDelay", "NotificationClass", "HighLimit", "LowLimit",
    "Deadband", "LimitEnable", "EventEnable", "AckedTransitions", "PriorityArray",
    "RelinquishDefault", "SystemStatus", "VendorName", "LocalDate", "LocalTime", "UtcOffset",
    "DaylightSavingsStatus", "VendorIdentifier", "ModelName", "FirmwareRevision",
    "ApplicationSoftwareVersion", "ProtocolVersion", "ProtocolRevision",
    "ProtocolServicesSupported", "ProtocolObjectTypesSupported", "ObjectList",
    "MaxApduLengthAccepted", "SegmentationSupported", "ApduTimeout", "NumberOfApduRetries",
    "MaxMaster", "MaxInfoFrames", "DatabaseRevision", "NumberOfStates", "StateText", "Enable",
    "LogInterval", "BufferSize", "RecordCount", "TotalRecordCount", "StartTime", "StopTime",
    "StopWhenFull", "LogDeviceObjectProperty", "WeeklySchedule", "ScheduleDefault",
    "EffectivePeriod", "ListOfObjectPropertyReferences", "ExceptionSchedule", "PropertyList",
    "All", "Required", "Optional"]

def PropertyIdentifier.debugName : PropertyIdentifier → String
  | unknown v => s!"Unknown({v})"
  | p => names.getD p.ctorIdx ""

/-- `serde_json::Value`, for any type of numbers. -/
inductive Json (N : Type) where
  | null
  | bool (b : Bool)
  | number (n : N)
  | string (s : String)
  | array (items : List (Json N))
  | object (fields : List (String × Json N))

/-- `serde_json::Number`. A float that is not finite has none. -/
class JsonNumber (N : Type) where
  ofU32 : UInt32 → N
  ofI32 : Int32 → N
  ofF32 : F32 → Option N
  ofF64 : F64 → Option N
  asF64 : N → Option F64

inductive SerdeNumber where
  | posInt (n : UInt64)
  | negInt (n : Int64)
  | float (f : F64)
  deriving DecidableEq, Repr

instance : JsonNumber SerdeNumber where
  ofU32 n := .posInt n.toUInt64
  ofI32 n := if n < 0 then .negInt n.toInt64 else .posInt n.toInt64.toUInt64
  ofF32 f := if f.isFinite then some (.float (.ofF32 f)) else none
  ofF64 f := if f.isFinite then some (.float f) else none
  asF64
    | .posInt n => some (roundF64 false n.toNat 0)
    | .negInt n => some (roundF64 (n < 0) n.toInt.natAbs 0)
    | .float f => some f

/-- The texts that other code makes: `str::to_lowercase`, and two `Debug` formats. -/
structure ApiText (N : Type) where
  lowercase : String → String
  debugError : BacnetError → String
  debugJson : Json N → String

inductive StatusCode where
  | badRequest | notFound
  deriving DecidableEq, Repr

structure ApiError where
  status : StatusCode
  message : String
  deriving DecidableEq, Repr

section Conversions
variable {N : Type} [JsonNumber N]

def Json.ofFloat : Option N → Json N
  | some n => .number n
  | none => .null

mutual

def propertyToJson : PropertyValue → Json N
  | .null => .null
  | .boolean b => .bool b
  | .unsigned n => .number (JsonNumber.ofU32 n)
  | .integer n => .number (JsonNumber.ofI32 n)
  | .real f => .ofFloat (JsonNumber.ofF32 f)
  | .double f => .ofFloat (JsonNumber.ofF64 f)
  | .characterString s => .string s
  | .enumerated n => .number (JsonNumber.ofU32 n)
  | .objectId o =>
    .object [("type", .string o.objectType.debugName),
      ("instance", .number (JsonNumber.ofU32 o.instanceNumber))]
  | .array items | .list items => .array (propertiesToJson items)
  | _ => .string "<binary>"

def propertiesToJson : List PropertyValue → List (Json N)
  | [] => []
  | v :: items => propertyToJson v :: propertiesToJson items

end

def jsonToPropertyValue (text : ApiText N) : Json N → Except String PropertyValue
  | .null => .ok .null
  | .bool b => .ok (.boolean b)
  | .number n =>
    match JsonNumber.asF64 n with
    | some f => .ok (.real (F32.ofF64 f))
    | none => .error "Expected numeric value"
  | .string s => .ok (.characterString s)
  | v => .error s!"Unsupported JSON value type: {text.debugJson v}"

end Conversions

/-- `s.to_lowercase().replace('-', "_")`. -/
def pathName (lowercase : String → String) (s : String) : String :=
  String.ofList ((lowercase s).toList.map fun c => if c = '-' then '_' else c)

namespace Rest

def parseObjectType (lowercase : String → String) (s : String) : Res ApiError ObjectType :=
  match pathName lowercase s with
  | "analog_input" | "analoginput" => .ok .analogInput
  | "analog_output" | "analogoutput" => .ok .analogOutput
  | "analog_value" | "analogvalue" => .ok .analogValue
  | "binary_input" | "binaryinput" => .ok .binaryInput
  | "binary_output" | "binaryoutput" => .ok .binaryOutput
  | "binary_value" | "binaryvalue" => .ok .binaryValue
  | "device" => .ok .device
  | "multi_state_input" | "multistateinput" => .ok .multiStateInput
  | "multi_state_output" | "multistateoutput" => .ok .multiStateOutput
  | "multi_state_value" | "multistatevalue" => .ok .multiStateValue
  | "notification_class" | "notificationclass" => .ok .notificationClass
  | "schedule" => .ok .schedule
  | "trend_log" | "trendlog" => .ok .trendLog
  | _ => fail ⟨.badRequest, s!"Unknown object type: {s}"⟩

def parsePropertyId (lowercase : String → String) (s : String) : Res ApiError PropertyIdentifier :=
  match pathName lowercase s with
  | "present_value" | "presentvalue" => .ok .presentValue
  | "object_name" | "objectname" => .ok .objectName
  | "description" => .ok .description
  | "out_of_service" | "outofservice" => .ok .outOfService
  | "units" => .ok .units
  | "status_flags" | "statusflags" => .ok .statusFlags
  | _ => fail ⟨.badRequest, s!"Unknown property: {s}"⟩

structure AppState (Obj : Type) where
  store : ObjectStore Obj
  deviceIds : List UInt32

structure DeviceListItem where
  id : UInt32
  objectCount : Nat
  deriving DecidableEq, Repr

structure ObjectListItem where
  objectType : String
  inst : UInt32
  deriving DecidableEq, Repr

structure ObjectDetail (N : Type) where
  objectType : String
  inst : UInt32
  properties : HashMap String (Json N)

namespace AppState
variable {Obj N : Type}

def new (store : ObjectStore Obj) : AppState Obj := ⟨store, []⟩

def registerDevice (s : AppState Obj) (id : UInt32) : AppState Obj :=
  if id ∈ s.deviceIds then s else { s with deviceIds := s.deviceIds ++ [id] }

variable [BacnetObject Obj] [JsonNumber N] (hash : Hasher) (now : Now) (text : ApiText N)

def readDevice (s : AppState Obj) (dev : DeviceId) (p : PropertyIdentifier) (i : Option UInt32) :
    Res ApiError (Option PropertyValue) :=
  match s.store.get hash dev ⟨.device, dev.id⟩ with
  | some r =>
    match r.readProperty now s.store p i with
    | .ok (.ok v) => .ok (some v)
    | .ok (.error _) => .ok none
    | .error _ => .error .panicked
  | none => .ok none

def countObjectsForDevice (s : AppState Obj) (dev : DeviceId) : Res ApiError Nat := do
  match ← s.readDevice hash now dev .objectList (some 0) with
  | some (.unsigned n) => .ok n.toNat
  | _ => .ok 0

def collectObjects (s : AppState Obj) (dev : DeviceId) : Res ApiError (List ObjectListItem) := do
  match ← s.readDevice hash now dev .objectList none with
  | some (.array list) =>
    .ok (list.filterMap fun
      | .objectId o => some ⟨o.objectType.debugName, o.instanceNumber⟩
      | _ => none)
  | _ => .ok []

def listDevices (s : AppState Obj) : Res ApiError (List DeviceListItem) :=
  s.deviceIds.mapM fun id => do
    let count ← s.countObjectsForDevice hash now ⟨id⟩
    .ok ⟨id, count⟩

def getDevice (s : AppState Obj) (id : UInt32) : Res ApiError DeviceListItem :=
  if id ∈ s.deviceIds then do
    let count ← s.countObjectsForDevice hash now ⟨id⟩
    .ok ⟨id, count⟩
  else fail ⟨.notFound, s!"Device {id} not found"⟩

def listObjects (s : AppState Obj) (id : UInt32) : Res ApiError (List ObjectListItem) :=
  if id ∈ s.deviceIds then s.collectObjects hash now ⟨id⟩
  else fail ⟨.notFound, s!"Device {id} not found"⟩

def getObject (s : AppState Obj) (devId : UInt32) (objType : String) (inst : UInt32) :
    Res ApiError (ObjectDetail N) := do
  let otype ← parseObjectType text.lowercase objType
  let r ← okOr (s.store.get hash ⟨devId⟩ ⟨otype, inst⟩)
    ⟨.notFound, s!"Object {objType}/{inst} on device {devId} not found"⟩
  match r.allProperties s.store with
  | .ok properties =>
    .ok
      { objectType := objType
        inst
        properties := properties.foldl
          (fun m entry => AList.insert entry.1.debugName (propertyToJson entry.2) m) ∅ }
  | .error _ => .error .panicked

/-- `PUT`: the answer is empty. -/
def writeProperty (s : AppState Obj) (devId : UInt32) (objType : String) (inst : UInt32)
    (prop : String) (value : Json N) : Res ApiError Unit × AppState Obj :=
  let parsed : Res ApiError (ObjectRef × PropertyIdentifier × PropertyValue) := do
    let otype ← parseObjectType text.lowercase objType
    let pid ← parsePropertyId text.lowercase prop
    let r ← okOr (s.store.get hash ⟨devId⟩ ⟨otype, inst⟩) ⟨.notFound, "Object not found"⟩
    match jsonToPropertyValue text value with
    | .ok pv => .ok (r, pid, pv)
    | .error e => fail ⟨.badRequest, e⟩
  match parsed with
  | .error f => (.error f, s)
  | .ok (r, pid, pv) =>
    match r.forceWriteProperty now s.store pid pv with
    | .ok (.ok (), store) => (.ok (), { s with store })
    | .ok (.error e, store) => (fail ⟨.badRequest, text.debugError e⟩, { s with store })
    | .error _ => (.error .panicked, s)

end AppState

end Rest

end BacnetSim
