import BacnetSim.Object.Property

/-! Device objects and the UTC calendar (`device.rs`). -/
namespace BacnetSim

def isLeap (y : Nat) : Bool := (y % 4 == 0 && y % 100 != 0) || y % 400 == 0

def daysInYear (y : Nat) : Nat := if isLeap y then 366 else 365

/-- The year loop: the year reached, and the days left in it. -/
def yearOf (days year : Nat) : Nat × Nat :=
  if days < daysInYear year then (year, days)
  else yearOf (days - daysInYear year) (year + 1)
termination_by days
decreasing_by
  rename_i full
  have positive : 0 < daysInYear year := by
    unfold daysInYear
    split <;> decide
  omega

def monthLens (year : Nat) : List Nat :=
  [31, if isLeap year then 29 else 28, 31, 30, 31, 30, 31, 31, 30, 31, 30, 31]

/-- The month loop from month `i + 1` on: the month and the days left in it. When no
month is found the month stays 1. -/
def monthOf (days i : Nat) : List Nat → Nat × Nat
  | [] => (1, days)
  | ml :: rest => if days < ml then (i + 1, days) else monthOf (days - ml) (i + 1) rest

def weekdayOfEpochDay (day : Nat) : Weekday :=
  match (day + 3) % 7 with
  | 0 => .monday
  | 1 => .tuesday
  | 2 => .wednesday
  | 3 => .thursday
  | 4 => .friday
  | 5 => .saturday
  | _ => .sunday

def currentUtc (now : SystemTime) : BacnetDate × BacnetTime :=
  let secs := now.unixSecs
  let time : BacnetTime :=
    { hour := UInt8.ofNat (secs / 3600 % 24)
      minute := UInt8.ofNat (secs / 60 % 60)
      second := UInt8.ofNat (secs % 60)
      hundredths := 0 }
  let weekday := weekdayOfEpochDay (secs / 86400)
  -- `(secs / 86400) as u32`
  let (year, days) := yearOf (secs / 86400 % 2 ^ 32) 1970
  let (month, days) := monthOf days 0 (monthLens year)
  let date : BacnetDate :=
    { year := UInt16.ofNat year
      month := UInt8.ofNat month
      day := UInt8.ofNat (days + 1)
      weekday }
  (date, time)

structure DeviceObject where
  deviceId : DeviceId
  objectName : String
  vendorName : String
  vendorIdentifier : UInt16
  modelName : String
  firmwareRevision : String
  applicationSoftwareVersion : String
  description : String
  maxApduLengthAccepted : UInt16
  databaseRevision : UInt32
  objectList : List ObjectId
  deriving DecidableEq, Repr

def bitsSet (len : Nat) (set : List Nat) : BitString :=
  ⟨set.foldl (fun bits i => bits.set i true) (List.replicate len false)⟩

namespace DeviceObject

def cargoPkgVersion : String := "0.1.0"

def new (deviceId : DeviceId) (name : String) : DeviceObject where
  deviceId
  objectName := name
  vendorName := "bacnet-sim"
  vendorIdentifier := 999
  modelName := "bacnet-sim"
  firmwareRevision := cargoPkgVersion
  applicationSoftwareVersion := cargoPkgVersion
  description := ""
  maxApduLengthAccepted := 1476
  databaseRevision := 0
  objectList := [⟨.device, deviceId.id⟩]

def objectId (o : DeviceObject) : ObjectId := ⟨.device, o.deviceId.id⟩

def protocolServicesSupported : BitString := bitsSet 40 [5, 12, 14, 15, 26, 34]

def protocolObjectTypesSupported : BitString := bitsSet 32 [0, 3, 8]

def propertyNumbers : List UInt32 :=
  [112, 121, 120, 70, 44, 12, 98, 139, 97, 96, 76, 62, 107, 11, 73, 155, 28, 56, 57, 119, 24, 371]

/-- An array property by its optional index: 0 is the length, the others are 1-based. -/
def readArray (items : List PropertyValue) (arrayIndex : Option UInt32) :
    Except BacnetError PropertyValue :=
  match arrayIndex with
  | some i =>
    if i = 0 then .ok (.unsigned (UInt32.ofNat items.length))
    else
      match items[i.toNat - 1]? with
      | some item => .ok item
      | none => .error .valueOutOfRange
  | none => .ok (.array items)

def readProperty (now : Now) (o : DeviceObject) (propertyId : PropertyIdentifier)
    (arrayIndex : Option UInt32) : Except BacnetError PropertyValue :=
  match propertyId with
  | .objectIdentifier => .ok (.objectId o.objectId)
  | .objectName => .ok (.characterString o.objectName)
  | .objectType => .ok (.enumerated (UInt32.ofNat ObjectType.device.code))
  | .vendorName => .ok (.characterString o.vendorName)
  | .vendorIdentifier => .ok (.unsigned o.vendorIdentifier.toUInt32)
  | .modelName => .ok (.characterString o.modelName)
  | .firmwareRevision => .ok (.characterString o.firmwareRevision)
  | .applicationSoftwareVersion => .ok (.characterString o.applicationSoftwareVersion)
  | .protocolVersion => .ok (.unsigned 1)
  | .protocolRevision => .ok (.unsigned 22)
  | .maxApduLengthAccepted => .ok (.unsigned o.maxApduLengthAccepted.toUInt32)
  | .segmentationSupported => .ok (.enumerated 3)
  | .databaseRevision => .ok (.unsigned o.databaseRevision)
  | .systemStatus => .ok (.enumerated 0)
  | .description => .ok (.characterString o.description)
  | .objectList => readArray (o.objectList.map .objectId) arrayIndex
  | .apduTimeout => .ok (.unsigned 6000)
  | .numberOfApduRetries => .ok (.unsigned 3)
  | .protocolServicesSupported => .ok (.bitString protocolServicesSupported)
  | .protocolObjectTypesSupported => .ok (.bitString protocolObjectTypesSupported)
  | .localDate => .ok (.date (currentUtc now.system).1)
  | .localTime => .ok (.time (currentUtc now.system).2)
  | .utcOffset => .ok (.integer 0)
  | .daylightSavingsStatus => .ok (.boolean false)
  | .propertyList => readArray (propertyNumbers.map .enumerated) arrayIndex
  | _ => .error .unknownProperty

def allProperties (o : DeviceObject) : PropertyList :=
  [(.objectIdentifier, .objectId o.objectId),
    (.objectName, .characterString o.objectName),
    (.objectType, .enumerated (UInt32.ofNat ObjectType.device.code)),
    (.vendorName, .characterString o.vendorName),
    (.vendorIdentifier, .unsigned o.vendorIdentifier.toUInt32),
    (.modelName, .characterString o.modelName),
    (.firmwareRevision, .characterString o.firmwareRevision),
    (.protocolVersion, .unsigned 1),
    (.protocolRevision, .unsigned 22),
    (.maxApduLengthAccepted, .unsigned o.maxApduLengthAccepted.toUInt32),
    (.segmentationSupported, .enumerated 3),
    (.databaseRevision, .unsigned o.databaseRevision),
    (.systemStatus, .enumerated 0),
    (.description, .characterString o.description),
    (.apduTimeout, .unsigned 6000),
    (.numberOfApduRetries, .unsigned 3),
    (.objectList, .array (o.objectList.map .objectId)),
    (.protocolServicesSupported, .bitString protocolServicesSupported),
    (.protocolObjectTypesSupported, .bitString protocolObjectTypesSupported)]

instance : BacnetObject DeviceObject where
  objectId := objectId
  deviceId := deviceId
  readProperty := readProperty
  writeProperty _ o _ _ _ _ := (.error .writeAccessDenied, o)
  tick _ o _ _ := o
  changedSince _ _ := []
  allProperties := allProperties

end DeviceObject

end BacnetSim
