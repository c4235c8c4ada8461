import BacnetSim.Types.Basic

/-! Property identifiers and their numbers. -/
namespace BacnetSim

inductive PropertyIdentifier where
  | objectIdentifier | objectName | objectType | description | profileName
  | presentValue | statusFlags | eventState | reliability | outOfService | units
  | minPresentValue | maxPresentValue | covIncrement | timeDelay | notificationClass
  | highLimit | lowLimit | deadband | limitEnable | eventEnable | ackedTransitions
  | priorityArray | relinquishDefault
  | systemStatus | vendorName | localDate | localTime | utcOffset | daylightSavingsStatus
  | vendorIdentifier | modelName | firmwareRevision | applicationSoftwareVersion
  | protocolVersion | protocolRevision | protocolServicesSupported
  | protocolObjectTypesSupported | objectList | maxApduLengthAccepted
  | segmentationSupported | apduTimeout | numberOfApduRetries | maxMaster | maxInfoFrames
  | databaseRevision
  | numberOfStates | stateText
  | enable | logInterval | bufferSize | recordCount | totalRecordCount | startTime | stopTime
  | stopWhenFull | logDeviceObjectProperty
  | weeklySchedule | scheduleDefault | effectivePeriod | listOfObjectPropertyReferences
  | exceptionSchedule
  | propertyList
  | all | required | optional
  | unknown (v : UInt32)
  deriving DecidableEq, Repr

namespace PropertyIdentifier

def fromU32 (v : UInt32) : PropertyIdentifier :=
  match v.toNat with
  | 75 => objectIdentifier
  | 77 => objectName
  | 79 => objectType
  | 28 => description
  | 168 => profileName
  | 85 => presentValue
  | 111 => statusFlags
  | 36 => eventState
  | 103 => reliability
  | 81 => outOfService
  | 117 => units
  | 69 => minPresentValue
  | 65 => maxPresentValue
  | 22 => covIncrement
  | 113 => timeDelay
  | 17 => notificationClass
  | 45 => highLimit
  | 59 => lowLimit
  | 25 => deadband
  | 52 => limitEnable
  | 35 => eventEnable
  | 0 => ackedTransitions
  | 87 => priorityArray
  | 104 => relinquishDefault
  | 74 => numberOfStates
  | 110 => stateText
  | 133 => enable
  | 56 => localDate
  | 57 => localTime
  | 119 => utcOffset
  | 24 => daylightSavingsStatus
  | 132 => logInterval
  | 127 => bufferSize
  | 141 => recordCount
  | 145 => totalRecordCount
  | 142 => startTime
  | 143 => stopTime
  | 144 => stopWhenFull
  | 131 => logDeviceObjectProperty
  | 123 => weeklySchedule
  | 174 => scheduleDefault
  | 32 => effectivePeriod
  | 54 => listOfObjectPropertyReferences
  | 38 => exceptionSchedule
  | 112 => systemStatus
  | 121 => vendorName
  | 120 => vendorIdentifier
  | 70 => modelName
  | 44 => firmwareRevision
  | 12 => applicationSoftwareVersion
  | 98 => protocolVersion
  | 139 => protocolRevision
  | 97 => protocolServicesSupported
  | 96 => protocolObjectTypesSupported
  | 76 => objectList
  | 62 => maxApduLengthAccepted
  | 107 => segmentationSupported
  | 11 => apduTimeout
  | 73 => numberOfApduRetries
  | 64 => maxMaster
  | 63 => maxInfoFrames
  | 155 => databaseRevision
  | 371 => propertyList
  | 8 => all
  | 105 => required
  | 80 => optional
  | _ => unknown v

def toU32 : PropertyIdentifier → UInt32
  | objectIdentifier => 75
  | objectName => 77
  | objectType => 79
  | description => 28
  | profileName => 168
  | presentValue => 85
  | statusFlags => 111
  | eventState => 36
  | reliability => 103
  | outOfService => 81
  | units => 117
  | minPresentValue => 69
  | maxPresentValue => 65
  | covIncrement => 22
  | timeDelay => 113
  | notificationClass => 17
  | highLimit => 45
  | lowLimit => 59
  | deadband => 25
  | limitEnable => 52
  | eventEnable => 35
  | ackedTransitions => 0
  | priorityArray => 87
  | relinquishDefault => 104
  | numberOfStates => 74
  | stateText => 110
  | enable => 133
  | localDate => 56
  | localTime => 57
  | utcOffset => 119
  | daylightSavingsStatus => 24
  | logInterval => 132
  | bufferSize => 127
  | recordCount => 141
  | totalRecordCount => 145
  | startTime => 142
  | stopTime => 143
  | stopWhenFull => 144
  | logDeviceObjectProperty => 131
  | weeklySchedule => 123
  | scheduleDefault => 174
  | effectivePeriod => 32
  | listOfObjectPropertyReferences => 54
  | exceptionSchedule => 38
  | systemStatus => 112
  | vendorName => 121
  | vendorIdentifier => 120
  | modelName => 70
  | firmwareRevision => 44
  | applicationSoftwareVersion => 12
  | protocolVersion => 98
  | protocolRevision => 139
  | protocolServicesSupported => 97
  | protocolObjectTypesSupported => 96
  | objectList => 76
  | maxApduLengthAccepted => 62
  | segmentationSupported => 107
  | apduTimeout => 11
  | numberOfApduRetries => 73
  | maxMaster => 64
  | maxInfoFrames => 63
  | databaseRevision => 155
  | propertyList => 371
  | all => 8
  | required => 105
  | optional => 80
  | unknown v => v

@[simp] theorem toU32_fromU32 (v : UInt32) : (fromU32 v).toU32 = v := by
  unfold fromU32
  split <;> first | rfl | exact UInt32.toNat_inj.mp (by simp only [toU32, *]; rfl)

end PropertyIdentifier

end BacnetSim
