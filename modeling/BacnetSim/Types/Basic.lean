import BacnetSim.Lib.Rust

/-! Identifiers, addresses and errors shared by every layer. -/
namespace BacnetSim
open Rust

abbrev Bytes := List UInt8

/-- Standard object types, declared in the order of their codes 0 to 60. -/
inductive ObjectType where
  | analogInput | analogOutput | analogValue | binaryInput | binaryOutput | binaryValue
  | calendar | command | device | eventEnrollment | file | group | loop
  | multiStateInput | multiStateOutput | notificationClass | program | schedule | averaging
  | multiStateValue | trendLog | lifeSafetyPoint | lifeSafetyZone | accumulator
  | pulseConverter | eventLog | globalGroup | trendLogMultiple | loadControl
  | structuredView | accessDoor | timer | accessCredential | accessPoint | accessRights
  | accessUser | accessZone | credentialDataInput | networkSecurity | bitStringValue
  | characterStringValue | datePatternValue | dateValue | dateTimePatternValue
  | dateTimeValue | integerValue | largeAnalogValue | octetStringValue
  | positiveIntegerValue | timePatternValue | timeValue | notificationForwarder
  | alertEnrollment | channel | lightingOutput | binaryLightingOutput | networkPort
  | elevatorGroup | escalator | lift | staging
  deriving DecidableEq, Repr

namespace ObjectType

def code (t : ObjectType) : Nat := ObjectType.ctorIdx t

def fromU16 (v : UInt16) : Option ObjectType :=
  match v.toNat with
  | 0 => some analogInput
  | 1 => some analogOutput
  | 2 => some analogValue
  | 3 => some binaryInput
  | 4 => some binaryOutput
  | 5 => some binaryValue
  | 8 => some device
  | 13 => some multiStateInput
  | 14 => some multiStateOutput
  | 15 => some notificationClass
  | 17 => some schedule
  | 20 => some trendLog
  | _ => none

theorem code_le (t : ObjectType) : t.code ≤ 60 := by
  cases t <;> decide

theorem code_injective {t u : ObjectType} (h : t.code = u.code) : t = u := by
  have same : ofNat t.code = ofNat u.code := congrArg ofNat h
  rwa [code, code, ofNat_ctorIdx, ofNat_ctorIdx] at same

theorem code_of_fromU16 {v : UInt16} {t : ObjectType} (h : fromU16 v = some t) :
    t.code = v.toNat := by
  unfold fromU16 at h
  split at h <;> cases h <;> rename_i hv <;> rw [hv] <;> rfl

def IsKnown (t : ObjectType) : Prop := (fromU16 (UInt16.ofNat t.code)).isSome

instance (t : ObjectType) : Decidable t.IsKnown := inferInstanceAs (Decidable (_ = true))

theorem IsKnown.lookup {t : ObjectType} (known : t.IsKnown) :
    fromU16 (UInt16.ofNat t.code) = some t := by
  obtain ⟨u, hu⟩ := Option.isSome_iff_exists.mp known
  have codes := code_of_fromU16 hu
  have bound := t.code_le
  rw [UInt16.toNat_ofNat', Nat.mod_eq_of_lt (by omega)] at codes
  rw [hu, code_injective codes]

end ObjectType

/-- Object instance numbers are 22 bits wide on the wire (at most 0x3FFFFF). -/
structure ObjectId where
  objectType : ObjectType
  instanceNumber : UInt32
  deriving DecidableEq, Repr

structure DeviceId where
  id : UInt32
  deriving DecidableEq, Repr

def Is22Bit (n : UInt32) : Prop := n.toNat < 2 ^ 22

instance (n : UInt32) : Decidable (Is22Bit n) := inferInstanceAs (Decidable (_ < _))

structure SocketAddrV4 where
  ip : UInt32
  port : UInt16
  deriving DecidableEq, Repr

inductive MacAddr where
  | ip (addr : SocketAddrV4)
  | msTp (station : UInt8)
  | sc (node : Vector UInt8 16)
  deriving DecidableEq, Repr

structure NetworkAddress where
  networkNumber : UInt16
  mac : MacAddr
  deriving DecidableEq, Repr

inductive ErrorClass where
  | device | object | property | resources | security | services | vt | communication
  deriving DecidableEq, Repr

inductive ErrorCode where
  | unknownObject | unknownProperty | writeAccessDenied | invalidDataType | valueOutOfRange
  | serviceRequestDenied | notConfigured
  | other (v : UInt32)
  deriving DecidableEq, Repr

inductive BacnetError where
  | unknownObject | unknownProperty | writeAccessDenied | valueOutOfRange | invalidDataType
  | decodeError (msg : String)
  | encodeError (msg : String)
  | unsupportedService
  | serviceError (errorClass : ErrorClass) (errorCode : ErrorCode)
  deriving DecidableEq, Repr

/-- The outcome of a call returning `Result<α, BacnetError>`, panics included. -/
abbrev Result (α : Type) := Res BacnetError α

/-- `format!("{b:#0widthx}")`: lower-case hexadecimal with its `0x`, zero-padded to `width`. -/
def hex (width : Nat) (b : UInt8) : String :=
  let digits := Nat.toDigits 16 b.toNat
  "0x" ++ String.ofList (List.replicate (width - 2 - digits.length) '0' ++ digits)

end BacnetSim
