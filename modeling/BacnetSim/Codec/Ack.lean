import BacnetSim.Encoding.Application
import BacnetSim.Encoding.Tags

/-! ComplexACK, SimpleACK and Error PDUs (`apdu/ack.rs`, `apdu/error.rs`).
An encoder is the list of octets it appends. -/
namespace BacnetSim
open Rust Tags

structure ReadPropertyAck where
  objectId : ObjectId
  propertyId : PropertyIdentifier
  arrayIndex : Option UInt32
  value : PropertyValue
  deriving Repr

structure PropertyResult where
  propertyId : PropertyIdentifier
  arrayIndex : Option UInt32
  value : Except BacnetError PropertyValue

structure ObjectPropertyResult where
  objectId : ObjectId
  propertyResults : List PropertyResult

inductive ComplexAckService where
  | readProperty (ack : ReadPropertyAck)
  | readPropertyMultiple (results : List ObjectPropertyResult)

structure ComplexAck where
  invokeId : UInt8
  service : ComplexAckService

/-- `if let Some(idx) = array_index { encode_ctx_u32(buf, tag, idx); }`. -/
def encodeArrayIndex (tag : UInt8) (arrayIndex : Option UInt32) : Bytes :=
  (arrayIndex.map (encodeCtxU32 tag)).getD []

def encodeReadPropertyAck (ack : ReadPropertyAck) : Bytes :=
  encodeCtxObjectId 0 ack.objectId ++ (encodeCtxU32 1 ack.propertyId.toU32 ++
    (encodeArrayIndex 2 ack.arrayIndex ++ (encodeOpeningTag 3 ++
      (valueOctets ack.value ++ encodeClosingTag 3))))

namespace ErrorClass

def code (c : ErrorClass) : Nat := ErrorClass.ctorIdx c

end ErrorClass

def errorClassCode : BacnetError → UInt32 × UInt32
  | .unknownObject => (1, 31)
  | .unknownProperty => (2, 32)
  | .writeAccessDenied => (2, 40)
  | .valueOutOfRange => (2, 37)
  | .invalidDataType => (2, 9)
  | .serviceError errorClass errorCode =>
    let ec := UInt32.ofNat errorClass.code
    let code := match errorCode with
      | .unknownObject => 31
      | .unknownProperty => 32
      | .writeAccessDenied => 40
      | .valueOutOfRange => 37
      | .invalidDataType => 9
      | .serviceRequestDenied => 29
      | .notConfigured => 140
      | .other v => v
    (ec, code)
  | _ => (5, 0)

def encodeOutcome : Except BacnetError PropertyValue → Bytes
  | .ok pv => encodeOpeningTag 4 ++ (valueOctets pv ++ encodeClosingTag 4)
  | .error e =>
    let (ec, code) := errorClassCode e
    encodeOpeningTag 5 ++ (encodeCtxU32 0 ec ++ (encodeCtxU32 1 code ++ encodeClosingTag 5))

def encodePropertyResult (prop : PropertyResult) : Bytes :=
  encodeCtxU32 2 prop.propertyId.toU32 ++ (encodeArrayIndex 3 prop.arrayIndex ++
    encodeOutcome prop.value)

def encodeObjectResult (r : ObjectPropertyResult) : Bytes :=
  encodeCtxObjectId 0 r.objectId ++ (encodeOpeningTag 1 ++
    (r.propertyResults.flatMap encodePropertyResult ++ encodeClosingTag 1))

def encodeRpmAck (results : List ObjectPropertyResult) : Bytes := results.flatMap encodeObjectResult

namespace ComplexAck

def encode (ack : ComplexAck) : Bytes :=
  [0x30, ack.invokeId] ++ match ack.service with
    | .readProperty ack => 12 :: encodeReadPropertyAck ack
    | .readPropertyMultiple results => 14 :: encodeRpmAck results

theorem encode_readProperty (invokeId : UInt8) (ack : ReadPropertyAck) :
    encode ⟨invokeId, .readProperty ack⟩ = [0x30, invokeId, 12] ++ encodeReadPropertyAck ack := rfl

/-- The body is not read: the source returns a fixed one. -/
def decode : Bytes → Result ComplexAck
  | pduType :: invokeId :: _ :: _ =>
    if pduType &&& 0xF0 != 0x30 then
      fail (.decodeError s!"expected ComplexACK, got {hex 2 pduType}")
    else
      .ok
        { invokeId
          service := .readProperty
            { objectId := ⟨.device, 0⟩
              propertyId := .objectIdentifier
              arrayIndex := none
              value := .null } }
  | _ => fail (.decodeError "complex ACK too short")

end ComplexAck

structure SimpleAck where
  invokeId : UInt8
  serviceChoice : UInt8
  deriving DecidableEq, Repr

def SimpleAck.encode (ack : SimpleAck) : Bytes := [0x20, ack.invokeId, ack.serviceChoice]

structure ErrorPdu where
  invokeId : UInt8
  service : UInt8
  errorClass : ErrorClass
  errorCode : ErrorCode
  deriving DecidableEq, Repr

namespace ErrorPdu

def errorCodeByte (e : ErrorPdu) : UInt8 :=
  match e.errorCode with
  | .unknownObject => 31
  | .unknownProperty => 32
  | .writeAccessDenied => 40
  | .invalidDataType => 9
  | .valueOutOfRange => 37
  | .serviceRequestDenied => 29
  | .notConfigured => 133
  | .other v => v.toUInt8

def encode (e : ErrorPdu) : Bytes :=
  [0x50, e.invokeId, e.service, 0x91, UInt8.ofNat e.errorClass.code, 0x91, e.errorCodeByte]

end ErrorPdu

end BacnetSim
