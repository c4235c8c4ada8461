import BacnetSim.Codec.Confirmed
import BacnetSim.Encoding.Asn1

/-! Unconfirmed-request PDUs (`apdu/unconfirmed.rs`). -/
namespace BacnetSim
open Rust Octets Asn1 Tags

inductive Segmentation where
  | both | transmit | receive | noSegmentation
  deriving DecidableEq, Repr

structure WhoIsRequest where
  lowLimit : Option UInt32
  highLimit : Option UInt32
  deriving DecidableEq, Repr

structure IAmRequest where
  deviceInstance : UInt32
  maxApduLengthAccepted : UInt16
  segmentationSupported : Segmentation
  vendorId : UInt16
  deriving DecidableEq, Repr

structure UnconfirmedCovNotification where
  subscriberProcessId : UInt32
  initiatingDevice : UInt32
  monitoredObject : ObjectId
  timeRemaining : UInt32
  listOfValues : List (PropertyIdentifier × PropertyValue)
  deriving Repr

inductive UnconfirmedRequest where
  | whoIs (req : WhoIsRequest)
  | iAm (req : IAmRequest)
  | unconfirmedCovNotification (req : UnconfirmedCovNotification)
  | timeSynchronization (datetime : Bytes)
  deriving Repr

namespace UnconfirmedRequest

def segmentationCode : Segmentation → UInt32
  | .both => 0
  | .transmit => 1
  | .receive => 2
  | .noSegmentation => 3

/-- The two services without a body here encode to nothing. -/
def encode : UnconfirmedRequest → Bytes
  | whoIs w =>
    [0x10, 0x08] ++ match w.lowLimit, w.highLimit with
      | some lo, some hi => encodeCtxU32 0 lo ++ encodeCtxU32 1 hi
      | _, _ => []
  | iAm i =>
    [0x10, 0x00] ++ encodeApplicationObjectId ⟨.device, i.deviceInstance⟩ ++
      encodeApplicationUnsigned i.maxApduLengthAccepted.toUInt32 ++
      [0x91, (segmentationCode i.segmentationSupported).toUInt8] ++
      encodeApplicationUnsigned i.vendorId.toUInt32
  | _ => []

/-- Only the device instance of an I-Am is read. -/
def decodeIAm (body : Bytes) : IAmRequest where
  deviceInstance :=
    match body with
    | 0xC4 :: b1 :: b2 :: b3 :: b4 :: _ => ofBe32 [b1, b2, b3, b4] &&& 0x3FFFFF
    | _ => 0
  maxApduLengthAccepted := 1476
  segmentationSupported := .noSegmentation
  vendorId := 999

def decodeWhoIs (body : Bytes) : Result WhoIsRequest := do
  let (lowLimit, pos) ← decodeOptional decodeCtxU32 body 0 0
  let (highLimit, _) ← decodeOptional decodeCtxU32 body pos 1
  .ok { lowLimit, highLimit }

def decode : Bytes → Result UnconfirmedRequest
  | pduType :: service :: body =>
    if pduType != 0x10 then
      fail (.decodeError s!"expected unconfirmed PDU type, got {hex 2 pduType}")
    else
      match service.toNat with
      | 0x08 => do .ok (.whoIs (← decodeWhoIs body))
      | 0x00 => .ok (.iAm (decodeIAm body))
      | _ => fail (.decodeError s!"unknown unconfirmed service {hex 2 service}")
  | _ => fail (.decodeError "unconfirmed PDU too short")

end UnconfirmedRequest

end BacnetSim
