import BacnetSim.Codec.Ack
import BacnetSim.Codec.Npdu
import BacnetSim.Codec.Unconfirmed
import BacnetSim.Object.Store

/-! The APDU dispatcher and its services (`dispatcher.rs`, `services/`). A handler returns
its result, the dispatcher it leaves and the frames it has sent. -/
namespace BacnetSim
open Rust

inductive Destination where
  | unicast (addr : NetworkAddress)
  | broadcast (networkNumber : UInt16)
  deriving DecidableEq, Repr

structure InboundFrame where
  src : NetworkAddress
  npdu : Bytes
  deriving DecidableEq, Repr

structure OutboundFrame where
  dst : Destination
  npdu : Bytes
  deriving DecidableEq, Repr

structure DeviceInfo where
  deviceId : DeviceId
  maxApdu : UInt16
  vendorId : UInt16
  vendorName : String
  modelName : String
  firmwareRevision : String
  description : String
  deriving DecidableEq, Repr

def DeviceInfo.new (deviceId : UInt32) : DeviceInfo where
  deviceId := ⟨deviceId⟩
  maxApdu := 1476
  vendorId := 999
  vendorName := "bacnet-sim"
  modelName := "bacnet-sim"
  firmwareRevision := "1.0.0"
  description := s!"Simulated device {deviceId}"

/-- `sourceDeviceMap` holds, for each client address, the last Device object it accessed. -/
structure ApduDispatcher (Obj : Type) where
  devices : HashMap UInt32 DeviceInfo
  store : ObjectStore Obj
  sourceDeviceMap : HashMap NetworkAddress DeviceId

/-- What the clocks show when a ReadPropertyMultiple reaches reference `j` of spec `i`.
The other services read them at `0 0`. -/
abbrev Clock := Nat → Nat → Now

section Services
variable {Obj : Type} [BacnetObject Obj] (hash : Hasher)

def handleReadProperty (now : Now) (req : ReadPropertyRequest) (store : ObjectStore Obj)
    (deviceId : DeviceId) : Result ComplexAck := do
  let obj ← okOr (store.get hash deviceId req.objectId) .unknownObject
  let value ← obj.readProperty now store req.propertyId req.arrayIndex
  let value ← ofExcept value
  .ok
    { invokeId := 0
      service := .readProperty
        { objectId := req.objectId
          propertyId := req.propertyId
          arrayIndex := req.arrayIndex
          value } }

def handleSpec (now : Nat → Now) (spec : ReadAccessSpec) (store : ObjectStore Obj)
    (deviceId : DeviceId) : Result ObjectPropertyResult :=
  let (objectId, props) := spec
  match store.get hash deviceId objectId with
  | none =>
    .ok
      { objectId
        propertyResults := props.map fun (propId, arrayIndex) =>
          ⟨propId, arrayIndex, .error .unknownObject⟩ }
  | some obj =>
    if props.any (·.1 == .all) then do
      let all ← obj.allProperties store
      .ok { objectId, propertyResults := all.map fun (pid, v) => ⟨pid, none, .ok v⟩ }
    else do
      let propertyResults ← props.zipIdx.mapM fun ((propId, arrayIndex), j) => do
        let value ← obj.readProperty (now j) store propId arrayIndex
        .ok ⟨propId, arrayIndex, value⟩
      .ok { objectId, propertyResults }

def handleReadPropertyMultiple (now : Clock) (specs : List ReadAccessSpec)
    (store : ObjectStore Obj) (deviceId : DeviceId) (invokeId : UInt8) : Result ComplexAck := do
  let results ← specs.zipIdx.mapM fun (spec, i) => handleSpec hash (now i) spec store deviceId
  .ok { invokeId, service := .readPropertyMultiple results }

def handleWriteProperty (now : Now) (req : WritePropertyRequest) (store : ObjectStore Obj)
    (deviceId : DeviceId) : Result Unit × ObjectStore Obj :=
  match store.get hash deviceId req.objectId with
  | none => (fail .unknownObject, store)
  | some obj =>
    match obj.writeProperty now store req.propertyId req.arrayIndex req.value req.priority with
    | .error f => (.error f, store)
    | .ok (result, store) => (ofExcept result, store)

/-- An I-Am when the device is in range; one limit alone is no limit. -/
def handleWhoIs (low high : Option UInt32) (deviceId : DeviceId) (maxApdu vendorId : UInt16) :
    Option UnconfirmedRequest :=
  let id := deviceId.id
  let inRange := match low, high with
    | some lo, some hi => id ≥ lo && id ≤ hi
    | _, _ => true
  if inRange then
    some (.iAm
      { deviceInstance := id
        maxApduLengthAccepted := maxApdu
        segmentationSupported := .noSegmentation
        vendorId })
  else none

end Services

def encodeErrorPdu (invokeId serviceChoice : UInt8) (e : BacnetError) : Bytes :=
  let (errorClass, errorCode) : ErrorClass × ErrorCode :=
    match e with
    | .unknownObject => (.object, .unknownObject)
    | .unknownProperty => (.property, .unknownProperty)
    | .writeAccessDenied => (.property, .writeAccessDenied)
    | .valueOutOfRange => (.property, .valueOutOfRange)
    | .invalidDataType => (.property, .invalidDataType)
    | .serviceError errorClass errorCode => (errorClass, errorCode)
    | _ => (.services, .other 0)
  ErrorPdu.encode { invokeId, service := serviceChoice, errorClass, errorCode }

/-- `match r { Ok(a) => Some(encoded), Err(e) => Some(encode_error_pdu(..)) }`. -/
def replyTo {α : Type} (r : Result α) (invokeId serviceChoice : UInt8) (encode : α → Bytes) :
    Result Bytes :=
  match r with
  | .ok a => .ok (encode a)
  | .error (.err e) => .ok (encodeErrorPdu invokeId serviceChoice e)
  | .error .panicked => .error .panicked

structure Handled (Obj : Type) where
  result : Result Unit
  dispatcher : ApduDispatcher Obj
  sent : List OutboundFrame

namespace ApduDispatcher
variable {Obj : Type}

def new (store : ObjectStore Obj) : ApduDispatcher Obj := ⟨∅, store, ∅⟩

def registerDevice (d : ApduDispatcher Obj) (info : DeviceInfo) : ApduDispatcher Obj :=
  { d with devices := AList.insert info.deviceId.id info d.devices }

def registerAll (devices : HashMap UInt32 DeviceInfo) (regs : List DeviceInfo) :
    HashMap UInt32 DeviceInfo :=
  regs.foldl (fun devices info => AList.insert info.deviceId.id info devices) devices

theorem foldl_registerDevice (regs : List DeviceInfo) (d : ApduDispatcher Obj) :
    regs.foldl registerDevice d = ⟨registerAll d.devices regs, d.store, d.sourceDeviceMap⟩ := by
  induction regs generalizing d with
  | nil => rfl
  | cons info regs ih => exact ih (d.registerDevice info)

theorem mem_registerAll (devices : HashMap UInt32 DeviceInfo) (regs : List DeviceInfo)
    (id : UInt32) :
    id ∈ registerAll devices regs ↔ id ∈ devices ∨ id ∈ regs.map (·.deviceId.id) := by
  induction regs generalizing devices with
  | nil => simp [registerAll]
  | cons info regs ih =>
    have rest := ih (AList.insert info.deviceId.id info devices)
    rw [AList.mem_insert] at rest
    rw [List.map_cons, List.mem_cons]
    exact rest.trans (by tauto)

def handleUnconfirmed (d : ApduDispatcher Obj) (req : UnconfirmedRequest) (src : NetworkAddress) :
    Handled Obj :=
  match req with
  | .whoIs w =>
    { result := .ok ()
      dispatcher := d
      sent := d.devices.values.flatMap fun dev =>
        match handleWhoIs w.lowLimit w.highLimit dev.deviceId dev.maxApdu dev.vendorId with
        | some iam =>
          let npdu := Npdu.encodeLocal false iam.encode
          [⟨.broadcast 0, npdu⟩, ⟨.unicast src, npdu⟩]
        | none => [] }
  | _ => { result := .ok (), dispatcher := d, sent := [] }

/-- `self.devices.values().next()`: the first device in the map's own order. -/
def firstDevice (d : ApduDispatcher Obj) : Result DeviceId :=
  okOr (d.devices.values.head?.map (·.deviceId)) .unknownObject

/-- The rules for a request's primary object: a Device names itself and is remembered
for the source; any other object belongs to the device remembered, or to the first one. -/
def resolveTarget (d : ApduDispatcher Obj) (targetOid : ObjectId) (src : NetworkAddress) :
    Result DeviceId × ApduDispatcher Obj :=
  if targetOid.objectType = .device then
    let devId := targetOid.instanceNumber
    if devId ∈ d.devices then
      (.ok ⟨devId⟩, { d with sourceDeviceMap := AList.insert src ⟨devId⟩ d.sourceDeviceMap })
    else (fail .unknownObject, d)
  else
    match AList.lookup src d.sourceDeviceMap with
    | some cached => (.ok cached, d)
    | none => (d.firstDevice, d)

def resolveDevice (d : ApduDispatcher Obj) (req : ConfirmedRequest) (src : NetworkAddress) :
    Result DeviceId × ApduDispatcher Obj :=
  match req.service with
  | .readProperty r => d.resolveTarget r.objectId src
  | .writeProperty w => d.resolveTarget w.objectId src
  | .readPropertyMultiple specs =>
    match specs.head? with
    | some spec => d.resolveTarget spec.1 src
    | none => (fail .unknownObject, d)
  | .subscribeCov _ => (d.firstDevice, d)

variable [BacnetObject Obj] (hash : Hasher)

def serve (now : Clock) (d : ApduDispatcher Obj) (req : ConfirmedRequest) (deviceId : DeviceId) :
    Result Bytes × ApduDispatcher Obj :=
  let invokeId := req.invokeId
  match req.service with
  | .readProperty r =>
    (replyTo (handleReadProperty hash (now 0 0) r d.store deviceId) invokeId 12
      fun ack => { ack with invokeId }.encode, d)
  | .readPropertyMultiple specs =>
    (do
      let ack ← handleReadPropertyMultiple hash now specs d.store deviceId invokeId
      .ok ack.encode, d)
  | .writeProperty w =>
    let (result, store) := handleWriteProperty hash (now 0 0) w d.store deviceId
    (replyTo result invokeId 15 fun _ => SimpleAck.encode ⟨invokeId, 15⟩, { d with store })
  | .subscribeCov _ => (.ok (SimpleAck.encode ⟨invokeId, 5⟩), d)

def handleConfirmed (now : Clock) (d : ApduDispatcher Obj) (req : ConfirmedRequest)
    (src : NetworkAddress) : Handled Obj :=
  match d.resolveDevice req src with
  | (.error f, dispatcher) => { result := .error f, dispatcher, sent := [] }
  | (.ok deviceId, d) =>
    match d.serve hash now req deviceId with
    | (.error f, dispatcher) => { result := .error f, dispatcher, sent := [] }
    | (.ok apdu, dispatcher) =>
      { result := .ok (), dispatcher, sent := [⟨.unicast src, Npdu.encodeLocal false apdu⟩] }

/-- A decode error is logged and ends the handler; a panic goes on. -/
def onDecoded {α : Type} (d : ApduDispatcher Obj) (decoded : Result α) (handle : α → Handled Obj) :
    Handled Obj :=
  match decoded with
  | .ok a => handle a
  | .error (.err _) => { result := .ok (), dispatcher := d, sent := [] }
  | .error .panicked => { result := .error .panicked, dispatcher := d, sent := [] }

def handleFrame (now : Clock) (d : ApduDispatcher Obj) (frame : InboundFrame) : Handled Obj :=
  match Npdu.decode frame.npdu with
  | .error f => { result := .error f, dispatcher := d, sent := [] }
  | .ok npdu =>
    if npdu.control.networkMessage then { result := .ok (), dispatcher := d, sent := [] }
    else
      match npdu.apdu with
      | [] => { result := .ok (), dispatcher := d, sent := [] }
      | first :: rest =>
        if first &&& 0xF0 = 0x00 then
          onDecoded d (ConfirmedRequest.decode (first :: rest)) fun req =>
            d.handleConfirmed hash now req frame.src
        else if first &&& 0xF0 = 0x10 then
          onDecoded d (UnconfirmedRequest.decode (first :: rest)) fun req =>
            d.handleUnconfirmed req frame.src
        else { result := .ok (), dispatcher := d, sent := [] }

end ApduDispatcher

end BacnetSim
