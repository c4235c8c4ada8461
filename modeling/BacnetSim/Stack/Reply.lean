import BacnetSim.Object.Device
import BacnetSim.Stack.Dispatcher

/-! When a confirmed request is answered, and by what. -/
namespace BacnetSim
open Rust

variable {Obj : Type}

inductive IsReply (invokeId : UInt8) : Bytes → Prop
  | simpleAck (serviceChoice : UInt8) : IsReply invokeId (SimpleAck.encode ⟨invokeId, serviceChoice⟩)
  | complexAck (service : ComplexAckService) : IsReply invokeId (ComplexAck.encode ⟨invokeId, service⟩)
  | error (service : UInt8) (errorClass : ErrorClass) (errorCode : ErrorCode) :
    IsReply invokeId (ErrorPdu.encode ⟨invokeId, service, errorClass, errorCode⟩)

theorem even_flatMap {α β : Type} {f : α → List β} (each : ∀ a, (f a).length % 2 = 0) (l : List α) :
    (l.flatMap f).length % 2 = 0 := by
  induction l with
  | nil => rfl
  | cons a l ih => rw [List.flatMap_cons, List.length_append, Nat.add_mod, each a, ih]

namespace ApduDispatcher

/-- Some device answers for the object: a Device that is registered, or any other object
of a source with a remembered device or with some device to fall back to. -/
def Routes (d : ApduDispatcher Obj) (src : NetworkAddress) (oid : ObjectId) : Prop :=
  if oid.objectType = .device then oid.instanceNumber ∈ d.devices
  else src ∈ d.sourceDeviceMap ∨ ∃ id, id ∈ d.devices

/-- The request has a primary object that some device answers for; a SubscribeCOV needs
any device. -/
def Resolvable (d : ApduDispatcher Obj) (src : NetworkAddress) : ConfirmedServiceRequest → Prop
  | .readProperty r => d.Routes src r.objectId
  | .writeProperty w => d.Routes src w.objectId
  | .readPropertyMultiple specs => ∃ spec, specs.head? = some spec ∧ d.Routes src spec.1
  | .subscribeCov _ => ∃ id, id ∈ d.devices

theorem firstDevice_ok_iff (d : ApduDispatcher Obj) :
    (∃ device, d.firstDevice = .ok device) ↔ ∃ id, id ∈ d.devices := by
  unfold firstDevice HashMap.values
  cases listed : d.devices.entries with
  | nil =>
    constructor
    · rintro ⟨device, found⟩
      cases found
    · rintro ⟨id, mem⟩
      rw [AList.mem_keys, AList.keys, listed] at mem
      cases mem
  | cons entry rest =>
    constructor
    · intro _
      refine ⟨entry.1, ?_⟩
      rw [AList.mem_keys, AList.keys, listed]
      exact List.mem_cons_self
    · intro _
      exact ⟨_, rfl⟩

theorem resolveTarget_ok_iff (d : ApduDispatcher Obj) (oid : ObjectId) (src : NetworkAddress) :
    (∃ device, (d.resolveTarget oid src).1 = .ok device) ↔ d.Routes src oid := by
  unfold resolveTarget Routes
  by_cases device : oid.objectType = .device
  · rw [if_pos device, if_pos device]
    by_cases known : oid.instanceNumber ∈ d.devices
    · simp [known]
    · simp [known, fail]
  · rw [if_neg device, if_neg device, ← firstDevice_ok_iff]
    cases cached : AList.lookup src d.sourceDeviceMap with
    | some id =>
      have mem : src ∈ d.sourceDeviceMap := AList.lookup_isSome.mp (by rw [cached]; rfl)
      simp [mem]
    | none =>
      have fresh : src ∉ d.sourceDeviceMap := AList.lookup_eq_none.mp cached
      simp [fresh]

theorem resolveDevice_ok_iff (d : ApduDispatcher Obj) (req : ConfirmedRequest)
    (src : NetworkAddress) :
    (∃ device, (d.resolveDevice req src).1 = .ok device) ↔ d.Resolvable src req.service := by
  unfold resolveDevice Resolvable
  cases req.service with
  | readProperty r => exact d.resolveTarget_ok_iff r.objectId src
  | writeProperty w => exact d.resolveTarget_ok_iff w.objectId src
  | subscribeCov s => exact d.firstDevice_ok_iff
  | readPropertyMultiple specs =>
    cases specs with
    | nil => simp [fail]
    | cons spec rest => simpa using d.resolveTarget_ok_iff spec.1 src

end ApduDispatcher

section Serve
variable [BacnetObject Obj] (hash : Hasher)

omit [BacnetObject Obj] in
theorem object_of_get {hash : Hasher} {store : ObjectStore Obj} {device : DeviceId} {objId : ObjectId}
    {r : ObjectRef} (found : store.get hash device objId = some r) :
    ∃ o, store.lookup hash device objId = some o ∧ r.object store = .ok o := by
  rw [ObjectStore.get_eq] at found
  split at found
  · rename_i stored
    obtain ⟨o, held⟩ := Option.isSome_iff_exists.mp stored
    cases found
    exact ⟨o, held, ObjectStore.object_shardKey hash held⟩
  · cases found

theorem replyTo_isReply {α : Type} {r : Result α} {invokeId serviceChoice : UInt8} {encode : α → Bytes}
    (acks : ∀ a, r = .ok a → IsReply invokeId (encode a)) (safe : r ≠ .error .panicked) :
    ∃ apdu, replyTo r invokeId serviceChoice encode = .ok apdu ∧ IsReply invokeId apdu := by
  cases r with
  | ok a => exact ⟨_, rfl, acks a rfl⟩
  | error f =>
    cases f with
    | err e => exact ⟨_, rfl, .error _ _ _⟩
    | panicked => exact absurd rfl safe

theorem handleReadProperty_safe (now : Now) (req : ReadPropertyRequest) (store : ObjectStore Obj)
    (deviceId : DeviceId) : handleReadProperty hash now req store deviceId ≠ .error .panicked := by
  unfold handleReadProperty
  cases found : store.get hash deviceId req.objectId with
  | none => nofun
  | some r =>
    obtain ⟨o, _, reached⟩ := object_of_get found
    simp only [okOr_some, ok_bind, ObjectRef.readProperty, reached]
    cases BacnetObject.readProperty now o req.propertyId req.arrayIndex <;> nofun

theorem handleWriteProperty_safe (now : Now) (req : WritePropertyRequest) (store : ObjectStore Obj)
    (deviceId : DeviceId) :
    (handleWriteProperty hash now req store deviceId).1 ≠ .error .panicked := by
  unfold handleWriteProperty
  cases found : store.get hash deviceId req.objectId with
  | none => nofun
  | some r =>
    obtain ⟨o, _, reached⟩ := object_of_get found
    simp only [ObjectRef.writeProperty, reached, ok_bind]
    cases (BacnetObject.writeProperty now o req.propertyId req.arrayIndex req.value
      req.priority).1 <;> nofun

theorem handleSpec_ok (now : Nat → Now) (spec : ReadAccessSpec) (store : ObjectStore Obj)
    (deviceId : DeviceId) : ∃ result, handleSpec hash now spec store deviceId = .ok result := by
  obtain ⟨objectId, props⟩ := spec
  cases found : store.get hash deviceId objectId with
  | none =>
    simp only [handleSpec, found]
    exact ⟨_, rfl⟩
  | some r =>
    obtain ⟨o, _, reached⟩ := object_of_get found
    have all : r.allProperties store = .ok (BacnetObject.allProperties o) := by
      rw [ObjectRef.allProperties, reached, ok_bind]
    simp only [handleSpec, found, all, ok_bind]
    split
    · exact ⟨_, rfl⟩
    · have each : ∀ a ∈ props.zipIdx, ∃ result, (do
          let value ← r.readProperty (now a.2) store a.1.1 a.1.2
          .ok (PropertyResult.mk a.1.1 a.1.2 value) : Result PropertyResult) = .ok result := by
        intro a _
        simp only [ObjectRef.readProperty, reached, ok_bind]
        exact ⟨_, rfl⟩
      obtain ⟨results, read⟩ := mapM_ok each
      exact ⟨⟨objectId, results⟩, by rw [read]; rfl⟩

theorem handleReadPropertyMultiple_ok (now : Clock) (specs : List ReadAccessSpec)
    (store : ObjectStore Obj) (deviceId : DeviceId) (invokeId : UInt8) :
    ∃ results, handleReadPropertyMultiple hash now specs store deviceId invokeId =
      .ok ⟨invokeId, .readPropertyMultiple results⟩ := by
  have each : ∀ a ∈ specs.zipIdx, ∃ result,
      handleSpec hash (now a.2) a.1 store deviceId = .ok result :=
    fun a _ => handleSpec_ok hash (now a.2) a.1 store deviceId
  obtain ⟨results, read⟩ := mapM_ok each
  exact ⟨results, by rw [handleReadPropertyMultiple, read]; rfl⟩

namespace ApduDispatcher

theorem serve_isReply (now : Clock) (d : ApduDispatcher Obj) (req : ConfirmedRequest)
    (deviceId : DeviceId) :
    ∃ apdu, (d.serve hash now req deviceId).1 = .ok apdu ∧ IsReply req.invokeId apdu := by
  cases service : req.service with
  | readProperty r =>
    simp only [serve, service]
    exact replyTo_isReply (fun ack _ => .complexAck ack.service) (handleReadProperty_safe hash _ _ _ _)
  | readPropertyMultiple specs =>
    obtain ⟨results, read⟩ :=
      handleReadPropertyMultiple_ok hash now specs d.store deviceId req.invokeId
    simp only [serve, service, read, ok_bind]
    exact ⟨_, rfl, .complexAck _⟩
  | writeProperty w =>
    simp only [serve, service]
    exact replyTo_isReply (fun _ _ => .simpleAck 15) (handleWriteProperty_safe hash _ _ _ _)
  | subscribeCov s =>
    simp only [serve, service]
    exact ⟨_, rfl, .simpleAck 5⟩

theorem handleConfirmed_unresolved (now : Clock) {d : ApduDispatcher Obj} {req : ConfirmedRequest}
    {src : NetworkAddress} {f : Fault BacnetError}
    (unresolved : (d.resolveDevice req src).1 = .error f) :
    d.handleConfirmed hash now req src =
      { result := .error f, dispatcher := (d.resolveDevice req src).2, sent := [] } := by
  unfold handleConfirmed
  rcases resolution : d.resolveDevice req src with ⟨result, left⟩
  rw [resolution] at unresolved
  cases unresolved
  rfl

theorem handleConfirmed_resolved (now : Clock) {d : ApduDispatcher Obj} {req : ConfirmedRequest}
    {src : NetworkAddress} {device : DeviceId} {apdu : Bytes}
    (resolved : (d.resolveDevice req src).1 = .ok device)
    (served : ((d.resolveDevice req src).2.serve hash now req device).1 = .ok apdu) :
    d.handleConfirmed hash now req src =
      { result := .ok ()
        dispatcher := ((d.resolveDevice req src).2.serve hash now req device).2
        sent := [⟨.unicast src, Npdu.encodeLocal false apdu⟩] } := by
  unfold handleConfirmed
  rcases resolution : d.resolveDevice req src with ⟨result, left⟩
  rw [resolution] at resolved served
  cases resolved
  rcases outcome : left.serve hash now req device with ⟨result, left'⟩
  rw [outcome] at served
  cases served
  simp only [outcome]

theorem handleConfirmed_sent (now : Clock) (d : ApduDispatcher Obj) (req : ConfirmedRequest)
    (src : NetworkAddress) :
    (d.handleConfirmed hash now req src).sent = [] ∨
      ∃ apdu, (d.handleConfirmed hash now req src).sent =
        [⟨.unicast src, Npdu.encodeLocal false apdu⟩] := by
  cases resolved : (d.resolveDevice req src).1 with
  | error f => exact .inl (by rw [handleConfirmed_unresolved hash now resolved])
  | ok device =>
    obtain ⟨apdu, served, _⟩ := (d.resolveDevice req src).2.serve_isReply hash now req device
    exact .inr ⟨apdu, by rw [handleConfirmed_resolved hash now resolved served]⟩

omit [BacnetObject Obj] in
def RepliesOnce (handled : Handled Obj) (src : NetworkAddress) (invokeId : UInt8) : Prop :=
  ∃ apdu, handled.sent = [⟨.unicast src, Npdu.encodeLocal false apdu⟩] ∧ IsReply invokeId apdu

theorem handleConfirmed_repliesOnce_iff (now : Clock) (d : ApduDispatcher Obj)
    (req : ConfirmedRequest) (src : NetworkAddress) :
    RepliesOnce (d.handleConfirmed hash now req src) src req.invokeId ↔
      d.Resolvable src req.service := by
  rw [← resolveDevice_ok_iff]
  cases resolved : (d.resolveDevice req src).1 with
  | error f =>
    rw [handleConfirmed_unresolved hash now resolved]
    constructor
    · rintro ⟨apdu, sent, _⟩
      cases sent
    · rintro ⟨device, ok⟩
      cases ok
  | ok device =>
    obtain ⟨apdu, served, reply⟩ := (d.resolveDevice req src).2.serve_isReply hash now req device
    rw [handleConfirmed_resolved hash now resolved served]
    constructor
    · intro _
      exact ⟨device, rfl⟩
    · intro _
      exact ⟨apdu, rfl, reply⟩

omit [BacnetObject Obj] in
/-- I-Am frames come in pairs, so a Who-Is never sends exactly one frame. -/
theorem handleUnconfirmed_not_once (d : ApduDispatcher Obj) (req : UnconfirmedRequest)
    (src : NetworkAddress) (invokeId : UInt8) :
    ¬ RepliesOnce (d.handleUnconfirmed req src) src invokeId := by
  rintro ⟨apdu, sent, _⟩
  cases req with
  | whoIs w =>
    have pairs : (d.handleUnconfirmed (.whoIs w) src).sent.length % 2 = 0 := by
      apply even_flatMap
      intro dev
      split <;> simp
    rw [sent] at pairs
    cases pairs
  | iAm i => cases sent
  | unconfirmedCovNotification n => cases sent
  | timeSynchronization t => cases sent

def IsConfirmed (apdu : Bytes) : Prop := ∃ first rest, apdu = first :: rest ∧ first &&& 0xF0 = 0x00

/-- A frame with a decodable confirmed request is answered by exactly one reply to its
source when its PDU type says so and some device answers for its object, and otherwise not. -/
theorem handleFrame_repliesOnce_iff (now : Clock) (d : ApduDispatcher Obj) (frame : InboundFrame)
    {npdu : Npdu} {req : ConfirmedRequest} (header : Npdu.decode frame.npdu = .ok npdu)
    (local_ : npdu.control.networkMessage = false)
    (accepted : ConfirmedRequest.decode npdu.apdu = .ok req) :
    RepliesOnce (d.handleFrame hash now frame) frame.src req.invokeId ↔
      IsConfirmed npdu.apdu ∧ d.Resolvable frame.src req.service := by
  cases octets : npdu.apdu with
  | nil =>
    rw [octets] at accepted
    cases accepted
  | cons first rest =>
    rw [octets] at accepted
    have type : IsConfirmed (first :: rest) ↔ first &&& 0xF0 = 0x00 := by
      constructor
      · rintro ⟨_, _, eq, zero⟩
        cases eq
        exact zero
      · intro zero
        exact ⟨first, rest, rfl, zero⟩
    rw [type]
    simp only [handleFrame, header, local_, octets, Bool.false_eq_true, if_false]
    by_cases confirmed : first &&& 0xF0 = 0x00
    · rw [if_pos confirmed, accepted]
      rw [and_iff_right confirmed]
      exact d.handleConfirmed_repliesOnce_iff hash now req frame.src
    · rw [if_neg confirmed]
      apply iff_of_false _ fun both => confirmed both.1
      split
      · cases UnconfirmedRequest.decode (first :: rest) with
        | ok other => exact d.handleUnconfirmed_not_once other frame.src req.invokeId
        | error f =>
          rintro ⟨apdu, sent, _⟩
          cases f <;> cases sent
      · rintro ⟨apdu, sent, _⟩
        cases sent

end ApduDispatcher

end Serve

def oneDevice : ApduDispatcher DeviceObject := (ApduDispatcher.new .new).registerDevice (.new 1)

def someClient : NetworkAddress := ⟨0, .ip ⟨0x0A000001, 47808⟩⟩

def readDeviceFrame (invokeId deviceInstance : UInt8) : InboundFrame :=
  ⟨someClient,
    Npdu.encodeLocal true [0x00, 0x04, invokeId, 12, 0x0C, 0x02, 0, 0, deviceInstance, 0x19, 75]⟩

theorem registered_device_answered :
    ApduDispatcher.RepliesOnce
      (oneDevice.handleFrame (fun _ _ => 0) (fun _ _ => ⟨⟨0⟩, ⟨0⟩⟩) (readDeviceFrame 9 1))
      someClient 9 := by
  have routes : oneDevice.Routes someClient ⟨.device, 1⟩ := by
    rw [ApduDispatcher.Routes, if_pos rfl]
    decide
  exact (ApduDispatcher.handleFrame_repliesOnce_iff (fun _ _ => 0) (fun _ _ => ⟨⟨0⟩, ⟨0⟩⟩) oneDevice
    (readDeviceFrame 9 1) rfl rfl rfl).mpr ⟨⟨_, _, rfl, rfl⟩, routes⟩

/-- A request for a Device that is not registered ends in resolution, without a reply. -/
theorem unregistered_device_unanswered :
    ¬ ∀ (d : ApduDispatcher DeviceObject) (frame : InboundFrame) (npdu : Npdu)
      (req : ConfirmedRequest), Npdu.decode frame.npdu = .ok npdu →
      npdu.control.networkMessage = false → ConfirmedRequest.decode npdu.apdu = .ok req →
      ApduDispatcher.RepliesOnce
        (d.handleFrame (fun _ _ => 0) (fun _ _ => ⟨⟨0⟩, ⟨0⟩⟩) frame) frame.src req.invokeId := by
  intro claim
  obtain ⟨apdu, sent, _⟩ := claim oneDevice (readDeviceFrame 9 2) _ _ rfl rfl rfl
  cases sent

end BacnetSim
