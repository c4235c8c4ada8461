import BacnetSim.Encoding.Sizes
import BacnetSim.Stack.ReadAll
import BacnetSim.Stack.ReadMultiple

/-! How long the answer to a confirmed request is, counted from the request and the store.
The dispatcher writes `max_apdu` into the I-Am and reads it nowhere else, so an answer is
one APDU of whatever length it takes. -/
namespace BacnetSim
open Rust Tags

def referenceSize (ref : PropertyReference) : Nat :=
  1 + uintSize ref.1.toU32 + (ref.2.map fun index => 1 + uintSize index).getD 0

def outcomeSize : Except BacnetError PropertyValue → Nat
  | .ok v => 2 + valueSize v
  | .error e => 2 + (1 + uintSize (errorClassCode e).1) + (1 + uintSize (errorClassCode e).2)

def propertyResultSize (r : PropertyResult) : Nat :=
  referenceSize (r.propertyId, r.arrayIndex) + outcomeSize r.value

def objectResultSize (r : ObjectPropertyResult) : Nat :=
  7 + (r.propertyResults.map propertyResultSize).sum

theorem encodeArrayIndex_length (t : UInt8) (index : Option UInt32) :
    (encodeArrayIndex t index).length = (index.map fun index => 1 + uintSize index).getD 0 := by
  cases index with
  | none => rfl
  | some i => exact encodeCtxU32_length t i

theorem encodeOutcome_length (outcome : Except BacnetError PropertyValue) :
    (encodeOutcome outcome).length = outcomeSize outcome := by
  cases outcome with
  | ok v =>
    simp only [encodeOutcome, outcomeSize, List.length_append, encodeOpeningTag_length,
      valueOctets_length, encodeClosingTag_length]
    omega
  | error e =>
    simp only [encodeOutcome, outcomeSize, List.length_append, encodeOpeningTag_length,
      encodeCtxU32_length, encodeClosingTag_length]
    omega

theorem encodePropertyResult_length (r : PropertyResult) :
    (encodePropertyResult r).length = propertyResultSize r := by
  simp only [encodePropertyResult, propertyResultSize, referenceSize, List.length_append,
    encodeCtxU32_length, encodeArrayIndex_length, encodeOutcome_length]
  omega

theorem encodeObjectResult_length (r : ObjectPropertyResult) :
    (encodeObjectResult r).length = objectResultSize r := by
  simp only [encodeObjectResult, objectResultSize, List.length_append, encodeCtxObjectId_length,
    encodeOpeningTag_length, encodeClosingTag_length, List.length_flatMap]
  rw [List.map_congr_left fun r _ => encodePropertyResult_length r]
  omega

theorem encodeRpmAck_length (results : List ObjectPropertyResult) :
    (encodeRpmAck results).length = (results.map objectResultSize).sum := by
  rw [encodeRpmAck, List.length_flatMap,
    List.map_congr_left fun r _ => encodeObjectResult_length r]

theorem encodeReadPropertyAck_length (ack : ReadPropertyAck) :
    (encodeReadPropertyAck ack).length =
      7 + referenceSize (ack.propertyId, ack.arrayIndex) + valueSize ack.value := by
  simp only [encodeReadPropertyAck, referenceSize, List.length_append, encodeCtxObjectId_length,
    encodeCtxU32_length, encodeArrayIndex_length, encodeOpeningTag_length, valueOctets_length,
    encodeClosingTag_length]
  omega

section Answers
variable {Obj : Type} [BacnetObject Obj] (hash : Hasher)

/-- The result for a spec: every property that a stored object lists, if ALL is asked for, or
else a read of each reference. -/
def specAnswer (now : Nat → Now) (store : ObjectStore Obj) (deviceId : DeviceId)
    (spec : ReadAccessSpec) : ObjectPropertyResult :=
  match store.lookup hash deviceId spec.1 with
  | some o =>
    if .all ∈ spec.2.map Prod.fst then
      ⟨spec.1, (BacnetObject.allProperties o).map fun (p, v) => ⟨p, none, .ok v⟩⟩
    else specResult hash now store deviceId spec
  | none => specResult hash now store deviceId spec

theorem handleSpec_answer (now : Nat → Now) (store : ObjectStore Obj) (deviceId : DeviceId)
    (spec : ReadAccessSpec) :
    handleSpec hash now spec store deviceId = .ok (specAnswer hash now store deviceId spec) := by
  unfold specAnswer
  cases found : store.lookup hash deviceId spec.1 with
  | none => exact handleSpec_unknown hash now found
  | some o =>
    by_cases all : .all ∈ spec.2.map Prod.fst
    · simp only [if_pos all]
      exact handleSpec_all hash now found all
    · simp only [if_neg all]
      exact handleSpec_eq hash now store deviceId all

def specAnswers (now : Clock) (store : ObjectStore Obj) (deviceId : DeviceId)
    (specs : List ReadAccessSpec) : List ObjectPropertyResult :=
  specs.zipIdx.map fun (spec, i) => specAnswer hash (now i) store deviceId spec

theorem handleReadPropertyMultiple_answers (now : Clock) (specs : List ReadAccessSpec)
    (store : ObjectStore Obj) (deviceId : DeviceId) (invokeId : UInt8) :
    handleReadPropertyMultiple hash now specs store deviceId invokeId =
      .ok ⟨invokeId, .readPropertyMultiple (specAnswers hash now store deviceId specs)⟩ := by
  unfold handleReadPropertyMultiple
  rw [mapM_map (g := fun x : ReadAccessSpec × Nat => specAnswer hash (now x.2) store deviceId x.1)]
  · rfl
  · intro x _
    exact handleSpec_answer hash (now x.2) store deviceId x.1

def writeStored (now : Now) (store : ObjectStore Obj) (deviceId : DeviceId)
    (w : WritePropertyRequest) : Except BacnetError Unit :=
  match store.lookup hash deviceId w.objectId with
  | some o => (BacnetObject.writeProperty now o w.propertyId w.arrayIndex w.value w.priority).1
  | none => .error .unknownObject

theorem handleWriteProperty_result (now : Now) (w : WritePropertyRequest) (store : ObjectStore Obj)
    (deviceId : DeviceId) :
    (handleWriteProperty hash now w store deviceId).1 =
      ofExcept (writeStored hash now store deviceId w) := by
  unfold handleWriteProperty writeStored
  cases found : store.lookup hash deviceId w.objectId with
  | none =>
    have missing : store.get hash deviceId w.objectId = none := by
      rw [ObjectStore.get_eq, found]
      rfl
    simp only [missing]
    rfl
  | some o =>
    simp only [ObjectStore.get_of_lookup hash found, ObjectRef.writeProperty,
      ObjectStore.object_shardKey hash found, ok_bind]

omit [BacnetObject Obj] in
theorem encodeErrorPdu_length (invokeId service : UInt8) (e : BacnetError) :
    (encodeErrorPdu invokeId service e).length = 7 := rfl

def replySize {α : Type} (ackSize : α → Nat) : Except BacnetError α → Nat
  | .ok a => ackSize a
  | .error _ => 7

/-- The length of an answer: 3 octets of a SimpleACK, 7 of an Error, and of a ComplexACK
the count of what it reports. -/
def answerSize (now : Clock) (store : ObjectStore Obj) (deviceId : DeviceId) :
    ConfirmedServiceRequest → Nat
  | .readProperty r =>
    let ref := (r.propertyId, r.arrayIndex)
    replySize (fun v => 10 + referenceSize ref + valueSize v)
      (readStored hash (now 0 0) store deviceId r.objectId ref)
  | .readPropertyMultiple specs =>
    3 + ((specAnswers hash now store deviceId specs).map objectResultSize).sum
  | .writeProperty w => replySize (fun _ => 3) (writeStored hash (now 0 0) store deviceId w)
  | .subscribeCov _ => 3

theorem readReply_length (now : Now) (r : ReadPropertyRequest) (store : ObjectStore Obj)
    (deviceId : DeviceId) {invokeId service : UInt8} {apdu : Bytes}
    (replied : replyTo (handleReadProperty hash now r store deviceId) invokeId service
      (fun ack => { ack with invokeId }.encode) = .ok apdu) :
    apdu.length = replySize (fun v => 10 + referenceSize (r.propertyId, r.arrayIndex) + valueSize v)
      (readStored hash now store deviceId r.objectId (r.propertyId, r.arrayIndex)) := by
  have read := handleReadProperty_eq hash now store deviceId r.objectId (r.propertyId, r.arrayIndex)
  have request : requestOf r.objectId (r.propertyId, r.arrayIndex) = r := rfl
  rw [request] at read
  rw [read] at replied
  cases value : readStored hash now store deviceId r.objectId (r.propertyId, r.arrayIndex) with
  | ok v =>
    rw [value] at replied
    cases replied
    have body := encodeReadPropertyAck_length ⟨r.objectId, r.propertyId, r.arrayIndex, v⟩
    simp only [ComplexAck.encode_readProperty, List.length_append, body, replySize, List.length_cons,
      List.length_nil]
    omega
  | error e =>
    rw [value] at replied
    cases replied
    exact encodeErrorPdu_length invokeId service e

theorem writeReply_length (now : Now) (w : WritePropertyRequest) (store : ObjectStore Obj)
    (deviceId : DeviceId) {invokeId service : UInt8} {apdu : Bytes}
    (replied : replyTo (handleWriteProperty hash now w store deviceId).1 invokeId service
      (fun _ => SimpleAck.encode ⟨invokeId, service⟩) = .ok apdu) :
    apdu.length = replySize (fun _ => 3) (writeStored hash now store deviceId w) := by
  rw [handleWriteProperty_result] at replied
  cases written : writeStored hash now store deviceId w with
  | ok u =>
    rw [written] at replied
    cases replied
    rfl
  | error e =>
    rw [written] at replied
    cases replied
    exact encodeErrorPdu_length invokeId service e

namespace ApduDispatcher

theorem serve_length (now : Clock) (d : ApduDispatcher Obj) (req : ConfirmedRequest)
    (deviceId : DeviceId) {apdu : Bytes} (served : (d.serve hash now req deviceId).1 = .ok apdu) :
    apdu.length = answerSize hash now d.store deviceId req.service := by
  cases service : req.service with
  | readProperty r =>
    simp only [serve, service] at served
    exact readReply_length hash (now 0 0) r d.store deviceId served
  | readPropertyMultiple specs =>
    simp only [serve, service, handleReadPropertyMultiple_answers, ok_bind] at served
    cases served
    have body := encodeRpmAck_length (specAnswers hash now d.store deviceId specs)
    simp only [ComplexAck.encode, answerSize, List.length_append, List.length_cons, List.length_nil,
      body]
    omega
  | writeProperty w =>
    simp only [serve, service] at served
    exact writeReply_length hash (now 0 0) w d.store deviceId served
  | subscribeCov s =>
    simp only [serve, service] at served
    cases served
    rfl

omit [BacnetObject Obj] in
theorem resolveDevice_store (d : ApduDispatcher Obj) (req : ConfirmedRequest)
    (src : NetworkAddress) : (d.resolveDevice req src).2.store = d.store := by
  rw [resolveDevice_dispatcher]
  split <;> rfl

theorem handleConfirmed_length (now : Clock) (d : ApduDispatcher Obj) (req : ConfirmedRequest)
    (src : NetworkAddress) {device : DeviceId} (resolved : (d.resolveDevice req src).1 = .ok device) :
    ∃ apdu, (d.handleConfirmed hash now req src).sent =
        [⟨.unicast src, Npdu.encodeLocal false apdu⟩] ∧ IsReply req.invokeId apdu ∧
      apdu.length = answerSize hash now d.store device req.service := by
  obtain ⟨apdu, served, reply⟩ := (d.resolveDevice req src).2.serve_isReply hash now req device
  have size := (d.resolveDevice req src).2.serve_length hash now req device served
  rw [d.resolveDevice_store req src] at size
  exact ⟨apdu, by rw [handleConfirmed_resolved hash now resolved served], reply, size⟩

/-- A request is answered with one APDU, not segmented, of the length that is counted from the
request and the store. The `max_apdu` of the device that the request is resolved to has no
part in it, so the answer fits exactly when that count does. -/
theorem answer_length (now : Clock) (d : ApduDispatcher Obj) (req : ConfirmedRequest)
    (src : NetworkAddress) {frame : OutboundFrame}
    (answered : frame ∈ (d.handleConfirmed hash now req src).sent) :
    (d.handleConfirmed hash now req src).sent = [frame] ∧
      ∃ device apdu, (d.resolveDevice req src).1 = .ok device ∧
        frame = ⟨.unicast src, Npdu.encodeLocal false apdu⟩ ∧ IsReply req.invokeId apdu ∧
        apdu.length = answerSize hash now d.store device req.service ∧
        ∀ info, AList.lookup device.id d.devices = some info →
          (apdu.length ≤ info.maxApdu.toNat ↔
            answerSize hash now d.store device req.service ≤ info.maxApdu.toNat) := by
  cases resolved : (d.resolveDevice req src).1 with
  | error f =>
    rw [handleConfirmed_unresolved hash now resolved] at answered
    cases answered
  | ok device =>
    obtain ⟨apdu, sent, reply, size⟩ := d.handleConfirmed_length hash now req src resolved
    rw [sent] at answered ⊢
    cases List.mem_singleton.mp answered
    refine ⟨rfl, device, apdu, rfl, rfl, reply, size, ?_⟩
    intro info _
    rw [size]

end ApduDispatcher

theorem propertyResultSize_ge (r : PropertyResult) : 4 ≤ propertyResultSize r := by
  have positive : ∀ v, 1 ≤ uintSize v := by
    intro v
    rw [← uintContent_size]
    exact (uintContent_length v).2.1
  have name := positive r.propertyId.toU32
  have outcome : 2 ≤ outcomeSize r.value := by
    cases r.value with
    | ok v => exact Nat.le_add_right 2 _
    | error e => exact (Nat.le_add_right 2 _).trans (Nat.le_add_right _ _)
  simp only [propertyResultSize, referenceSize]
  omega

theorem objectResultSize_ge (r : ObjectPropertyResult) :
    4 * r.propertyResults.length ≤ objectResultSize r := by
  have each : ∀ results : List PropertyResult,
      4 * results.length ≤ (results.map propertyResultSize).sum := by
    intro results
    induction results with
    | nil => exact Nat.le_refl 0
    | cons r results ih =>
      have first := propertyResultSize_ge r
      rw [List.map_cons, List.sum_cons, List.length_cons]
      omega
  have all := each r.propertyResults
  unfold objectResultSize
  omega

theorem answerSize_references (now : Clock) (store : ObjectStore Obj) (deviceId : DeviceId)
    {spec : ReadAccessSpec} (noAll : .all ∉ spec.2.map Prod.fst) :
    4 * spec.2.length ≤ answerSize hash now store deviceId (.readPropertyMultiple [spec]) := by
  have result : specAnswer hash (now 0) store deviceId spec =
      specResult hash (now 0) store deviceId spec := by
    have left := handleSpec_answer hash (now 0) store deviceId spec
    rw [handleSpec_eq hash (now 0) store deviceId noAll] at left
    exact (Except.ok.inj left).symm
  have references : (specResult hash (now 0) store deviceId spec).propertyResults.length =
      spec.2.length := by simp [specResult]
  have least := objectResultSize_ge (specResult hash (now 0) store deviceId spec)
  rw [references] at least
  have one : specAnswers hash now store deviceId [spec] =
      [specResult hash (now 0) store deviceId spec] := congrArg (fun r => [r]) result
  rw [answerSize, one, List.map_singleton, List.sum_singleton]
  omega

end Answers

def readIdentifierRequest : ConfirmedRequest where
  segmentedAccepted := false
  moreFollows := false
  segmentedResponseAccepted := true
  maxSegments := .unspecified
  maxResponse := 480
  invokeId := 9
  sequenceNumber := none
  proposedWindow := none
  service := .readProperty (requestOf ⟨.device, 1⟩ (.objectIdentifier, none))

theorem identifier_fits :
    deviceOneAck.length =
        answerSize (fun _ _ => 0) (fun _ _ => ⟨⟨0⟩, ⟨0⟩⟩) oneStoredDevice.store ⟨1⟩
          readIdentifierRequest.service ∧
      deviceOneAck.length ≤ (DeviceInfo.new 1).maxApdu.toNat := by
  have answered : (⟨.unicast someClient, Npdu.encodeLocal false deviceOneAck⟩ : OutboundFrame) ∈
      (oneStoredDevice.handleConfirmed (fun _ _ => 0) (fun _ _ => ⟨⟨0⟩, ⟨0⟩⟩) readIdentifierRequest
        someClient).sent := List.mem_cons_self
  obtain ⟨_, device, apdu, resolved, same, _, size, fits⟩ := oneStoredDevice.answer_length
    (fun _ _ => 0) (fun _ _ => ⟨⟨0⟩, ⟨0⟩⟩) readIdentifierRequest someClient answered
  cases resolved
  cases Npdu.encodeLocal_injective (OutboundFrame.mk.inj same).2
  exact ⟨size, (fits _ rfl).mpr (by rw [← size]; decide)⟩

def namesSpec (n : Nat) : ReadAccessSpec := (⟨.device, 1⟩, List.replicate n (.objectName, none))

theorem namesSpec_noAll (n : Nat) : .all ∉ (namesSpec n).2.map Prod.fst := by
  rw [namesSpec, List.map_replicate, List.mem_replicate]
  rintro ⟨_, ⟨⟩⟩

def manyNames (n : Nat) : ConfirmedRequest :=
  { readIdentifierRequest with service := .readPropertyMultiple [namesSpec n] }

/-- 400 references, on the wire 811 octets of request and at least 1600 of answer, where
Device 1 announces 1476. -/
theorem names_exceed_maxApdu :
    ¬ ∀ (hash : Hasher) (now : Clock) (d : ApduDispatcher DeviceObject) (req : ConfirmedRequest)
      (src : NetworkAddress) (device : DeviceId) (info : DeviceInfo) (apdu : Bytes),
      (d.resolveDevice req src).1 = .ok device → AList.lookup device.id d.devices = some info →
      (d.handleConfirmed hash now req src).sent = [⟨.unicast src, Npdu.encodeLocal false apdu⟩] →
      apdu.length ≤ info.maxApdu.toNat := by
  intro claim
  let hash : Hasher := fun _ _ => 0
  let now : Clock := fun _ _ => ⟨⟨0⟩, ⟨0⟩⟩
  have resolved : (oneStoredDevice.resolveDevice (manyNames 400) someClient).1 = .ok ⟨1⟩ := rfl
  obtain ⟨apdu, sent, _, size⟩ :=
    oneStoredDevice.handleConfirmed_length hash now (manyNames 400) someClient resolved
  have fits : apdu.length ≤ 1476 :=
    claim hash now oneStoredDevice (manyNames 400) someClient ⟨1⟩ (.new 1) apdu resolved rfl sent
  have least := answerSize_references hash now oneStoredDevice.store ⟨1⟩ (namesSpec_noAll 400)
  have references : (namesSpec 400).2.length = 400 := List.length_replicate
  rw [references] at least
  have counted : apdu.length = answerSize hash now oneStoredDevice.store ⟨1⟩
      (.readPropertyMultiple [namesSpec 400]) := size
  omega

end BacnetSim
