import BacnetSim.Stack.Sessions

/-! ReadPropertyMultiple against ReadProperty: each reference as a read of its own. -/
namespace BacnetSim
open Rust

section Reads
variable {Obj : Type} [BacnetObject Obj] (hash : Hasher)

def readStored (now : Now) (store : ObjectStore Obj) (deviceId : DeviceId) (oid : ObjectId)
    (ref : PropertyReference) : Except BacnetError PropertyValue :=
  match store.lookup hash deviceId oid with
  | some o => BacnetObject.readProperty now o ref.1 ref.2
  | none => .error .unknownObject

def AcksValue (answer : Result ComplexAck) (v : PropertyValue) : Prop :=
  ∃ invokeId ack, answer = .ok ⟨invokeId, .readProperty ack⟩ ∧ ack.value = v

structure ReadsAs (answer : Result ComplexAck) (ref : PropertyReference) (r : PropertyResult) :
    Prop where
  propertyId : r.propertyId = ref.1
  arrayIndex : r.arrayIndex = ref.2
  ok : ∀ v, r.value = .ok v ↔ AcksValue answer v
  error : ∀ e, r.value = .error e ↔ answer = fail e

def requestOf (oid : ObjectId) (ref : PropertyReference) : ReadPropertyRequest where
  objectId := oid
  propertyId := ref.1
  arrayIndex := ref.2

theorem handleReadProperty_eq (now : Now) (store : ObjectStore Obj) (deviceId : DeviceId)
    (oid : ObjectId) (ref : PropertyReference) :
    handleReadProperty hash now (requestOf oid ref) store deviceId =
      match readStored hash now store deviceId oid ref with
      | .ok value => .ok ⟨0, .readProperty ⟨oid, ref.1, ref.2, value⟩⟩
      | .error e => fail e := by
  unfold handleReadProperty readStored requestOf
  cases found : store.lookup hash deviceId oid with
  | none =>
    have missing : store.get hash deviceId oid = none := by rw [ObjectStore.get_eq, found]; rfl
    simp only [missing, okOr_none, fail_bind]
  | some o =>
    simp only [ObjectStore.get_of_lookup hash found, okOr_some, ok_bind, ObjectRef.readProperty,
      ObjectStore.object_shardKey hash found]
    cases BacnetObject.readProperty now o ref.1 ref.2 <;> rfl

theorem readsAs_iff (now : Now) (store : ObjectStore Obj) (deviceId : DeviceId) (oid : ObjectId)
    (ref : PropertyReference) (value : Except BacnetError PropertyValue) :
    ReadsAs (handleReadProperty hash now (requestOf oid ref) store deviceId) ref
      ⟨ref.1, ref.2, value⟩ ↔ value = readStored hash now store deviceId oid ref := by
  rw [handleReadProperty_eq]
  cases readStored hash now store deviceId oid ref with
  | ok v =>
    constructor
    · intro reads
      exact (reads.ok v).mpr ⟨0, _, rfl, rfl⟩
    · rintro rfl
      refine ⟨rfl, rfl, ?_, ?_⟩
      · intro v'
        constructor
        · rintro ⟨⟩
          exact ⟨0, _, rfl, rfl⟩
        · rintro ⟨_, _, ⟨⟩, rfl⟩
          rfl
      · intro e
        exact iff_of_false (by simp) (by simp [fail])
  | error e =>
    constructor
    · intro reads
      exact (reads.error e).mpr rfl
    · rintro rfl
      refine ⟨rfl, rfl, ?_, ?_⟩
      · intro v
        refine iff_of_false (by simp) ?_
        rintro ⟨_, _, ⟨⟩, _⟩
      · intro e'
        simp [fail]

/-- A result is about the object of the spec, and holds a read of each reference, in their
order. -/
structure AnswersSpec (single : Nat → PropertyReference → Result ComplexAck) (spec : ReadAccessSpec)
    (result : ObjectPropertyResult) : Prop where
  objectId : result.objectId = spec.1
  length : result.propertyResults.length = spec.2.length
  reads : ∀ j ref, spec.2[j]? = some ref →
    ∃ r, result.propertyResults[j]? = some r ∧ ReadsAs (single j ref) ref r

def specResult (now : Nat → Now) (store : ObjectStore Obj) (deviceId : DeviceId)
    (spec : ReadAccessSpec) : ObjectPropertyResult where
  objectId := spec.1
  propertyResults := spec.2.zipIdx.map fun (ref, j) =>
    ⟨ref.1, ref.2, readStored hash (now j) store deviceId spec.1 ref⟩

/-- Of an object that is not stored, every reference gets the same error, ALL included. -/
theorem handleSpec_unknown (now : Nat → Now) {store : ObjectStore Obj} {deviceId : DeviceId}
    {spec : ReadAccessSpec} (unknown : store.lookup hash deviceId spec.1 = none) :
    handleSpec hash now spec store deviceId = .ok (specResult hash now store deviceId spec) := by
  obtain ⟨oid, refs⟩ := spec
  have missing : store.get hash deviceId oid = none := by rw [ObjectStore.get_eq, unknown]; rfl
  have each : (refs.zipIdx.map fun (x : PropertyReference × Nat) =>
      (⟨x.1.1, x.1.2, .error .unknownObject⟩ : PropertyResult)) =
      refs.map fun ref => ⟨ref.1, ref.2, .error .unknownObject⟩ := by
    conv_rhs => rw [← List.zipIdx_map_fst 0 refs, List.map_map]
    rfl
  simp only [handleSpec, missing, specResult, readStored, unknown, each]

theorem handleSpec_eq (now : Nat → Now) (store : ObjectStore Obj) (deviceId : DeviceId)
    {spec : ReadAccessSpec} (noAll : .all ∉ spec.2.map Prod.fst) :
    handleSpec hash now spec store deviceId = .ok (specResult hash now store deviceId spec) := by
  cases found : store.lookup hash deviceId spec.1 with
  | none => exact handleSpec_unknown hash now found
  | some o =>
    obtain ⟨oid, refs⟩ := spec
    have asked : refs.any (·.1 == .all) = false := by
      rw [List.any_eq_false]
      intro ref mem all
      exact noAll (List.mem_map.mpr ⟨ref, mem, eq_of_beq all⟩)
    simp only [handleSpec, ObjectStore.get_of_lookup hash found, asked, Bool.false_eq_true, if_false]
    rw [mapM_map (g := fun x : PropertyReference × Nat =>
      (⟨x.1.1, x.1.2, BacnetObject.readProperty (now x.2) o x.1.1 x.1.2⟩ : PropertyResult))]
    · simp only [specResult, readStored, found]
      rfl
    · intro x _
      simp only [ObjectRef.readProperty, ObjectStore.object_shardKey hash found, ok_bind]

def specResults (now : Clock) (store : ObjectStore Obj) (deviceId : DeviceId)
    (specs : List ReadAccessSpec) : List ObjectPropertyResult :=
  specs.zipIdx.map fun (spec, i) => specResult hash (now i) store deviceId spec

theorem specResult_get (now : Nat → Now) (store : ObjectStore Obj) (deviceId : DeviceId)
    {spec : ReadAccessSpec} {j : Nat} {ref : PropertyReference} (asked : spec.2[j]? = some ref) :
    (specResult hash now store deviceId spec).propertyResults[j]? =
      some ⟨ref.1, ref.2, readStored hash (now j) store deviceId spec.1 ref⟩ := by
  simp [specResult, List.getElem?_zipIdx, asked]

theorem specResults_get (now : Clock) (store : ObjectStore Obj) (deviceId : DeviceId)
    {specs : List ReadAccessSpec} {i : Nat} {spec : ReadAccessSpec}
    (given : specs[i]? = some spec) : (specResults hash now store deviceId specs)[i]? =
      some (specResult hash (now i) store deviceId spec) := by
  simp [specResults, List.getElem?_zipIdx, given]

theorem handleReadPropertyMultiple_eq (now : Clock) (store : ObjectStore Obj) (deviceId : DeviceId)
    (invokeId : UInt8) {specs : List ReadAccessSpec}
    (noAll : ∀ spec ∈ specs, .all ∉ spec.2.map Prod.fst) :
    handleReadPropertyMultiple hash now specs store deviceId invokeId =
      .ok ⟨invokeId, .readPropertyMultiple (specResults hash now store deviceId specs)⟩ := by
  unfold handleReadPropertyMultiple
  rw [mapM_map (g := fun x : ReadAccessSpec × Nat => specResult hash (now x.2) store deviceId x.1)]
  · rfl
  · intro x mem
    exact handleSpec_eq hash (now x.2) store deviceId (noAll x.1 (List.fst_mem_of_mem_zipIdx mem))

theorem answersSpec_result (now : Nat → Now) (store : ObjectStore Obj) (deviceId : DeviceId)
    (spec : ReadAccessSpec) :
    AnswersSpec
      (fun j ref => handleReadProperty hash (now j) (requestOf spec.1 ref) store deviceId) spec
      (specResult hash now store deviceId spec) where
  objectId := rfl
  length := by simp [specResult]
  reads j ref asked := ⟨_, specResult_get hash now store deviceId asked,
    (readsAs_iff hash (now j) store deviceId spec.1 ref _).mpr rfl⟩

/-- Without ALL, a ReadPropertyMultiple is answered with one result for each spec, each of
them a ReadProperty for every reference. -/
theorem readPropertyMultiple_agrees (now : Clock) (store : ObjectStore Obj) (deviceId : DeviceId)
    (invokeId : UInt8) {specs : List ReadAccessSpec}
    (noAll : ∀ spec ∈ specs, .all ∉ spec.2.map Prod.fst) :
    ∃ results, handleReadPropertyMultiple hash now specs store deviceId invokeId =
        .ok ⟨invokeId, .readPropertyMultiple results⟩ ∧ results.length = specs.length ∧
      ∀ i spec, specs[i]? = some spec → ∃ result, results[i]? = some result ∧
        AnswersSpec
          (fun j ref => handleReadProperty hash (now i j) (requestOf spec.1 ref) store deviceId)
          spec result := by
  refine ⟨_, handleReadPropertyMultiple_eq hash now store deviceId invokeId noAll,
    by simp [specResults], ?_⟩
  intro i spec given
  exact ⟨_, specResults_get hash now store deviceId given,
    answersSpec_result hash (now i) store deviceId spec⟩

end Reads

namespace ApduDispatcher
variable {Obj : Type} [BacnetObject Obj] (hash : Hasher)

def answerRead (now : Now) (d : ApduDispatcher Obj) (src : NetworkAddress)
    (r : ReadPropertyRequest) : Result ComplexAck := do
  let deviceId ← (d.resolveTarget r.objectId src).1
  handleReadProperty hash now r d.store deviceId

def answerReadMultiple (now : Clock) (d : ApduDispatcher Obj) (src : NetworkAddress)
    (specs : List ReadAccessSpec) (invokeId : UInt8) : Result ComplexAck := do
  let spec ← okOr specs.head? .unknownObject
  let deviceId ← (d.resolveTarget spec.1 src).1
  handleReadPropertyMultiple hash now specs d.store deviceId invokeId

omit [BacnetObject Obj] in
theorem resolveTarget_store (d : ApduDispatcher Obj) (oid : ObjectId) (src : NetworkAddress) :
    (d.resolveTarget oid src).2.store = d.store := by
  by_cases device : oid.objectType = .device
  · by_cases known : oid.instanceNumber ∈ d.devices
    · rw [d.resolveTarget_registered device known]
    · rw [d.resolveTarget_unregistered device known]
  · rw [d.resolveTarget_other device]

theorem handleConfirmed_readMultiple (now : Clock) (d : ApduDispatcher Obj) {req : ConfirmedRequest}
    (src : NetworkAddress) {specs : List ReadAccessSpec}
    (service : req.service = .readPropertyMultiple specs) {ack : ComplexAck}
    (answered : d.answerReadMultiple hash now src specs req.invokeId = .ok ack) :
    (d.handleConfirmed hash now req src).sent =
      [⟨.unicast src, Npdu.encodeLocal false ack.encode⟩] := by
  obtain ⟨spec, first, answered⟩ := bind_eq_ok answered
  obtain ⟨deviceId, resolved, answered⟩ := bind_eq_ok answered
  have primary : req.service.primaryObject = some spec.1 := by
    rw [service, ConfirmedServiceRequest.primaryObject, okOr_eq_ok first]
    rfl
  have store := d.resolveTarget_store spec.1 src
  rw [← d.resolveDevice_primary primary] at resolved store
  have served : ((d.resolveDevice req src).2.serve hash now req deviceId).1 = .ok ack.encode := by
    simp only [serve, service, store, answered, ok_bind]
  rw [handleConfirmed_resolved hash now resolved served]

/-- The device that a request is served by: the one that its first spec names, if it is
registered; for another object that of the session, or else the first one. -/
def RequestDevice (d : ApduDispatcher Obj) (src : NetworkAddress) (specs : List ReadAccessSpec)
    (deviceId : DeviceId) : Prop :=
  ∃ first, specs.head? = some first ∧
    if first.1.objectType = .device then
      first.1.instanceNumber ∈ d.devices ∧ deviceId = ⟨first.1.instanceNumber⟩
    else
      (AList.lookup src d.sourceDeviceMap).or (d.devices.values.head?.map (·.deviceId)) =
        some deviceId

omit [BacnetObject Obj] in
theorem resolveTarget_eq_ok (d : ApduDispatcher Obj) (src : NetworkAddress) (oid : ObjectId)
    (deviceId : DeviceId) :
    (d.resolveTarget oid src).1 = .ok deviceId ↔
      if oid.objectType = .device then oid.instanceNumber ∈ d.devices ∧ deviceId = ⟨oid.instanceNumber⟩
      else (AList.lookup src d.sourceDeviceMap).or (d.devices.values.head?.map (·.deviceId)) =
        some deviceId := by
  by_cases device : oid.objectType = .device
  · rw [if_pos device]
    by_cases known : oid.instanceNumber ∈ d.devices
    · rw [d.resolveTarget_registered device known, and_iff_right known]
      constructor
      · rintro ⟨⟩
        rfl
      · rintro rfl
        rfl
    · rw [d.resolveTarget_unregistered device known]
      exact iff_of_false (by simp) fun h => known h.1
  · rw [if_neg device, d.resolveTarget_other device]
    constructor
    · exact okOr_eq_ok
    · intro found
      rw [found]
      rfl

def ReadAlike (now : Clock) (d : ApduDispatcher Obj) (req : ConfirmedRequest) (src : NetworkAddress)
    (specs : List ReadAccessSpec) (i : Nat) (spec : ReadAccessSpec) : Prop :=
  ∃ results result,
    d.answerReadMultiple hash now src specs req.invokeId =
      .ok ⟨req.invokeId, .readPropertyMultiple results⟩ ∧
    (d.handleConfirmed hash now req src).sent = [⟨.unicast src, Npdu.encodeLocal false
      (ComplexAck.encode ⟨req.invokeId, .readPropertyMultiple results⟩)⟩] ∧
    results[i]? = some result ∧
    AnswersSpec (fun j ref => d.answerRead hash (now i j) src (requestOf spec.1 ref)) spec result

def StoredAlike (now : Nat → Now) (store : ObjectStore Obj) (spec : ReadAccessSpec)
    (deviceId deviceId' : DeviceId) : Prop :=
  ∀ j ref, spec.2[j]? = some ref → readStored hash (now j) store deviceId spec.1 ref =
    readStored hash (now j) store deviceId' spec.1 ref

/-- A spec for a registered Device is read from that device exactly when the whole request
is served by it, or by one for which the store holds an object that reads alike. -/
theorem readMultiple_device_iff (now : Clock) (d : ApduDispatcher Obj) {req : ConfirmedRequest}
    (src : NetworkAddress) {specs : List ReadAccessSpec}
    (service : req.service = .readPropertyMultiple specs)
    (noAll : ∀ spec ∈ specs, .all ∉ spec.2.map Prod.fst) {i : Nat} {spec : ReadAccessSpec}
    (given : specs[i]? = some spec) (device : spec.1.objectType = .device)
    (known : spec.1.instanceNumber ∈ d.devices) :
    d.ReadAlike hash now req src specs i spec ↔
      ∃ deviceId, d.RequestDevice src specs deviceId ∧
        (deviceId = ⟨spec.1.instanceNumber⟩ ∨
          StoredAlike hash (now i) d.store spec deviceId ⟨spec.1.instanceNumber⟩) := by
  have single : ∀ j ref, d.answerRead hash (now i j) src (requestOf spec.1 ref) =
      handleReadProperty hash (now i j) (requestOf spec.1 ref) d.store ⟨spec.1.instanceNumber⟩ := by
    intro j ref
    simp only [answerRead, requestOf, d.resolveTarget_registered device known, ok_bind]
  constructor
  · rintro ⟨results, result, answered, _, at_i, answers⟩
    obtain ⟨first, head, answered⟩ := bind_eq_ok answered
    obtain ⟨deviceId, resolved, answered⟩ := bind_eq_ok answered
    refine ⟨deviceId, ⟨first, okOr_eq_ok head, (d.resolveTarget_eq_ok src first.1 deviceId).mp
      resolved⟩, .inr ?_⟩
    rw [handleReadPropertyMultiple_eq hash now d.store deviceId req.invokeId noAll] at answered
    cases answered
    rw [specResults_get hash now d.store deviceId given] at at_i
    cases at_i
    intro j ref asked
    obtain ⟨r, at_j, reads⟩ := answers.reads j ref asked
    rw [specResult_get hash (now i) d.store deviceId asked] at at_j
    cases at_j
    rw [single] at reads
    exact (readsAs_iff hash (now i j) d.store _ spec.1 ref _).mp reads
  · rintro ⟨deviceId, ⟨first, head, target⟩, alike⟩
    have same : StoredAlike hash (now i) d.store spec deviceId ⟨spec.1.instanceNumber⟩ := by
      rcases alike with rfl | alike
      · intro j ref _
        rfl
      · exact alike
    have answered : d.answerReadMultiple hash now src specs req.invokeId = .ok ⟨req.invokeId,
        .readPropertyMultiple (specResults hash now d.store deviceId specs)⟩ := by
      simp only [answerReadMultiple, head, okOr_some, ok_bind,
        (d.resolveTarget_eq_ok src first.1 deviceId).mpr target]
      exact handleReadPropertyMultiple_eq hash now d.store deviceId req.invokeId noAll
    refine ⟨_, _, answered, d.handleConfirmed_readMultiple hash now src service answered,
      specResults_get hash now d.store deviceId given, rfl, by simp [specResult], ?_⟩
    intro j ref asked
    refine ⟨_, specResult_get hash (now i) d.store deviceId asked, ?_⟩
    rw [single]
    exact (readsAs_iff hash (now i j) d.store _ spec.1 ref _).mpr (same j ref asked)

end ApduDispatcher

def sameShard : Hasher := fun _ _ => 0

def epoch : Clock := fun _ _ => ⟨⟨0⟩, ⟨0⟩⟩

def twoStoredDevices : ApduDispatcher DeviceObject :=
  ((ApduDispatcher.new ((ObjectStore.new.insert sameShard ⟨1⟩ (.new ⟨1⟩ "device-1")).insert
    sameShard ⟨2⟩ (.new ⟨2⟩ "device-2"))).registerDevice (.new 1)).registerDevice (.new 2)

def nameOf (instanceNumber : UInt32) : ReadAccessSpec :=
  (⟨.device, instanceNumber⟩, [(.objectName, none)])

def readNames : ConfirmedRequest where
  segmentedAccepted := false
  moreFollows := false
  segmentedResponseAccepted := false
  maxSegments := .unspecified
  maxResponse := 480
  invokeId := 9
  sequenceNumber := none
  proposedWindow := none
  service := .readPropertyMultiple [nameOf 1, nameOf 2]

theorem names_agree : ∃ results, handleReadPropertyMultiple sameShard epoch [nameOf 1, nameOf 2]
    twoStoredDevices.store ⟨1⟩ 9 = .ok ⟨9, .readPropertyMultiple results⟩ ∧ results.length = 2 :=
  have ⟨results, answered, length, _⟩ := readPropertyMultiple_agrees sameShard epoch
    twoStoredDevices.store ⟨1⟩ 9 (by decide : ∀ spec ∈ [nameOf 1, nameOf 2], _)
  ⟨results, answered, length⟩

theorem first_device_read :
    twoStoredDevices.ReadAlike sameShard epoch readNames someClient [nameOf 1, nameOf 2] 0
      (nameOf 1) :=
  (ApduDispatcher.readMultiple_device_iff sameShard epoch twoStoredDevices someClient rfl (by decide)
    rfl rfl (by decide)).mpr ⟨⟨1⟩, ⟨nameOf 1, rfl, by decide⟩, .inl rfl⟩

/-- Device 2 is asked of Device 1, which does not have it. -/
theorem second_device_unknown :
    ¬ ∀ (d : ApduDispatcher DeviceObject) (req : ConfirmedRequest) (src : NetworkAddress)
      (specs : List ReadAccessSpec) (i : Nat) (spec : ReadAccessSpec),
      req.service = .readPropertyMultiple specs → (∀ spec ∈ specs, .all ∉ spec.2.map Prod.fst) →
      specs[i]? = some spec → spec.1.objectType = .device → spec.1.instanceNumber ∈ d.devices →
      (d.store.lookup sameShard ⟨spec.1.instanceNumber⟩ spec.1).isSome →
      d.ReadAlike sameShard epoch req src specs i spec := by
  intro claim
  obtain ⟨results, result, answered, _, at_i, answers⟩ := claim twoStoredDevices readNames someClient
    [nameOf 1, nameOf 2] 1 (nameOf 2) rfl (by decide) rfl rfl (by decide) rfl
  cases answered
  cases at_i
  obtain ⟨r, at_j, reads⟩ := answers.reads 0 (.objectName, none) rfl
  cases at_j
  have unknown := (reads.error .unknownObject).mp rfl
  cases unknown

end BacnetSim
