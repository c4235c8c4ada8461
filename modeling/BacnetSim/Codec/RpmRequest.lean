import BacnetSim.Codec.RpmGrammar

/-! A ReadPropertyMultiple request in the documented grammar is read back spec by spec. -/
namespace BacnetSim
open Rust Octets Tags

def encodeReference (r : PropertyReference) : Bytes :=
  encodeCtxU32 0 r.1.toU32 ++ (r.2.map (encodeCtxU32 1)).getD []

def encodeSpec (spec : ReadAccessSpec) : Bytes :=
  encodeCtxObjectId 0 spec.1 ++ (encodeOpeningTag 1 ++
    (spec.2.flatMap encodeReference ++ encodeClosingTag 1))

def ReadsBackProperty (p : PropertyIdentifier) : Prop := PropertyIdentifier.fromU32 p.toU32 = p

instance (p : PropertyIdentifier) : Decidable (ReadsBackProperty p) :=
  inferInstanceAs (Decidable (_ = _))

theorem property_uintField {p : PropertyIdentifier} (h : ReadsBackProperty p) :
    PropertyIdentifier.fromU32 (ofBe32 (uintField p.toU32).content) = p := by
  rw [uintField, ofBe32_uintContent]
  exact h

structure ReadsBackSpec (spec : ReadAccessSpec) : Prop where
  object : ReadsBackId spec.1
  properties : ∀ r ∈ spec.2, ReadsBackProperty r.1

def referenceBody (r : PropertyReference) : ReferenceBody where
  property := uintField r.1.toU32
  arrayIndex := r.2.map uintField

def specBody (spec : ReadAccessSpec) : SpecBody where
  object := idField spec.1
  references := spec.2.map referenceBody
  identifier := rfl

theorem referenceBody_octets (r : PropertyReference) : (referenceBody r).octets = encodeReference r := by
  rw [ReferenceBody.octets, referenceBody, uintField_octets, optional_uintField, encodeReference]

theorem referenceBody_request {r : PropertyReference} (known : ReadsBackProperty r.1) :
    (referenceBody r).request = r := by
  rw [ReferenceBody.request, referenceBody, property_uintField known, numbers_uintField]

theorem specBody_octets (spec : ReadAccessSpec) : (specBody spec).octets = encodeSpec spec := by
  have refs : (spec.2.map referenceBody).flatMap (·.octets) = spec.2.flatMap encodeReference := by
    rw [List.flatMap_map]
    exact congrArg spec.2.flatMap (funext referenceBody_octets)
  rw [SpecBody.octets, specBody, idField_octets, refs, encodeSpec]

theorem specBody_request {spec : ReadAccessSpec} (known : ReadsBackSpec spec) :
    (specBody spec).request = spec := by
  have refs : (spec.2.map referenceBody).map (·.request) = spec.2 := by
    rw [List.map_map]
    exact (List.map_congr_left fun r mem => referenceBody_request (known.properties r mem)).trans
      (List.map_id spec.2)
  rw [SpecBody.request, specBody, identifier_idField known.object, refs]

theorem decodeRpm_encode {specs : List ReadAccessSpec} (known : ∀ spec ∈ specs, ReadsBackSpec spec) :
    decodeRpm (specs.flatMap encodeSpec) = .ok specs := by
  have decoded := decodeRpm_octets (specs.map specBody)
  have octets : (specs.map specBody).flatMap (·.octets) = specs.flatMap encodeSpec := by
    rw [List.flatMap_map]
    exact congrArg specs.flatMap (funext specBody_octets)
  have request : (specs.map specBody).map (·.request) = specs := by
    rw [List.map_map]
    exact (List.map_congr_left fun spec mem => specBody_request (known spec mem)).trans (List.map_id specs)
  rw [octets, request] at decoded
  exact decoded

theorem decode_readPropertyMultiple {specs : List ReadAccessSpec}
    (known : ∀ spec ∈ specs, ReadsBackSpec spec) (octet invokeId : UInt8) :
    ConfirmedRequest.decode ([0, octet, invokeId, 14] ++ specs.flatMap encodeSpec) =
      .ok
        { segmentedAccepted := false
          moreFollows := false
          segmentedResponseAccepted := true
          maxSegments := .unspecified
          maxResponse := 480
          invokeId
          sequenceNumber := none
          proposedWindow := none
          service := .readPropertyMultiple specs } := by
  simp only [ConfirmedRequest.decode, List.cons_append, List.nil_append, UInt8.reduceToNat,
    decodeRpm_encode known, ok_bind]
  rfl

theorem decode_two_properties :
    (ConfirmedRequest.decode ([0, 4, 9, 14] ++
      [0x0C, 0, 0, 0, 1, 0x1E, 0x09, 85, 0x09, 77, 0x19, 2, 0x1F])).map (·.service) =
      .ok (.readPropertyMultiple
        [(⟨.analogInput, 1⟩, [(.presentValue, none), (.objectName, some 2)])]) := by
  have known : ∀ spec ∈ [((⟨.analogInput, 1⟩ : ObjectId),
      [(PropertyIdentifier.presentValue, none), (.objectName, some (2 : UInt32))])],
      ReadsBackSpec spec := by
    intro spec mem
    rw [List.mem_singleton.mp mem]
    exact ⟨by decide, by decide⟩
  exact congrArg (Except.map (·.service)) (decode_readPropertyMultiple known 4 9)

end BacnetSim
