import BacnetSim.Codec.Grammar
import BacnetSim.Codec.RpmRequest

/-! The decoders of the single-object services invert the documented grammars. -/
namespace BacnetSim
open Rust Octets Tags

theorem settled_end (t : UInt8) (f : Option FieldBody) : Settled t f [] :=
  fun _ => hasContextTag_end (.start [])

inductive SingleObjectRequest where
  | readProperty (req : ReadPropertyRequest)
  | writeProperty (req : WritePropertyRequest) (value : Bytes)
  | subscribeCov (req : SubscribeCovRequest)

namespace SingleObjectRequest

def choice : SingleObjectRequest → UInt8
  | readProperty _ => 12
  | writeProperty _ _ => 15
  | subscribeCov _ => 5

def service : SingleObjectRequest → ConfirmedServiceRequest
  | readProperty req => .readProperty req
  | writeProperty req _ => .writeProperty req
  | subscribeCov req => .subscribeCov req

def optionalU32 (t : UInt8) (v : Option UInt32) : Bytes := (v.map (encodeCtxU32 t)).getD []

def body : SingleObjectRequest → Bytes
  | readProperty req =>
    encodeCtxObjectId 0 req.objectId ++ (encodeCtxU32 1 req.propertyId.toU32 ++
      optionalU32 2 req.arrayIndex)
  | writeProperty req value =>
    encodeCtxObjectId 0 req.objectId ++ (encodeCtxU32 1 req.propertyId.toU32 ++
      (optionalU32 2 req.arrayIndex ++ (encodeOpeningTag 3 ++ (value ++ (encodeClosingTag 3 ++
        optionalU32 4 (req.priority.map UInt8.toUInt32))))))
  | subscribeCov req =>
    encodeCtxU32 0 req.subscriberProcessId ++ (encodeCtxObjectId 1 req.monitoredObject ++
      (optionalU32 2 (req.issueConfirmed.map fun b => if b then 1 else 0) ++
        optionalU32 3 req.lifetime))

/-- The ids are ones that their octets stand for, and the value's octets are read as it,
whatever follows. -/
def ReadsBack : SingleObjectRequest → Prop
  | readProperty req => ReadsBackId req.objectId ∧ ReadsBackProperty req.propertyId
  | writeProperty req value =>
    ReadsBackId req.objectId ∧ ReadsBackProperty req.propertyId ∧
      ∀ s, decodeApplicationValue (value ++ s) 0 = .ok (req.value, value.length)
  | subscribeCov req => ReadsBackId req.monitoredObject

theorem decodeReadProperty_body {req : ReadPropertyRequest} (object : ReadsBackId req.objectId)
    (property : ReadsBackProperty req.propertyId) :
    decodeReadProperty (readProperty req).body = .ok req := by
  let b : ReadBody :=
    { object := idField req.objectId
      property := uintField req.propertyId.toU32
      arrayIndex := req.arrayIndex.map uintField
      rest := []
      identifier := rfl
      ends := settled_end _ _ }
  have octets : (readProperty req).body = b.octets := by
    simp only [b, body, ReadBody.octets, ReadBody.fields, idField_octets, uintField_octets,
      optional_uintField, List.append_nil]
    rfl
  have request : b.request = req := by
    simp only [b, ReadBody.request, identifier_idField object, property_uintField property,
      numbers_uintField]
  rw [octets, b.decode_octets, request]

theorem priority_narrowed (p : Option UInt8) : (p.map UInt8.toUInt32).map UInt32.toUInt8 = p := by
  cases p with
  | none => rfl
  | some p => exact congrArg some (UInt8.toUInt8_toUInt32 p)

theorem decodeWriteProperty_body {req : WritePropertyRequest} {value : Bytes}
    (object : ReadsBackId req.objectId) (property : ReadsBackProperty req.propertyId)
    (encodes : Encodes value req.value) :
    decodeWriteProperty (writeProperty req value).body = .ok req := by
  let b : WholeWrite :=
    { head :=
        { object := idField req.objectId
          property := uintField req.propertyId.toU32
          arrayIndex := req.arrayIndex.map uintField
          identifier := rfl }
      value
      read := req.value
      priority := (req.priority.map UInt8.toUInt32).map uintField
      rest := []
      encodes
      ends := settled_end _ _ }
  have octets : (writeProperty req value).body = b.octets := by
    have index : indexOctets (req.arrayIndex.map uintField) = optionalU32 2 req.arrayIndex :=
      optional_uintField 2 req.arrayIndex
    simp only [b, body, WholeWrite.octets_eq, WriteHead.octets, index, idField_octets, uintField_octets,
      optional_uintField, List.append_nil, List.append_assoc]
    rfl
  have request : b.request = req := by
    simp only [b, WholeWrite.request, identifier_idField object, property_uintField property,
      numbers_uintField, priority_narrowed]
  rw [octets, b.decode_octets, request]

theorem booleans_uintField (v : Option Bool) :
    ((v.map fun b => if b then (1 : UInt32) else 0).map uintField).map (fun f => ofBe32 f.content != 0) =
      v := by
  cases v with
  | none => rfl
  | some b => cases b <;> rfl

theorem settled_lifetime (f lifetime : Option FieldBody) :
    Settled 2 f (optionalOctets 3 lifetime ++ []) := by
  intro _
  cases lifetime with
  | none => exact hasContextTag_end (.start [])
  | some l => exact hasContextTag_field (by decide) l.fits (.start _)

theorem decodeSubscribeCov_body {req : SubscribeCovRequest}
    (object : ReadsBackId req.monitoredObject) :
    decodeSubscribeCov (subscribeCov req).body = .ok req := by
  let b : SubscribeBody :=
    { process := uintField req.subscriberProcessId
      object := idField req.monitoredObject
      issueConfirmed := (req.issueConfirmed.map fun b => if b then 1 else 0).map uintField
      lifetime := req.lifetime.map uintField
      rest := []
      identifier := rfl
      issue := settled_lifetime _ _
      ends := settled_end _ _ }
  have octets : (subscribeCov req).body = b.octets := by
    simp only [b, body, SubscribeBody.octets, SubscribeBody.fields, idField_octets, uintField_octets,
      optional_uintField, List.append_nil]
    rfl
  have process : ofBe32 (uintField req.subscriberProcessId).content = req.subscriberProcessId :=
    ofBe32_uintContent _
  have request : b.request = req := by
    simp only [b, SubscribeBody.request, identifier_idField object, numbers_uintField, booleans_uintField,
      process]
  rw [octets, b.decode_octets, request]

theorem decode_body {r : SingleObjectRequest} (readsBack : r.ReadsBack) (flags sizes invokeId : UInt8) :
    ConfirmedRequest.decode (flags :: sizes :: invokeId :: r.choice :: r.body) =
      .ok
        { segmentedAccepted := flags &&& 0x08 != 0
          moreFollows := flags &&& 0x04 != 0
          segmentedResponseAccepted := true
          maxSegments := .unspecified
          maxResponse := 480
          invokeId
          sequenceNumber := none
          proposedWindow := none
          service := r.service } := by
  cases r with
  | readProperty req =>
    have inner := decodeReadProperty_body readsBack.1 readsBack.2
    simp only [ConfirmedRequest.decode, choice, UInt8.reduceToNat, inner, ok_bind]
    rfl
  | writeProperty req value =>
    have whole : Encodes value req.value := by
      have alone := readsBack.2.2 []
      rw [List.append_nil] at alone
      exact decodeApplicationValue_selfDelimiting.reads alone
    have inner := decodeWriteProperty_body readsBack.1 readsBack.2.1 whole
    simp only [ConfirmedRequest.decode, choice, UInt8.reduceToNat, inner, ok_bind]
    rfl
  | subscribeCov req =>
    have inner := decodeSubscribeCov_body readsBack
    simp only [ConfirmedRequest.decode, choice, UInt8.reduceToNat, inner, ok_bind]
    rfl

end SingleObjectRequest

def indexedWrite : WritePropertyRequest where
  objectId := ⟨.analogOutput, 1⟩
  propertyId := .presentValue
  arrayIndex := some 2
  value := .unsigned 300
  priority := some 8

theorem indexedWrite_decoded :
    (ConfirmedRequest.decode ([0, 4, 9, 15] ++ [0x0C, 0, 0x40, 0, 1, 0x19, 85, 0x29, 2, 0x3E, 0x22, 1, 44,
      0x3F, 0x49, 8])).map (·.service) = .ok (.writeProperty indexedWrite) := by
  have encodes : ∀ s, decodeApplicationValue ([0x22, 1, 44] ++ s) 0 = .ok (.unsigned 300, 3) :=
    fun s => (decodeApplicationValue_valueOctets_iff (v := .unsigned 300) trivial trivial s).mpr trivial
  have readsBack : (SingleObjectRequest.writeProperty indexedWrite [0x22, 1, 44]).ReadsBack :=
    ⟨by decide, by decide, encodes⟩
  exact congrArg (Except.map (·.service)) (SingleObjectRequest.decode_body readsBack 0 4 9)

end BacnetSim
