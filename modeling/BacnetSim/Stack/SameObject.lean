import BacnetSim.Encoding.Fields
import BacnetSim.Stack.Reply

/-! What a ReadProperty-ACK says about the request that it answers. -/
namespace BacnetSim
open Rust Octets Tags

/-- A ReadProperty request: any identifier, a property number and an optional array index
in content octets of their own, each field with its length in either form. -/
structure ReadPropertyPdu where
  invokeId : UInt8
  /-- The rest of the first octet and the second, which the service does not depend on. -/
  flags : UInt8
  sizes : UInt8
  object : Bool × UInt32
  property : Bool × Bytes
  arrayIndex : Option (Bool × Bytes)

namespace ReadPropertyPdu

structure WellFormed (p : ReadPropertyPdu) : Prop where
  confirmed : p.flags &&& 0xF0 = 0x00
  property : p.property.2.length ≤ 4
  arrayIndex : ∀ i ∈ p.arrayIndex, i.2.length ≤ 4

def body (p : ReadPropertyPdu) : Bytes :=
  field true 0 p.object.1 (toBe32 p.object.2) ++ (field true 1 p.property.1 p.property.2 ++
    (p.arrayIndex.map fun i => field true 2 i.1 i.2).getD [])

def octets (p : ReadPropertyPdu) : Bytes := [p.flags, p.sizes, p.invokeId, 12] ++ p.body

def propertyNumber (p : ReadPropertyPdu) : UInt32 := ofBe32 p.property.2

def index (p : ReadPropertyPdu) : Option UInt32 := p.arrayIndex.map fun i => ofBe32 i.2

def request (p : ReadPropertyPdu) : ReadPropertyRequest where
  objectId := objectIdOfRaw p.object.2
  propertyId := .fromU32 p.propertyNumber
  arrayIndex := p.index

theorem toU32_propertyId (p : ReadPropertyPdu) : p.request.propertyId.toU32 = p.propertyNumber :=
  PropertyIdentifier.toU32_fromU32 p.propertyNumber

theorem decodeReadProperty_body {p : ReadPropertyPdu} (wf : p.WellFormed) :
    decodeReadProperty p.body = .ok p.request := by
  have start := Cursor.start p.body
  have object := decodeCtxObjectId_field (by decide) start
  have number := decodeCtxU32_field (by decide) (fits_of_short wf.property) start.advance
  have behind := start.advance.advance
  simp only [decodeReadProperty, object, ok_bind, decodeCtxPropertyId, number]
  unfold request index propertyNumber
  cases given : p.arrayIndex with
  | none =>
    rw [given] at behind
    rw [decodeOptional_absent (hasContextTag_end behind)]
    rfl
  | some i =>
    rw [given] at behind
    have fits : FieldFits i.1 i.2 := fits_of_short (wf.arrayIndex i given)
    have whole := behind
    rw [Option.map_some, Option.getD_some, ← List.append_nil (field true 2 i.1 i.2)] at whole
    rw [decodeOptional_field (by decide) fits whole]
    rfl

def confirmedRequest (p : ReadPropertyPdu) : ConfirmedRequest where
  segmentedAccepted := p.flags &&& 0x08 != 0
  moreFollows := p.flags &&& 0x04 != 0
  segmentedResponseAccepted := true
  maxSegments := .unspecified
  maxResponse := 480
  invokeId := p.invokeId
  sequenceNumber := none
  proposedWindow := none
  service := .readProperty p.request

theorem decode_octets {p : ReadPropertyPdu} (wf : p.WellFormed) :
    ConfirmedRequest.decode p.octets = .ok p.confirmedRequest := by
  simp only [ConfirmedRequest.decode, octets, List.cons_append, List.nil_append,
    UInt8.reduceToNat, decodeReadProperty_body wf, ok_bind]
  rfl

end ReadPropertyPdu

def IsReadPropertyAck (apdu : Bytes) : Prop := ∃ invokeId rest, apdu = 0x30 :: invokeId :: 12 :: rest

/-- The APDU is a ReadProperty-ACK with the request's invoke id, its four
object-identifier octets, its property number and its array index. -/
def Echoes (p : ReadPropertyPdu) (apdu : Bytes) : Prop :=
  ∃ value, apdu = [0x30, p.invokeId, 12] ++
    (field true 0 false (toBe32 p.object.2) ++ (encodeCtxU32 1 p.propertyNumber ++
      (encodeArrayIndex 2 p.index ++ (encodeOpeningTag 3 ++ (value ++ encodeClosingTag 3)))))

def KnownType (raw : UInt32) : Prop := (ObjectType.fromU16 (raw >>> 22).toUInt16).isSome

instance (raw : UInt32) : Decidable (KnownType raw) := inferInstanceAs (Decidable (_ = true))

/-- An identifier keeps its octets through the decoder exactly when its type is known:
an unknown one comes out as a Device. -/
theorem raw_kept_iff (raw : UInt32) : rawOfObjectId (objectIdOfRaw raw) = raw ↔ KnownType raw := by
  constructor
  · intro kept
    cases found : ObjectType.fromU16 (raw >>> 22).toUInt16 with
    | some t => simp [KnownType, found]
    | none =>
      have device : (objectIdOfRaw raw).objectType = .device := by rw [objectIdOfRaw, found]; rfl
      have code := typeCode_rawOfObjectId (objectIdOfRaw raw)
      rw [kept, device] at code
      rw [code] at found
      cases found
  · intro known
    obtain ⟨t, found⟩ := Option.isSome_iff_exists.mp known
    exact rawOfObjectId_objectIdOfRaw found

section Answer
variable {Obj : Type} [BacnetObject Obj] (hash : Hasher)

theorem handleReadProperty_ack {now : Now} {req : ReadPropertyRequest} {store : ObjectStore Obj}
    {deviceId : DeviceId} {ack : ComplexAck}
    (answered : handleReadProperty hash now req store deviceId = .ok ack) :
    ∃ value, ack.service = .readProperty ⟨req.objectId, req.propertyId, req.arrayIndex, value⟩ := by
  obtain ⟨r, _, rest⟩ := bind_eq_ok answered
  obtain ⟨read, _, rest⟩ := bind_eq_ok rest
  obtain ⟨value, _, done⟩ := bind_eq_ok rest
  cases done
  exact ⟨value, rfl⟩

namespace ApduDispatcher

theorem serve_readProperty (now : Clock) (d : ApduDispatcher Obj) {req : ConfirmedRequest}
    {r : ReadPropertyRequest} (service : req.service = .readProperty r) (deviceId : DeviceId) :
    (∃ value, (d.serve hash now req deviceId).1 = .ok (ComplexAck.encode
        ⟨req.invokeId, .readProperty ⟨r.objectId, r.propertyId, r.arrayIndex, value⟩⟩)) ∨
      ∃ e, (d.serve hash now req deviceId).1 = .ok (encodeErrorPdu req.invokeId 12 e) := by
  simp only [serve, service]
  cases read : handleReadProperty hash (now 0 0) r d.store deviceId with
  | ok ack =>
    obtain ⟨value, about⟩ := handleReadProperty_ack hash read
    exact .inl ⟨value, by simp only [replyTo, about]⟩
  | error f =>
    cases f with
    | err e => exact .inr ⟨e, rfl⟩
    | panicked => exact absurd read (handleReadProperty_safe hash _ _ _ _)

theorem handleFrame_octets (now : Clock) (d : ApduDispatcher Obj) (frame : InboundFrame) {npdu : Npdu}
    (header : Npdu.decode frame.npdu = .ok npdu) (local_ : npdu.control.networkMessage = false)
    {p : ReadPropertyPdu} (wf : p.WellFormed) (octets : npdu.apdu = p.octets) :
    d.handleFrame hash now frame = d.handleConfirmed hash now p.confirmedRequest frame.src := by
  have decoded := ReadPropertyPdu.decode_octets wf
  have request : npdu.apdu = p.flags :: p.sizes :: p.invokeId :: 12 :: p.body := octets
  rw [← octets, request] at decoded
  simp only [handleFrame, header, local_, request, Bool.false_eq_true, if_false, wf.confirmed,
    if_true, decoded, onDecoded]

theorem handleFrame_ack (now : Clock) (d : ApduDispatcher Obj) (frame : InboundFrame) {npdu : Npdu}
    (header : Npdu.decode frame.npdu = .ok npdu) (local_ : npdu.control.networkMessage = false)
    {p : ReadPropertyPdu} (wf : p.WellFormed) (octets : npdu.apdu = p.octets) {apdu : Bytes}
    (answered : (d.handleFrame hash now frame).sent =
      [⟨.unicast frame.src, Npdu.encodeLocal false apdu⟩])
    (isAck : IsReadPropertyAck apdu) :
    ∃ value, apdu = ComplexAck.encode ⟨p.invokeId,
      .readProperty ⟨p.request.objectId, p.request.propertyId, p.request.arrayIndex, value⟩⟩ := by
  rw [handleFrame_octets hash now d frame header local_ wf octets] at answered
  cases resolved : (d.resolveDevice p.confirmedRequest frame.src).1 with
  | error f =>
    rw [handleConfirmed_unresolved hash now resolved] at answered
    cases answered
  | ok device =>
    have service : p.confirmedRequest.service = .readProperty p.request := rfl
    rcases serve_readProperty hash now (d.resolveDevice p.confirmedRequest frame.src).2 service device
      with ⟨value, ack⟩ | ⟨e, error⟩
    · rw [handleConfirmed_resolved hash now resolved ack] at answered
      obtain ⟨frameSent, _⟩ := List.cons.inj answered
      have same : apdu = _ := (Npdu.encodeLocal_injective (OutboundFrame.mk.inj frameSent).2).symm
      exact ⟨value, same⟩
    · rw [handleConfirmed_resolved hash now resolved error] at answered
      obtain ⟨frameSent, _⟩ := List.cons.inj answered
      obtain ⟨invokeId, rest, starts⟩ := isAck
      have same := Npdu.encodeLocal_injective (OutboundFrame.mk.inj frameSent).2
      rw [starts] at same
      exact absurd (List.cons.inj same).1 (by decide)

/-- The answer to a ReadProperty is about the identifier asked for exactly when the
lookup of object types covers it. -/
theorem readPropertyAck_echoes_iff (now : Clock) (d : ApduDispatcher Obj) (frame : InboundFrame)
    {npdu : Npdu} (header : Npdu.decode frame.npdu = .ok npdu)
    (local_ : npdu.control.networkMessage = false) {p : ReadPropertyPdu} (wf : p.WellFormed)
    (octets : npdu.apdu = p.octets) {apdu : Bytes}
    (answered : (d.handleFrame hash now frame).sent =
      [⟨.unicast frame.src, Npdu.encodeLocal false apdu⟩])
    (isAck : IsReadPropertyAck apdu) : Echoes p apdu ↔ KnownType p.object.2 := by
  obtain ⟨value, ack⟩ := handleFrame_ack hash now d frame header local_ wf octets answered isAck
  rw [← raw_kept_iff, ack, ComplexAck.encode_readProperty]
  constructor
  · rintro ⟨octets', echoed⟩
    have object := (List.append_inj echoed rfl).2
    rw [encodeReadPropertyAck, encodeCtxObjectId_eq] at object
    obtain ⟨_, content, _⟩ := field_unique (by decide) (by decide) (fits_of_short (by simp))
      (fits_of_short (by simp)) object
    exact toBe32_injective content
  · intro kept
    refine ⟨valueOctets value, ?_⟩
    rw [encodeReadPropertyAck, encodeCtxObjectId_eq, p.toU32_propertyId]
    simp only [ReadPropertyPdu.request, kept]

end ApduDispatcher

end Answer

def oneStoredDevice : ApduDispatcher DeviceObject :=
  (ApduDispatcher.new (ObjectStore.new.insert (fun _ _ => 0) ⟨1⟩ (.new ⟨1⟩ "device-1"))).registerDevice
    (.new 1)

def readIdentifierPdu (raw : UInt32) : ReadPropertyPdu where
  invokeId := 9
  flags := 0
  sizes := 4
  object := (false, raw)
  property := (false, [75])
  arrayIndex := none

def readIdentifierFrame (raw : UInt32) : InboundFrame :=
  ⟨someClient, Npdu.encodeLocal true (readIdentifierPdu raw).octets⟩

theorem readIdentifierPdu_wellFormed (raw : UInt32) : (readIdentifierPdu raw).WellFormed where
  confirmed := by simp [readIdentifierPdu]
  property := by simp [readIdentifierPdu]
  arrayIndex i mem := by cases mem

def deviceOneAck : Bytes :=
  [0x30, 9, 12, 0x0C, 0x02, 0, 0, 1, 0x19, 75, 0x3E, 0xC4, 0x02, 0, 0, 1, 0x3F]

theorem stored_device_echoed : Echoes (readIdentifierPdu 0x02000001) deviceOneAck :=
  (ApduDispatcher.readPropertyAck_echoes_iff (fun _ _ => 0) (fun _ _ => ⟨⟨0⟩, ⟨0⟩⟩) oneStoredDevice
    (readIdentifierFrame 0x02000001) rfl rfl (readIdentifierPdu_wellFormed 0x02000001) rfl rfl
    ⟨9, _, rfl⟩).mpr (by decide)

/-- Calendar 1, a type that the lookup leaves out, is answered as Device 1. -/
theorem calendar_answered_as_device :
    ¬ ∀ (d : ApduDispatcher DeviceObject) (frame : InboundFrame) (npdu : Npdu) (p : ReadPropertyPdu)
      (apdu : Bytes), Npdu.decode frame.npdu = .ok npdu → npdu.control.networkMessage = false →
      p.WellFormed → npdu.apdu = p.octets →
      (d.handleFrame (fun _ _ => 0) (fun _ _ => ⟨⟨0⟩, ⟨0⟩⟩) frame).sent =
        [⟨.unicast frame.src, Npdu.encodeLocal false apdu⟩] →
      IsReadPropertyAck apdu → Echoes p apdu := by
  intro claim
  obtain ⟨value, echoed⟩ := claim oneStoredDevice (readIdentifierFrame 0x01800001) _
    (readIdentifierPdu 0x01800001) deviceOneAck rfl rfl (readIdentifierPdu_wellFormed 0x01800001) rfl
    rfl ⟨9, _, rfl⟩
  cases echoed

end BacnetSim
