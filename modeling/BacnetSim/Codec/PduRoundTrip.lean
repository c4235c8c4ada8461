import BacnetSim.Codec.Ack
import BacnetSim.Codec.RpmRequest
import BacnetSim.Codec.Unconfirmed

/-! Which APDUs are read back from their own encoding. No encoder writes the body of a
confirmed request, and the I-Am and ComplexACK decoders fill fields in that they do not read. -/
namespace BacnetSim
open Rust Octets Tags

def limitOctets (t : UInt8) (limit : Option UInt32) : Bytes :=
  (limit.map (encodeCtxU32 t)).getD []

/-- A Who-Is with each limit that is present written. `UnconfirmedRequest.encode` writes
the limits as a pair only. -/
def whoIsOctets (low high : Option UInt32) : Bytes :=
  [0x10, 0x08] ++ limitOctets 0 low ++ limitOctets 1 high

theorem hasContextTag_limit {body : Bytes} {pos : Nat} {t n : UInt8} {limit : Option UInt32}
    (ht : t < 15) (other : (t == n) = false) (at_ : Cursor body pos (limitOctets t limit)) :
    hasContextTag body pos n = false := by
  cases limit with
  | none => exact hasContextTag_end at_
  | some v =>
    have tagged : Cursor body pos (encodeCtxU32 t v ++ []) := by
      rw [List.append_nil]
      exact at_
    exact (hasContextTag_encode ht v tagged).trans other

theorem decodeWhoIs_limitOctets (low high : Option UInt32) :
    UnconfirmedRequest.decodeWhoIs (limitOctets 0 low ++ limitOctets 1 high) =
      .ok ⟨low, high⟩ := by
  have start := Cursor.start (limitOctets 0 low ++ limitOctets 1 high)
  have behind := start.advance
  have lowAbsent : low = none →
      hasContextTag (limitOctets 0 low ++ limitOctets 1 high) 0 0 = false := by
    rintro rfl
    exact hasContextTag_limit (by decide) (by decide) start
  have first : decodeOptional decodeCtxU32 (limitOctets 0 low ++ limitOctets 1 high) 0 0 =
      .ok (low, 0 + (limitOctets 0 low).length) :=
    decodeOptional_written (by decide) lowAbsent start
  rw [← List.append_nil (limitOctets 1 high)] at behind
  have second : decodeOptional decodeCtxU32 (limitOctets 0 low ++ (limitOctets 1 high ++ []))
      (0 + (limitOctets 0 low).length) 1 =
      .ok (high, 0 + (limitOctets 0 low).length + (limitOctets 1 high).length) :=
    decodeOptional_written (by decide) (by rintro rfl; exact hasContextTag_end behind) behind
  rw [List.append_nil] at second
  simp only [UnconfirmedRequest.decodeWhoIs, first, second, ok_bind]

theorem decode_whoIsOctets (low high : Option UInt32) :
    UnconfirmedRequest.decode (whoIsOctets low high) = .ok (.whoIs ⟨low, high⟩) := by
  have body := decodeWhoIs_limitOctets low high
  simp only [whoIsOctets, UnconfirmedRequest.decode, List.cons_append, List.nil_append,
    bne_self_eq_false, Bool.false_eq_true, if_false, UInt8.reduceToNat, body, ok_bind]

inductive Pdu where
  | confirmed (r : ConfirmedRequest)
  | whoIs (w : WhoIsRequest)
  | iAm (i : IAmRequest)
  | complexAck (a : ComplexAck)

namespace Pdu

def InRange : Pdu → Prop
  | iAm i => Is22Bit i.deviceInstance
  | _ => True

def RoundTrips : Pdu → Prop
  | confirmed r => ∃ r', ConfirmedRequest.decode r.encode = .ok r' ∧ r'.invokeId = r.invokeId ∧
      r'.service = r.service
  | whoIs w => UnconfirmedRequest.decode (UnconfirmedRequest.whoIs w).encode = .ok (.whoIs w)
  | iAm i => UnconfirmedRequest.decode (UnconfirmedRequest.iAm i).encode = .ok (.iAm i)
  | complexAck a => ∃ a', ComplexAck.decode a.encode = .ok a' ∧ a'.invokeId = a.invokeId ∧
      a'.service = a.service

/-- The fields that are lost on the way have the values that the decoder puts in. -/
def Kept : Pdu → Prop
  | confirmed r => r.service = .readPropertyMultiple []
  | whoIs w => w.lowLimit.isSome = w.highLimit.isSome
  | iAm i => i.maxApduLengthAccepted = 1476 ∧ i.segmentationSupported = .noSegmentation ∧
      i.vendorId = 999
  | complexAck a => a.service = .readProperty ⟨⟨.device, 0⟩, .objectIdentifier, none, .null⟩

theorem decodeRpm_nil : decodeRpm [] = .ok [] := by
  have known : ∀ spec ∈ ([] : List ReadAccessSpec), ReadsBackSpec spec :=
    fun _ mem => absurd mem List.not_mem_nil
  exact decodeRpm_encode known

theorem confirmed_iff (r : ConfirmedRequest) : (confirmed r).RoundTrips ↔ (confirmed r).Kept := by
  obtain ⟨segmented, more, accepted, segments, response, invokeId, sequence, window, service⟩ := r
  cases service with
  | readProperty _ | writeProperty _ | subscribeCov _ =>
    -- the decoder finds no first field
    refine iff_of_false ?_ nofun
    rintro ⟨r', read, _⟩
    cases read
  | readPropertyMultiple specs =>
    have body : ∀ flags : UInt8, ConfirmedRequest.decode [flags, 0x04, invokeId, 14] =
        .ok ⟨flags &&& 0x08 != 0, flags &&& 0x04 != 0, true, .unspecified, 480, invokeId, none, none,
          .readPropertyMultiple []⟩ := by
      intro flags
      simp only [ConfirmedRequest.decode, UInt8.reduceToNat, decodeRpm_nil, ok_bind]
    constructor
    · rintro ⟨r', read, _, same⟩
      cases (body _).symm.trans read
      exact same.symm
    · intro empty
      exact ⟨_, body _, rfl, empty.symm⟩

theorem whoIs_iff (w : WhoIsRequest) : (whoIs w).RoundTrips ↔ (whoIs w).Kept := by
  obtain ⟨lowLimit, highLimit⟩ := w
  cases lowLimit with
  | none =>
    cases highLimit with
    | none => exact iff_of_true rfl rfl
    | some hi =>
      refine iff_of_false ?_ nofun
      intro read
      cases Except.ok.inj read
  | some lo =>
    cases highLimit with
    | none =>
      refine iff_of_false ?_ nofun
      intro read
      cases Except.ok.inj read
    | some hi =>
      refine iff_of_true ?_ rfl
      exact decode_whoIsOctets (some lo) (some hi)

theorem decode_encode_iAm {i : IAmRequest} (narrow : Is22Bit i.deviceInstance) :
    UnconfirmedRequest.decode (UnconfirmedRequest.iAm i).encode =
      .ok (.iAm ⟨i.deviceInstance, 1476, .noSegmentation, 999⟩) := by
  have kept : (objectIdOfRaw (rawOfObjectId ⟨.device, i.deviceInstance⟩)).instanceNumber =
      i.deviceInstance := by
    rw [objectIdOfRaw_rawOfObjectId narrow]
  have raw := ofBe32_toBe32 (rawOfObjectId ⟨.device, i.deviceInstance⟩)
  have number : ofBe32 (toBe32 (rawOfObjectId ⟨.device, i.deviceInstance⟩)) &&& 0x3FFFFF =
      i.deviceInstance := by
    rw [raw]
    exact kept
  exact congrArg (fun n => (Except.ok (.iAm ⟨n, 1476, .noSegmentation, 999⟩) :
    Result UnconfirmedRequest)) number

theorem iAm_iff {i : IAmRequest} (narrow : Is22Bit i.deviceInstance) :
    (iAm i).RoundTrips ↔ (iAm i).Kept := by
  rw [RoundTrips, decode_encode_iAm narrow]
  obtain ⟨device, maxApdu, segmentation, vendor⟩ := i
  constructor
  · intro same
    cases Except.ok.inj same
    exact ⟨rfl, rfl, rfl⟩
  · rintro ⟨apdu, segments, id⟩
    cases apdu
    cases segments
    cases id
    rfl

theorem complexAck_iff (a : ComplexAck) : (complexAck a).RoundTrips ↔ (complexAck a).Kept := by
  obtain ⟨invokeId, service⟩ := a
  have fixed : ComplexAck.decode (ComplexAck.encode ⟨invokeId, service⟩) =
      .ok ⟨invokeId, .readProperty ⟨⟨.device, 0⟩, .objectIdentifier, none, .null⟩⟩ := by
    cases service <;> rfl
  constructor
  · rintro ⟨a', read, _, same⟩
    cases fixed.symm.trans read
    exact same.symm
  · intro same
    exact ⟨_, fixed, rfl, same.symm⟩

/-- An APDU is read back exactly when the fields that are lost are the decoder's own. -/
theorem roundTrips_iff (p : Pdu) (inRange : p.InRange) : p.RoundTrips ↔ p.Kept := by
  cases p with
  | confirmed r => exact confirmed_iff r
  | whoIs w => exact whoIs_iff w
  | iAm i => exact iAm_iff inRange
  | complexAck a => exact complexAck_iff a

theorem announcement_roundTrips : (iAm ⟨42, 1476, .noSegmentation, 999⟩).RoundTrips :=
  (roundTrips_iff (iAm ⟨42, 1476, .noSegmentation, 999⟩) (show Is22Bit 42 by decide)).mpr
    ⟨rfl, rfl, rfl⟩

end Pdu

def presentValueRequest : ConfirmedRequest where
  segmentedAccepted := true
  moreFollows := false
  segmentedResponseAccepted := true
  maxSegments := .unspecified
  maxResponse := 480
  invokeId := 42
  sequenceNumber := none
  proposedWindow := none
  service := .readProperty ⟨⟨.analogInput, 1⟩, .presentValue, none⟩

/-- The request of the documented round-trip test: its encoding is refused. -/
theorem presentValueRequest_lost : ¬ ∀ p : Pdu, p.InRange → p.RoundTrips := by
  intro claim
  obtain ⟨r', read, _⟩ := claim (.confirmed presentValueRequest) trivial
  cases read

end BacnetSim
