import BacnetSim.Codec.Grammar
import BacnetSim.Codec.RpmGrammar

/-! Confirmed requests with the segmented header, which has a sequence number and a window before
the service choice. The decoder knows the other header only. -/
namespace BacnetSim
open Rust Octets Tags

variable {body : Bytes}

def decodeService (choice : UInt8) (body : Bytes) : Result ConfirmedServiceRequest :=
  match choice.toNat with
  | 12 => do .ok (.readProperty (← decodeReadProperty body))
  | 14 => do .ok (.readPropertyMultiple (← decodeRpm body))
  | 15 => do .ok (.writeProperty (← decodeWriteProperty body))
  | 5 => do .ok (.subscribeCov (← decodeSubscribeCov body))
  | other => fail (.decodeError s!"unsupported confirmed service choice {other}")

theorem decode_eq_decodeService (flags sizes invokeId choice : UInt8) (body : Bytes) :
    ConfirmedRequest.decode (flags :: sizes :: invokeId :: choice :: body) =
      decodeService choice body >>= fun service => .ok
        { segmentedAccepted := flags &&& 0x08 != 0
          moreFollows := flags &&& 0x04 != 0
          segmentedResponseAccepted := true
          maxSegments := .unspecified
          maxResponse := 480
          invokeId
          sequenceNumber := none
          proposedWindow := none
          service } := by
  by_cases read : choice.toNat = 12
  · simp only [ConfirmedRequest.decode, decodeService, read]
    cases decodeReadProperty body <;> rfl
  by_cases readMultiple : choice.toNat = 14
  · simp only [ConfirmedRequest.decode, decodeService, readMultiple]
    cases decodeRpm body <;> rfl
  by_cases write : choice.toNat = 15
  · simp only [ConfirmedRequest.decode, decodeService, write]
    cases decodeWriteProperty body <;> rfl
  by_cases subscribe : choice.toNat = 5
  · simp only [ConfirmedRequest.decode, decodeService, subscribe]
    cases decodeSubscribeCov body <;> rfl
  -- no other number is a choice
  simp only [ConfirmedRequest.decode, decodeService]

/-- A body of this service by its grammar, or one that the decoder fails on before its end. -/
def ReadsAsService (choice : UInt8) (body : Bytes) : Prop :=
  match choice.toNat with
  | 12 => ∃ b : ReadBody, body = b.octets
  | 14 => ∃ specs : List SpecBody, body = specs.flatMap (·.octets)
  | 15 => (∃ b : WholeWrite, body = b.octets) ∨ WritesMissingBits body
  | 5 => ∃ b : SubscribeBody, body = b.octets
  | _ => False

theorem refused_iff_of_form {α β : Type} {decode : Bytes → Result α} {octets : β → Bytes} {request : β → α}
    (safe : Safe (decode body)) (accepted : ∀ r, decode body = .ok r → ∃ b, body = octets b)
    (decoded : ∀ b, decode (octets b) = .ok (request b)) :
    Refused (decode body) ↔ ¬ ∃ b, body = octets b := by
  refine refused_iff accepted (fun crashed => absurd crashed safe) ?_
  rintro ⟨b, rfl⟩
  rw [decoded]
  exact not_refused_ok _

theorem readProperty_refused_iff :
    Refused (decodeReadProperty body) ↔ ¬ ∃ b : ReadBody, body = b.octets :=
  refused_iff_of_form (decodeReadProperty_safe body) (fun _ read => ReadBody.of_decode read)
    ReadBody.decode_octets

theorem rpm_refused_iff :
    Refused (decodeRpm body) ↔ ¬ ∃ specs : List SpecBody, body = specs.flatMap (·.octets) := by
  refine refused_iff_of_form (decodeRpm_safe body) (fun _ read => ?_) decodeRpm_octets
  obtain ⟨specs, same, _⟩ := decodeRpm_accepted read
  exact ⟨specs, same⟩

theorem writeProperty_refused_iff : Refused (decodeWriteProperty body) ↔
    ¬ ((∃ b : WholeWrite, body = b.octets) ∨ WritesMissingBits body) := by
  refine refused_iff (fun _ read => .inl (WholeWrite.of_decode read))
    (fun crashed => .inr ((decodeWriteProperty_panicked_iff body).mp crashed)) ?_
  rintro (⟨b, rfl⟩ | missing)
  · rw [b.decode_octets]
    exact not_refused_ok _
  · rw [(decodeWriteProperty_panicked_iff body).mpr missing]
    exact nofun

theorem subscribeCov_refused_iff :
    Refused (decodeSubscribeCov body) ↔ ¬ ∃ b : SubscribeBody, body = b.octets :=
  refused_iff_of_form (decodeSubscribeCov_safe body) (fun _ read => SubscribeBody.of_decode read)
    SubscribeBody.decode_octets

theorem decodeService_refused_iff (choice : UInt8) (body : Bytes) :
    Refused (decodeService choice body) ↔ ¬ ReadsAsService choice body := by
  unfold decodeService ReadsAsService
  split
  · exact (refused_map_iff _).trans readProperty_refused_iff
  · exact (refused_map_iff _).trans rpm_refused_iff
  · exact (refused_map_iff _).trans writeProperty_refused_iff
  · exact (refused_map_iff _).trans subscribeCov_refused_iff
  · exact iff_of_true ⟨_, rfl⟩ id

structure SegmentedRequest where
  flags : UInt8
  sizes : UInt8
  invokeId : UInt8
  sequenceNumber : UInt8
  proposedWindow : UInt8
  choice : UInt8
  body : Bytes
  confirmed : flags >>> 4 = 0
  segmented : flags &&& 0x08 ≠ 0

namespace SegmentedRequest

def octets (p : SegmentedRequest) : Bytes :=
  p.flags :: p.sizes :: p.invokeId :: p.sequenceNumber :: p.proposedWindow :: p.choice :: p.body

def NotMisread (p : SegmentedRequest) : Prop :=
  Refused (ConfirmedRequest.decode p.octets) ∨
    ∃ r, ConfirmedRequest.decode p.octets = .ok r ∧ decodeService p.choice p.body = .ok r.service ∧
      r.sequenceNumber = some p.sequenceNumber ∧ r.proposedWindow = some p.proposedWindow

/-- A segmented request is not misread exactly when the octets from its sequence number on make
no request of their own. -/
theorem notMisread_iff (p : SegmentedRequest) :
    p.NotMisread ↔ ¬ ReadsAsService p.sequenceNumber (p.proposedWindow :: p.choice :: p.body) := by
  rw [← decodeService_refused_iff, NotMisread, octets, decode_eq_decodeService]
  refine (or_iff_left ?_).trans (refused_map_iff _)
  rintro ⟨r, decoded, _, number, _⟩
  obtain ⟨service, _, eq⟩ := bind_eq_ok decoded
  cases eq
  cases number

end SegmentedRequest

def fifteenthSegment : SegmentedRequest where
  flags := 0x08
  sizes := 4
  invokeId := 9
  sequenceNumber := 15
  proposedWindow := 0x0C
  choice := 0
  body := [0x40, 0, 1, 0x19, 85, 0x3E, 0x44, 0x42, 0xC8, 0, 0, 0x3F]
  confirmed := rfl
  segmented := by decide

/-- It is taken for a write to an analog output. -/
theorem fifteenthSegment_misread : ¬ ∀ p : SegmentedRequest, p.NotMisread := by
  intro claim
  have read : ∃ r, decodeWriteProperty
      [0x0C, 0, 0x40, 0, 1, 0x19, 85, 0x3E, 0x44, 0x42, 0xC8, 0, 0, 0x3F] = .ok r := ⟨_, rfl⟩
  obtain ⟨r, read⟩ := read
  exact fifteenthSegment.notMisread_iff.mp (claim _) (.inl (WholeWrite.of_decode read))

end BacnetSim
