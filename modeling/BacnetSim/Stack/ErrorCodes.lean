import BacnetSim.Encoding.Fields
import BacnetSim.Stack.Dispatcher

/-! The two reports of one error: an Error PDU, and a result of a ReadPropertyMultiple answer. -/
namespace BacnetSim
open Octets Tags

def errorPduOctets (invokeId service : UInt8) (errorClass errorCode : Bytes) : Bytes :=
  [0x50, invokeId, service] ++ (field false 9 false errorClass ++ field false 9 false errorCode)

def errorResultOctets (errorClass errorCode : Bytes) : Bytes :=
  encodeOpeningTag 5 ++ (field true 0 false errorClass ++ (field true 1 false errorCode ++
    encodeClosingTag 5))

/-- Both reports hold a class and a code, each in at most 4 octets, and these have the same
big-endian values. -/
def SameError (pdu result : Bytes) : Prop :=
  ∃ invokeId service errorClass errorCode errorClass' errorCode',
    (errorClass.length ≤ 4 ∧ errorCode.length ≤ 4) ∧
    (errorClass'.length ≤ 4 ∧ errorCode'.length ≤ 4) ∧
    pdu = errorPduOctets invokeId service errorClass errorCode ∧
    result = errorResultOctets errorClass' errorCode' ∧
    beNat errorClass = beNat errorClass' ∧ beNat errorCode = beNat errorCode'

/-- The codes for which the two tables have one number, and which one octet holds. -/
def ErrorCode.IsShared : ErrorCode → Prop
  | .notConfigured => False
  | .other v => v < 256
  | _ => True

def BacnetError.IsShared : BacnetError → Prop
  | .serviceError _ code => code.IsShared
  | _ => True

instance (c : ErrorCode) : Decidable c.IsShared := by
  cases c <;> unfold ErrorCode.IsShared <;> infer_instance

theorem errorPduOctets_unique {i i' s s' : UInt8} {c c' v v' : Bytes}
    (short : c.length ≤ 4 ∧ v.length ≤ 4) (short' : c'.length ≤ 4 ∧ v'.length ≤ 4)
    (same : errorPduOctets i s c v = errorPduOctets i' s' c' v') : c = c' ∧ v = v' := by
  have fields := (List.append_inj same rfl).2
  obtain ⟨_, classes, fields⟩ := field_unique (by decide) (by decide) (fits_of_short short.1)
    (fits_of_short short'.1) fields
  rw [← List.append_nil (field false 9 false v), ← List.append_nil (field false 9 false v')] at fields
  obtain ⟨_, codes, _⟩ := field_unique (by decide) (by decide) (fits_of_short short.2)
    (fits_of_short short'.2) fields
  exact ⟨classes, codes⟩

theorem errorResultOctets_unique {c c' v v' : Bytes} (short : c.length ≤ 4 ∧ v.length ≤ 4)
    (short' : c'.length ≤ 4 ∧ v'.length ≤ 4)
    (same : errorResultOctets c v = errorResultOctets c' v') : c = c' ∧ v = v' := by
  have fields := List.append_cancel_left same
  obtain ⟨_, classes, fields⟩ := field_unique (by decide) (by decide) (fits_of_short short.1)
    (fits_of_short short'.1) fields
  obtain ⟨_, codes, _⟩ := field_unique (by decide) (by decide) (fits_of_short short.2)
    (fits_of_short short'.2) fields
  exact ⟨classes, codes⟩

theorem sameError_iff {i s : UInt8} {c c' v v' : Bytes} (short : c.length ≤ 4 ∧ v.length ≤ 4)
    (short' : c'.length ≤ 4 ∧ v'.length ≤ 4) :
    SameError (errorPduOctets i s c v) (errorResultOctets c' v') ↔
      beNat c = beNat c' ∧ beNat v = beNat v' := by
  constructor
  · rintro ⟨i₁, s₁, c₁, v₁, c₂, v₂, short₁, short₂, pdu, result, same⟩
    obtain ⟨rfl, rfl⟩ := errorPduOctets_unique short short₁ pdu
    obtain ⟨rfl, rfl⟩ := errorResultOctets_unique short' short₂ result
    exact same
  · intro same
    exact ⟨i, s, c, v, c', v', short, short', rfl, rfl, same⟩

theorem encodeOutcome_error (e : BacnetError) : encodeOutcome (.error e) =
    errorResultOctets (uintContent (errorClassCode e).1) (uintContent (errorClassCode e).2) := by
  simp only [encodeOutcome, encodeCtxU32_eq]
  rfl

theorem ErrorPdu.encode_eq (e : ErrorPdu) : e.encode =
    errorPduOctets e.invokeId e.service [UInt8.ofNat e.errorClass.code] [e.errorCodeByte] := by
  have tag : header false 9 (UInt8.ofNat 1) = 0x91 := by decide
  simp only [errorPduOctets, field_direct, List.length_singleton, tag]
  rfl

theorem errorClass_number (c : ErrorClass) :
    (UInt8.ofNat c.code).toNat = (UInt32.ofNat c.code).toNat := by
  cases c <;> rfl

theorem low_octet_iff (v : UInt32) : v.toUInt8.toNat = v.toNat ↔ v < 256 := by
  rw [UInt32.toNat_toUInt8, UInt32.lt_iff_toNat_lt]
  change v.toNat % 256 = v.toNat ↔ v.toNat < 256
  omega

theorem encodeErrorPdu_numbers (invokeId service : UInt8) (e : BacnetError) :
    ∃ ec code : UInt8,
      encodeErrorPdu invokeId service e = errorPduOctets invokeId service [ec] [code] ∧
      ec.toNat = (errorClassCode e).1.toNat ∧
      (code.toNat = (errorClassCode e).2.toNat ↔ e.IsShared) := by
  cases e with
  | serviceError errorClass errorCode =>
    refine ⟨_, _, ErrorPdu.encode_eq _, errorClass_number errorClass, ?_⟩
    cases errorCode with
    | other v => exact low_octet_iff v
    | notConfigured => exact iff_of_false (fun same => absurd same (by decide : (133 : Nat) ≠ 140)) id
    | _ => exact iff_of_true rfl trivial
  | _ => exact ⟨_, _, ErrorPdu.encode_eq _, rfl, iff_of_true rfl trivial⟩

theorem beNat_octet (b : UInt8) : beNat [b] = b.toNat := by simp [beNat]

/-- The two reports of an error agree exactly when its code is shared. -/
theorem reports_agree_iff (e : BacnetError) :
    (∀ invokeId service, SameError (encodeErrorPdu invokeId service e)
      (encodeOutcome (.error e))) ↔ e.IsShared := by
  have agree : ∀ invokeId service, SameError (encodeErrorPdu invokeId service e)
      (encodeOutcome (.error e)) ↔ e.IsShared := by
    intro invokeId service
    obtain ⟨ec, code, pdu, classes, codes⟩ := encodeErrorPdu_numbers invokeId service e
    rw [pdu, encodeOutcome_error, sameError_iff (by simp)
      ⟨(uintContent_length _).2.2, (uintContent_length _).2.2⟩, beNat_octet, beNat_octet,
      beNat_uintContent, beNat_uintContent, and_iff_right classes]
    exact codes
  exact ⟨fun all => (agree 0 0).mp (all 0 0), fun shared i s => (agree i s).mpr shared⟩

theorem vendor_code_truncated :
    ¬ ∀ (e : BacnetError) (invokeId service : UInt8), SameError (encodeErrorPdu invokeId service e)
      (encodeOutcome (.error e)) := by
  intro claim
  have same := claim (.serviceError .property (.other 300)) 1 12
  rw [encodeOutcome_error, encodeErrorPdu, ErrorPdu.encode_eq, sameError_iff (by simp)
    ⟨(uintContent_length _).2.2, (uintContent_length _).2.2⟩] at same
  exact absurd same.2 (by decide)

end BacnetSim
