import BacnetSim.Codec.Ack
import BacnetSim.Encoding.Unambiguous

/-! A ReadPropertyMultiple answer determines its results. -/
namespace BacnetSim
open Tags PrefixCode

/-- Equal values, or errors with the same class and code. -/
inductive SameOutcome : Except BacnetError PropertyValue → Except BacnetError PropertyValue → Prop
  | ok (v : PropertyValue) : SameOutcome (.ok v) (.ok v)
  | error {e e' : BacnetError} (codes : errorClassCode e = errorClassCode e') :
    SameOutcome (.error e) (.error e')

structure SamePropertyResult (r r' : PropertyResult) : Prop where
  property : r.propertyId.toU32 = r'.propertyId.toU32
  index : r.arrayIndex = r'.arrayIndex
  outcome : SameOutcome r.value r'.value

structure SameObjectResult (r r' : ObjectPropertyResult) : Prop where
  object : r.objectId = r'.objectId
  properties : List.Forall₂ SamePropertyResult r.propertyResults r'.propertyResults

def OutcomeFits (o : Except BacnetError PropertyValue) : Prop :=
  ∀ v, o = .ok v → v.IsPrimitive ∧ v.FitsWire

structure ObjectResultFits (r : ObjectPropertyResult) : Prop where
  object : Is22Bit r.objectId.instanceNumber
  outcomes : ∀ p ∈ r.propertyResults, OutcomeFits p.value

theorem encodeCtxU32_apart {t : UInt8} {b : UInt8} {e : Bytes} (ht : t < 15) (v : UInt32)
    (differ : tagNumber b ≠ t) : Apart (encodeCtxU32 t v) (b :: e) := by
  rw [encodeCtxU32_eq]
  apply apart_of_heads
  intro same
  apply differ
  have fits : FieldFits false (uintContent v) := fits_of_short (uintContent_length v).2.2
  have small := fieldLvt_lt fits
  rw [← same, (header_parts true ht (UInt8.lt_trans small (by decide))).1]

theorem encodeOutcome_separates : Separates OutcomeFits SameOutcome encodeOutcome := by
  intro o o' s t fits fits' same
  cases o with
  | ok v =>
    cases o' with
    | ok v' =>
      simp only [encodeOutcome, List.append_assoc] at same
      have same := List.append_cancel_left same
      obtain ⟨values, rest⟩ := valueOctets_separates (fits v rfl) (fits' v' rfl) same
      rw [values]
      exact ⟨.ok v', List.append_cancel_left rest⟩
    | error e' => cases (List.cons.inj same).1
  | error e =>
    cases o' with
    | ok v' => cases (List.cons.inj same).1
    | error e' =>
      simp only [encodeOutcome, List.append_assoc] at same
      have same := List.append_cancel_left same
      obtain ⟨classes, same⟩ := encodeCtxU32_separates (by decide) trivial trivial same
      obtain ⟨codes, rest⟩ := encodeCtxU32_separates (by decide) trivial trivial same
      exact ⟨.error (Prod.ext classes codes), List.append_cancel_left rest⟩

theorem encodePropertyResult_separates :
    Separates (fun r => OutcomeFits r.value) SamePropertyResult encodePropertyResult := by
  intro r r' s t fits fits' same
  simp only [encodePropertyResult, List.append_assoc (encodeCtxU32 2 _)] at same
  obtain ⟨property, same⟩ := encodeCtxU32_separates (by decide) trivial trivial same
  have apart : ∀ v o, True → OutcomeFits o → Apart (encodeCtxU32 3 v) (encodeOutcome o) := by
    intro v o _ _
    cases o <;> exact encodeCtxU32_apart (by decide) v (by decide)
  obtain ⟨indices, outcome, rest⟩ := Separates.optional (encodeCtxU32_separates (by decide))
    encodeOutcome_separates apart (fun _ _ => trivial) (fun _ _ => trivial) fits fits' same
  have index : r.arrayIndex = r'.arrayIndex := by
    generalize r.arrayIndex = index at indices
    generalize r'.arrayIndex = index' at indices
    cases indices with
    | none => rfl
    | some same => rw [same]
  exact ⟨⟨property, index, outcome⟩, rest⟩

theorem encodeObjectResult_separates :
    Separates ObjectResultFits SameObjectResult encodeObjectResult := by
  intro r r' s t fits fits' same
  simp only [encodeObjectResult, List.append_assoc (encodeCtxObjectId 0 _),
    List.append_assoc (encodeOpeningTag 1)] at same
  obtain ⟨object, same⟩ := encodeCtxObjectId_separates (by decide) fits.object fits'.object same
  have same := List.append_cancel_left same
  have apart : ∀ p : PropertyResult, OutcomeFits p.value →
      Apart (encodePropertyResult p) (encodeClosingTag 1) := by
    intro p _
    exact (encodeCtxU32_apart (by decide) _ (by decide)).append_left
  obtain ⟨properties, rest⟩ := encodePropertyResult_separates.closed apart fits.outcomes
    fits'.outcomes same
  exact ⟨⟨object, properties⟩, rest⟩

/-- Answers with the same octets have the same results, up to what the wire cannot tell apart. -/
theorem encodeRpmAck_unambiguous {results results' : List ObjectPropertyResult}
    (fits : ∀ r ∈ results, ObjectResultFits r) (fits' : ∀ r ∈ results', ObjectResultFits r)
    (same : encodeRpmAck results = encodeRpmAck results') :
    List.Forall₂ SameObjectResult results results' := by
  refine encodeObjectResult_separates.whole ?_ fits fits' same
  intro r _
  simp [encodeObjectResult, encodeOpeningTag]

theorem two_answers_alike :
    List.Forall₂ SameObjectResult
      [⟨⟨.analogInput, 1⟩,
        [⟨.presentValue, none, .ok (.unsigned 7)⟩, ⟨.units, some 2, .error .unknownProperty⟩]⟩]
      [⟨⟨.analogInput, 1⟩,
        [⟨.unknown 85, none, .ok (.unsigned 7)⟩,
          ⟨.units, some 2, .error (.serviceError .property (.other 32))⟩]⟩] := by
  refine encodeRpmAck_unambiguous ?_ ?_ rfl
  all_goals
    intro r mem
    rw [List.mem_singleton.mp mem]
    constructor
    · exact (by decide : Is22Bit 1)
    intro p mem v read
    simp only [List.mem_cons, List.not_mem_nil, or_false] at mem
    rcases mem with rfl | rfl
    · cases read
      exact ⟨trivial, trivial⟩
    · cases read

end BacnetSim
