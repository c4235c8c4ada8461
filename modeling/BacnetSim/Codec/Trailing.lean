import BacnetSim.Codec.Grammar
import BacnetSim.Encoding.Framing

/-! Octets behind the fields of a single-object request: the decoders stop after the last field
that they recognise, and do not ask whether the body ends there. -/
namespace BacnetSim
open Rust Octets Tags

variable {body rest : Bytes} {pos : Nat} {t : UInt8}

def fieldEnd (body : Bytes) (pos : Nat) : Nat :=
  pos + headSize (body.drop pos) + declaredLength (body.drop pos)

def optionalEnd (body : Bytes) (pos : Nat) (t : UInt8) : Nat :=
  if hasContextTag body pos t then fieldEnd body pos else pos

theorem fieldEnd_octets {f : FieldBody} (ht : t < 15) (at_ : Cursor body pos (f.octets true t ++ rest)) :
    fieldEnd body pos = pos + (f.octets true t).length := by
  obtain ⟨extended, content, fits⟩ := f
  obtain ⟨head, len⟩ : headSize (field true t extended content ++ rest) = _ ∧ _ := frame_of_fits ht fits
  rw [fieldEnd, at_.drop_eq, FieldBody.octets, head, len]
  cases extended with
  | true =>
    rw [if_pos rfl, field_extended]
    simp only [List.length_cons]
    omega
  | false =>
    rw [if_neg (by decide), field_direct]
    simp only [List.length_cons]
    omega

theorem optionalEnd_octets {f : Option FieldBody} (ht : t < 15) (settled : Settled t f rest)
    (at_ : Cursor body pos (optionalOctets t f ++ rest)) :
    optionalEnd body pos t = pos + (optionalOctets t f).length := by
  cases f with
  | none => exact if_neg (Bool.eq_false_iff.mp ((hasContextTag_at at_ t).trans (settled rfl)))
  | some f =>
    have tagged : hasContextTag body pos t = true :=
      (hasContextTag_field ht f.fits at_).trans (beq_self_eq_true t)
    exact (if_pos tagged).trans (fieldEnd_octets ht at_)

inductive SingleObjectService where
  | readProperty
  | writeProperty
  | subscribeCov

namespace SingleObjectService

def Accepts : SingleObjectService → Bytes → Prop
  | readProperty, body => ∃ r, decodeReadProperty body = .ok r
  | writeProperty, body => ∃ r, decodeWriteProperty body = .ok r
  | subscribeCov, body => ∃ r, decodeSubscribeCov body = .ok r

/-- The body is the fields of the service's grammar in their order, and nothing else. -/
def IsGrammatical : SingleObjectService → Bytes → Prop
  | readProperty, body => ∃ b : ReadBody, b.rest = [] ∧ body = b.octets
  | writeProperty, body => ∃ b : WholeWrite, b.rest = [] ∧ body = b.octets
  | subscribeCov, body => ∃ b : SubscribeBody, b.rest = [] ∧ body = b.octets

def fieldsEnd : SingleObjectService → Bytes → Nat
  | readProperty, body => optionalEnd body (fieldEnd body (fieldEnd body 0)) 2
  | writeProperty, body =>
    let value := optionalEnd body (fieldEnd body (fieldEnd body 0)) 2 + 1
    optionalEnd body (value + consumed (body.drop value) + 1) 4
  | subscribeCov, body => optionalEnd body (optionalEnd body (fieldEnd body (fieldEnd body 0)) 2) 3

theorem readProperty_end (b : ReadBody) : readProperty.fieldsEnd b.octets = b.fields.length := by
  have object := fieldEnd_octets (by decide) b.cursor
  have property := fieldEnd_octets (by decide) b.cursor.advance
  have index := optionalEnd_octets (by decide) b.ends b.cursor.advance.advance
  rw [fieldsEnd, object, property, index]
  simp only [ReadBody.fields, List.length_append, Nat.zero_add, Nat.add_assoc]

theorem writeHead_end (h : WriteHead) (rest : Bytes) :
    optionalEnd (h.octets ++ rest) (fieldEnd (h.octets ++ rest) (fieldEnd (h.octets ++ rest) 0)) 2 + 1 =
      h.octets.length := by
  have start : Cursor (h.octets ++ rest) 0 (h.object.octets true 0 ++ (h.property.octets true 1 ++
      (optionalOctets 2 h.arrayIndex ++ (encodeOpeningTag 3 ++ rest)))) :=
    ⟨[], h.octets_append rest, rfl⟩
  have settled : Settled 2 h.arrayIndex (encodeOpeningTag 3 ++ rest) :=
    fun _ => hasContextTag_opening (by decide) (.start _)
  have object := fieldEnd_octets (by decide) start
  have property := fieldEnd_octets (by decide) start.advance
  have index := optionalEnd_octets (by decide) settled start.advance.advance
  have bracket : (encodeOpeningTag 3).length = 1 := rfl
  have same : indexOctets h.arrayIndex = optionalOctets 2 h.arrayIndex := rfl
  rw [object, property, index]
  simp only [WriteHead.octets, same, List.length_append, bracket]
  omega

theorem consumed_value (b : WholeWrite) :
    consumed (b.octets.drop b.head.octets.length) = b.value.length := by
  have stop := (decodeApplicationValue_stop b.cursor (b.encodes b.cursor)).1
  rw [b.cursor.drop_eq]
  exact (Nat.add_left_cancel stop).symm

theorem writeProperty_end (b : WholeWrite) : writeProperty.fieldsEnd b.octets = b.fields.length := by
  have head : optionalEnd b.octets (fieldEnd b.octets (fieldEnd b.octets 0)) 2 + 1 = b.head.octets.length := by
    rw [b.octets_eq]
    exact writeHead_end b.head _
  have bracket : (encodeClosingTag 3).length = 1 := rfl
  have atPriority := b.cursor.advance.advance
  rw [bracket] at atPriority
  have priority := optionalEnd_octets (by decide) b.ends atPriority
  simp only [fieldsEnd, head, consumed_value, priority]
  simp only [WholeWrite.fields, List.length_append, bracket, Nat.add_assoc]

theorem subscribeCov_end (b : SubscribeBody) : subscribeCov.fieldsEnd b.octets = b.fields.length := by
  have process := fieldEnd_octets (by decide) b.cursor
  have object := fieldEnd_octets (by decide) b.cursor.advance
  have issue := optionalEnd_octets (by decide) b.issue b.cursor.advance.advance
  have lifetime := optionalEnd_octets (by decide) b.ends b.cursor.advance.advance.advance
  rw [fieldsEnd, process, object, issue, lifetime]
  simp only [SubscribeBody.fields, List.length_append, Nat.zero_add, Nat.add_assoc]

theorem whole_iff {β : Type} (fields tail : β → Bytes) {stop : Bytes → Nat}
    (ends : ∀ b, stop (fields b ++ tail b) = (fields b).length) (form : ∃ b, body = fields b ++ tail b) :
    (∃ b, tail b = [] ∧ body = fields b ++ tail b) ↔ stop body = body.length := by
  constructor
  · rintro ⟨b, none, rfl⟩
    rw [ends, none, List.append_nil]
  · intro whole
    obtain ⟨b, rfl⟩ := form
    rw [ends, List.length_append] at whole
    exact ⟨b, List.length_eq_zero_iff.mp (Nat.left_eq_add.mp whole), rfl⟩

/-- An accepted body is the fields of its service alone exactly when the lengths that its fields
declare add up to its own. -/
theorem accepted_grammatical_iff {s : SingleObjectService} (accepted : s.Accepts body) :
    s.IsGrammatical body ↔ s.fieldsEnd body = body.length := by
  cases s with
  | readProperty =>
    obtain ⟨r, read⟩ := accepted
    exact whole_iff ReadBody.fields ReadBody.rest readProperty_end (ReadBody.of_decode read)
  | writeProperty =>
    obtain ⟨r, read⟩ := accepted
    exact whole_iff WholeWrite.fields WholeWrite.rest writeProperty_end (WholeWrite.of_decode read)
  | subscribeCov =>
    obtain ⟨r, read⟩ := accepted
    exact whole_iff SubscribeBody.fields SubscribeBody.rest subscribeCov_end (SubscribeBody.of_decode read)

end SingleObjectService

theorem presentValue_grammatical :
    SingleObjectService.readProperty.IsGrammatical [0x0C, 0, 0, 0, 1, 0x19, 85] := by
  have accepted : SingleObjectService.readProperty.Accepts [0x0C, 0, 0, 0, 1, 0x19, 85] := ⟨_, rfl⟩
  exact (SingleObjectService.accepted_grammatical_iff accepted).mpr (by decide)

/-- A relinquishment at priority 8 behind an unknown field is decoded without its priority. -/
theorem hidden_priority_accepted : ¬ ∀ (s : SingleObjectService) (body : Bytes), s.Accepts body →
    s.IsGrammatical body := by
  intro claim
  let body : Bytes := [0x0C, 0, 0x40, 0, 1, 0x19, 85, 0x3E, 0x00, 0x3F, 0x59, 0, 0x49, 8]
  have accepted : SingleObjectService.writeProperty.Accepts body := ⟨_, rfl⟩
  have whole := (SingleObjectService.accepted_grammatical_iff accepted).mp (claim _ _ accepted)
  exact absurd whole (by decide)

end BacnetSim
