import BacnetSim.Codec.Confirmed
import BacnetSim.Encoding.SelfDelimiting

/-! The octets of a WriteProperty request: a head up to the opening bracket, then the value,
the closing bracket and the priority. -/
namespace BacnetSim
open Rust Octets Tags

variable {body stream value : Bytes} {pos : Nat}

def optionalOctets (t : UInt8) (f : Option FieldBody) : Bytes := (f.map fun f => f.octets true t).getD []

def Settled (t : UInt8) (f : Option FieldBody) (rest : Bytes) : Prop :=
  f = none → hasContextTag rest 0 t = false

theorem hasContextTag_at (at_ : Cursor body pos stream) (t : UInt8) :
    hasContextTag body pos t = hasContextTag stream 0 t := by
  rw [hasContextTag, peek, at_.peek]
  rfl

theorem decodeOptional_safe {α : Type} {decode : Bytes → Nat → UInt8 → Result (α × Nat)}
    {body : Bytes} {pos : Nat} {number : UInt8} (inner : Safe (decode body pos number)) :
    Safe (decodeOptional decode body pos number) := by
  unfold decodeOptional
  split
  · exact inner.bind fun _ _ => safe_ok _
  · exact safe_ok _

theorem optional_octets {t : UInt8} {f : Option FieldBody} {rest : Bytes} (ht : t < 15)
    (settled : Settled t f rest) (at_ : Cursor body pos (optionalOctets t f ++ rest)) :
    decodeOptional decodeCtxU32 body pos t =
      .ok (f.map fun f => ofBe32 f.content, pos + (optionalOctets t f).length) := by
  cases f with
  | none => exact decodeOptional_absent ((hasContextTag_at at_ t).trans (settled rfl))
  | some f => exact decodeOptional_field ht f.fits at_

theorem optional_accepted {t : UInt8} {r : Option UInt32 × Nat} (ht : t < 15)
    (at_ : Cursor body pos stream) (read : decodeOptional decodeCtxU32 body pos t = .ok r) :
    ∃ (f : Option FieldBody) (rest : Bytes), stream = optionalOctets t f ++ rest ∧
      Settled t f rest ∧ r.2 = pos + (optionalOctets t f).length := by
  unfold decodeOptional at read
  split at read
  · obtain ⟨number, inner, eq⟩ := bind_eq_ok read
    obtain ⟨f, rest, same, stop⟩ := decodeCtxU32_accepted ht at_ inner
    cases eq
    exact ⟨some f, rest, same, nofun, stop⟩
  · rename_i absent
    cases read
    rw [hasContextTag_at at_] at absent
    exact ⟨none, stream, rfl, fun _ => Bool.eq_false_iff.mpr absent, rfl⟩

theorem optional_uintField (t : UInt8) (v : Option UInt32) :
    optionalOctets t (v.map uintField) = (v.map (encodeCtxU32 t)).getD [] := by
  cases v with
  | none => rfl
  | some v => exact uintField_octets t v

def indexOctets (arrayIndex : Option FieldBody) : Bytes :=
  (arrayIndex.map fun f => f.octets true 2).getD []

theorem arrayIndex_accepted {r : Option UInt32 × Nat} (at_ : Cursor body pos stream)
    (read : decodeOptional decodeCtxU32 body pos 2 = .ok r) :
    ∃ (a : Option FieldBody) (rest : Bytes), stream = indexOctets a ++ rest ∧
      r.2 = pos + (indexOctets a).length := by
  obtain ⟨a, rest, same, _, stop⟩ := optional_accepted (by decide) at_ read
  exact ⟨a, rest, same, stop⟩

theorem arrayIndex_octets (a : Option FieldBody)
    (at_ : Cursor body pos (indexOctets a ++ (encodeOpeningTag 3 ++ value))) :
    decodeOptional decodeCtxU32 body pos 2 =
      .ok (a.map fun f => ofBe32 f.content, pos + (indexOctets a).length) := by
  have settled : Settled 2 a (encodeOpeningTag 3 ++ value) :=
    fun _ => hasContextTag_opening (by decide) (.start _)
  exact optional_octets (by decide) settled at_

structure WriteHead where
  object : FieldBody
  property : FieldBody
  arrayIndex : Option FieldBody
  identifier : object.content.length = 4

namespace WriteHead

def octets (h : WriteHead) : Bytes :=
  h.object.octets true 0 ++ (h.property.octets true 1 ++
    (indexOctets h.arrayIndex ++ encodeOpeningTag 3))

theorem octets_append (h : WriteHead) (rest : Bytes) :
    h.octets ++ rest = h.object.octets true 0 ++ (h.property.octets true 1 ++
      (indexOctets h.arrayIndex ++ (encodeOpeningTag 3 ++ rest))) := by
  simp only [octets, List.append_assoc]

def finish (h : WriteHead) (body : Bytes) : Result WritePropertyRequest := do
  let (value, pos) ← decodeApplicationValue body h.octets.length
  if !isClosing body pos 3 then
    fail (.decodeError "WriteProperty: expected closing tag [3] for property-value")
  else
    let (priority, _) ← decodeOptional decodeCtxU32 body (pos + 1) 4
    .ok
      { objectId := objectIdOfRaw (ofBe32 h.object.content)
        propertyId := .fromU32 (ofBe32 h.property.content)
        arrayIndex := h.arrayIndex.map fun f => ofBe32 f.content
        value
        priority := priority.map UInt32.toUInt8 }

theorem decode_eq_finish (h : WriteHead) (rest : Bytes) :
    decodeWriteProperty (h.octets ++ rest) = h.finish (h.octets ++ rest) := by
  have start : Cursor (h.octets ++ rest) 0 (h.object.octets true 0 ++ (h.property.octets true 1 ++
      (indexOctets h.arrayIndex ++ (encodeOpeningTag 3 ++ rest)))) := by
    rw [← octets_append]
    exact .start _
  have first := decodeCtxObjectId_octets (by decide) h.identifier start
  have second := decodeCtxPropertyId_octets (by decide) start.advance
  have third := arrayIndex_octets h.arrayIndex start.advance.advance
  have opening := isOpening_encode (by decide) start.advance.advance.advance
  have stop : 0 + (h.object.octets true 0).length + (h.property.octets true 1).length +
      (indexOctets h.arrayIndex).length + 1 = h.octets.length := by
    have bracket : (encodeOpeningTag 3).length = 1 := rfl
    simp only [octets, List.length_append, bracket]
    omega
  simp only [decodeWriteProperty, first, second, third, opening, ok_bind, Bool.not_true,
    Bool.false_eq_true, if_false, stop, finish]

theorem refused_or_head (body : Bytes) :
    (∃ e, decodeWriteProperty body = fail e) ∨
      ∃ (h : WriteHead) (rest : Bytes), body = h.octets ++ rest := by
  refine (decodeCtxObjectId_safe 0).refused_or fun ⟨oid, afterObject⟩ object => ?_
  obtain ⟨f, rest, four, rfl, stop⟩ := decodeCtxObjectId_accepted (by decide) (.start body) object
  obtain rfl : afterObject = 0 + (f.octets true 0).length := stop
  have atProperty := (Cursor.start (f.octets true 0 ++ rest)).advance
  refine (decodeCtxPropertyId_safe 1).refused_or fun ⟨id, afterProperty⟩ property => ?_
  obtain ⟨g, rest, rfl, stop⟩ := decodeCtxPropertyId_accepted (by decide) atProperty property
  obtain rfl : afterProperty = 0 + (f.octets true 0).length + (g.octets true 1).length := stop
  have atIndex := atProperty.advance
  refine (decodeOptional_safe (decodeCtxU32_safe 2)).refused_or
    fun ⟨index, afterIndex⟩ optional => ?_
  obtain ⟨a, rest, rfl, stop⟩ := arrayIndex_accepted atIndex optional
  obtain rfl : afterIndex = 0 + (f.octets true 0).length + (g.octets true 1).length +
    (indexOctets a).length := stop
  dsimp only
  split
  · exact .inl ⟨_, rfl⟩
  · rename_i bracket
    obtain ⟨rest, rfl⟩ := isOpening_accepted atIndex.advance (by simpa using bracket)
    exact .inr ⟨⟨f, g, a, four⟩, rest, ((WriteHead.mk f g a four).octets_append rest).symm⟩

theorem cursor (h : WriteHead) (rest : Bytes) : Cursor (h.octets ++ rest) h.octets.length rest :=
  ⟨h.octets, rfl, rfl⟩

end WriteHead

/-- A body with a priority field: the head, the octets of the value, the field, and any
octets behind it. -/
structure WriteBody where
  head : WriteHead
  value : Bytes
  priority : FieldBody
  rest : Bytes

namespace WriteBody

def octets (b : WriteBody) : Bytes :=
  b.head.octets ++ (b.value ++ (encodeClosingTag 3 ++ (b.priority.octets true 4 ++ b.rest)))

def Holds (b : WriteBody) (v : PropertyValue) : Prop :=
  decodeApplicationValue b.octets b.head.octets.length =
    .ok (v, b.head.octets.length + b.value.length)

def request (b : WriteBody) (v : PropertyValue) : WritePropertyRequest where
  objectId := objectIdOfRaw (ofBe32 b.head.object.content)
  propertyId := .fromU32 (ofBe32 b.head.property.content)
  arrayIndex := b.head.arrayIndex.map fun f => ofBe32 f.content
  value := v
  priority := some (ofBe32 b.priority.content).toUInt8

theorem decode_octets {b : WriteBody} {v : PropertyValue} (holds : b.Holds v) :
    decodeWriteProperty b.octets = .ok (b.request v) := by
  have atClosing : Cursor b.octets (b.head.octets.length + b.value.length)
      (encodeClosingTag 3 ++ (b.priority.octets true 4 ++ b.rest)) := (b.head.cursor _).advance
  have atPriority : Cursor b.octets (b.head.octets.length + b.value.length + 1)
      (b.priority.octets true 4 ++ b.rest) := atClosing.advance
  have closing := isClosing_encode (by decide) atClosing
  have priority := decodeOptional_field (by decide) b.priority.fits atPriority
  have decoded : decodeWriteProperty b.octets = b.head.finish b.octets := b.head.decode_eq_finish _
  rw [decoded, WriteHead.finish, holds, ok_bind]
  simp only [closing, priority, ok_bind, Bool.not_true, Bool.false_eq_true, if_false]
  rfl

theorem of_decode {body : Bytes} {w : WritePropertyRequest}
    (read : decodeWriteProperty body = .ok w) (carried : w.priority ≠ none) :
    ∃ (b : WriteBody) (v : PropertyValue), body = b.octets ∧ b.Holds v := by
  rcases WriteHead.refused_or_head body with ⟨e, refused⟩ | ⟨h, rest, rfl⟩
  · rw [refused] at read
    cases read
  rw [h.decode_eq_finish] at read
  obtain ⟨⟨v, afterValue⟩, value, read⟩ := bind_eq_ok read
  obtain ⟨octets, rest, rfl, stop, _⟩ :=
    decodeApplicationValue_selfDelimiting (h.cursor rest) value
  obtain rfl : afterValue = h.octets.length + octets.length := stop
  dsimp only at read
  split at read
  · cases read
  rename_i closing
  have atClosing := (h.cursor (octets ++ rest)).advance
  obtain ⟨rest, rfl⟩ := isClosing_accepted atClosing (by simpa using closing)
  obtain ⟨⟨priority, _⟩, optional, eq⟩ := bind_eq_ok read
  cases eq
  obtain ⟨f, rest, rfl, settled, _⟩ := optional_accepted (by decide) atClosing.advance optional
  cases f with
  | none =>
    cases optional.symm.trans (optional_octets (by decide) settled atClosing.advance)
    exact absurd rfl carried
  | some f =>
    exact ⟨⟨h, octets, f, rest⟩, v, rfl, value⟩

end WriteBody

end BacnetSim
