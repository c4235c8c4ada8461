import BacnetSim.Codec.WriteRequest
import BacnetSim.Encoding.SelfDelimiting

/-! The bodies that the decoders of the single-object services accept: the fields of the
service's grammar in their order, then octets that are not looked at. -/
namespace BacnetSim
open Rust Octets Tags

variable {body stream : Bytes} {pos : Nat}

structure ReadBody where
  object : FieldBody
  property : FieldBody
  arrayIndex : Option FieldBody
  rest : Bytes
  identifier : object.content.length = 4
  ends : Settled 2 arrayIndex rest

namespace ReadBody

def fields (b : ReadBody) : Bytes :=
  b.object.octets true 0 ++ (b.property.octets true 1 ++ optionalOctets 2 b.arrayIndex)

def octets (b : ReadBody) : Bytes := b.fields ++ b.rest

def request (b : ReadBody) : ReadPropertyRequest where
  objectId := objectIdOfRaw (ofBe32 b.object.content)
  propertyId := .fromU32 (ofBe32 b.property.content)
  arrayIndex := b.arrayIndex.map fun f => ofBe32 f.content

theorem cursor (b : ReadBody) : Cursor b.octets 0 (b.object.octets true 0 ++
    (b.property.octets true 1 ++ (optionalOctets 2 b.arrayIndex ++ b.rest))) := by
  have start := Cursor.start b.octets
  unfold octets fields at start ⊢
  simp only [List.append_assoc] at start ⊢
  exact start

theorem decode_octets (b : ReadBody) : decodeReadProperty b.octets = .ok b.request := by
  have first := decodeCtxObjectId_octets (by decide) b.identifier b.cursor
  have second := decodeCtxPropertyId_octets (by decide) b.cursor.advance
  have third := optional_octets (by decide) b.ends b.cursor.advance.advance
  simp only [decodeReadProperty, first, second, third, ok_bind]
  rfl

theorem of_decode {r : ReadPropertyRequest} (read : decodeReadProperty body = .ok r) :
    ∃ b : ReadBody, body = b.octets := by
  obtain ⟨⟨oid, afterObject⟩, object, read⟩ := bind_eq_ok read
  obtain ⟨f, rest, four, rfl, stop⟩ := decodeCtxObjectId_accepted (by decide) (.start body) object
  obtain rfl : afterObject = 0 + (f.octets true 0).length := stop
  have atProperty := (Cursor.start (f.octets true 0 ++ rest)).advance
  obtain ⟨⟨id, afterProperty⟩, property, read⟩ := bind_eq_ok read
  obtain ⟨g, rest, rfl, stop⟩ := decodeCtxPropertyId_accepted (by decide) atProperty property
  obtain rfl : afterProperty = 0 + (f.octets true 0).length + (g.octets true 1).length := stop
  obtain ⟨index, optional, _⟩ := bind_eq_ok read
  obtain ⟨a, rest, rfl, ends, _⟩ := optional_accepted (by decide) atProperty.advance optional
  refine ⟨⟨f, g, a, rest, four, ends⟩, ?_⟩
  simp only [octets, fields, List.append_assoc]

end ReadBody

def Encodes (e : Bytes) (v : PropertyValue) : Prop := Reads decodeApplicationValue e v

structure WholeWrite where
  head : WriteHead
  value : Bytes
  read : PropertyValue
  priority : Option FieldBody
  rest : Bytes
  encodes : Encodes value read
  ends : Settled 4 priority rest

namespace WholeWrite

def fields (b : WholeWrite) : Bytes :=
  b.head.octets ++ (b.value ++ (encodeClosingTag 3 ++ optionalOctets 4 b.priority))

def octets (b : WholeWrite) : Bytes := b.fields ++ b.rest

/-- The number in the priority field is narrowed to an octet. -/
def request (b : WholeWrite) : WritePropertyRequest where
  objectId := objectIdOfRaw (ofBe32 b.head.object.content)
  propertyId := .fromU32 (ofBe32 b.head.property.content)
  arrayIndex := b.head.arrayIndex.map fun f => ofBe32 f.content
  value := b.read
  priority := (b.priority.map fun f => ofBe32 f.content).map UInt32.toUInt8

theorem octets_eq (b : WholeWrite) : b.octets = b.head.octets ++
    (b.value ++ (encodeClosingTag 3 ++ (optionalOctets 4 b.priority ++ b.rest))) := by
  simp only [octets, fields, List.append_assoc]

theorem cursor (b : WholeWrite) : Cursor b.octets b.head.octets.length
    (b.value ++ (encodeClosingTag 3 ++ (optionalOctets 4 b.priority ++ b.rest))) := by
  rw [octets_eq]
  exact b.head.cursor _

theorem decode_octets (b : WholeWrite) : decodeWriteProperty b.octets = .ok b.request := by
  have value := b.encodes b.cursor
  have closing := isClosing_encode (by decide) b.cursor.advance
  have priority := optional_octets (by decide) b.ends b.cursor.advance.advance
  have decoded : decodeWriteProperty b.octets = b.head.finish b.octets := by
    rw [octets_eq]
    exact b.head.decode_eq_finish _
  have bracket : (encodeClosingTag 3).length = 1 := rfl
  rw [bracket] at priority
  rw [decoded, WriteHead.finish, value, ok_bind]
  simp only [closing, priority, ok_bind, Bool.not_true, Bool.false_eq_true, if_false]
  rfl

theorem of_decode {w : WritePropertyRequest} (read : decodeWriteProperty body = .ok w) :
    ∃ b : WholeWrite, body = b.octets := by
  rcases WriteHead.refused_or_head body with ⟨e, refused⟩ | ⟨h, rest, rfl⟩
  · rw [refused] at read
    cases read
  rw [h.decode_eq_finish] at read
  obtain ⟨⟨v, afterValue⟩, value, read⟩ := bind_eq_ok read
  obtain ⟨e, rest, rfl, stop, encodes⟩ :=
    decodeApplicationValue_selfDelimiting (h.cursor rest) value
  obtain rfl : afterValue = h.octets.length + e.length := stop
  dsimp only at read
  split at read
  · cases read
  rename_i closing
  have atClosing := (h.cursor (e ++ rest)).advance
  obtain ⟨rest, rfl⟩ := isClosing_accepted atClosing (by simpa using closing)
  obtain ⟨priority, optional, _⟩ := bind_eq_ok read
  obtain ⟨p, rest, rfl, ends, _⟩ := optional_accepted (by decide) atClosing.advance optional
  exact ⟨⟨h, e, v, p, rest, encodes, ends⟩, by simp only [octets, fields, List.append_assoc]⟩

end WholeWrite

structure SubscribeBody where
  process : FieldBody
  object : FieldBody
  issueConfirmed : Option FieldBody
  lifetime : Option FieldBody
  rest : Bytes
  identifier : object.content.length = 4
  issue : Settled 2 issueConfirmed (optionalOctets 3 lifetime ++ rest)
  ends : Settled 3 lifetime rest

namespace SubscribeBody

def fields (b : SubscribeBody) : Bytes :=
  b.process.octets true 0 ++ (b.object.octets true 1 ++
    (optionalOctets 2 b.issueConfirmed ++ optionalOctets 3 b.lifetime))

def octets (b : SubscribeBody) : Bytes := b.fields ++ b.rest

def request (b : SubscribeBody) : SubscribeCovRequest where
  subscriberProcessId := ofBe32 b.process.content
  monitoredObject := objectIdOfRaw (ofBe32 b.object.content)
  issueConfirmed := b.issueConfirmed.map fun f => ofBe32 f.content != 0
  lifetime := b.lifetime.map fun f => ofBe32 f.content

theorem cursor (b : SubscribeBody) : Cursor b.octets 0 (b.process.octets true 0 ++
    (b.object.octets true 1 ++ (optionalOctets 2 b.issueConfirmed ++
      (optionalOctets 3 b.lifetime ++ b.rest)))) := by
  have start := Cursor.start b.octets
  unfold octets fields at start ⊢
  simp only [List.append_assoc] at start ⊢
  exact start

theorem decodeOptional_bool (t : UInt8) : decodeOptional decodeCtxBool body pos t =
    (do
      let (v, pos) ← decodeOptional decodeCtxU32 body pos t
      .ok (v.map (· != 0), pos)) := by
  unfold decodeOptional decodeCtxBool
  split
  · cases decodeCtxU32 body pos t <;> rfl
  · rfl

theorem decode_octets (b : SubscribeBody) : decodeSubscribeCov b.octets = .ok b.request := by
  have first := decodeCtxU32_field (by decide) b.process.fits b.cursor
  have second := decodeCtxObjectId_octets (by decide) b.identifier b.cursor.advance
  have third := optional_octets (by decide) b.issue b.cursor.advance.advance
  have fourth := optional_octets (by decide) b.ends b.cursor.advance.advance.advance
  simp only [decodeSubscribeCov, first, ok_bind]
  change (decodeCtxObjectId b.octets (0 + (b.process.octets true 0).length) 1 >>= _) = _
  simp only [second, decodeOptional_bool, third, fourth, ok_bind, Option.map_map]
  rfl

theorem of_decode {r : SubscribeCovRequest} (read : decodeSubscribeCov body = .ok r) :
    ∃ b : SubscribeBody, body = b.octets := by
  obtain ⟨⟨id, afterProcess⟩, process, read⟩ := bind_eq_ok read
  obtain ⟨f, rest, rfl, stop⟩ := decodeCtxU32_accepted (by decide) (.start body) process
  obtain rfl : afterProcess = 0 + (f.octets true 0).length := stop
  have atObject := (Cursor.start (f.octets true 0 ++ rest)).advance
  obtain ⟨⟨oid, afterObject⟩, object, read⟩ := bind_eq_ok read
  obtain ⟨g, rest, four, rfl, stop⟩ := decodeCtxObjectId_accepted (by decide) atObject object
  obtain rfl : afterObject = 0 + (f.octets true 0).length + (g.octets true 1).length := stop
  have atIssue := atObject.advance
  obtain ⟨⟨issue, afterIssue⟩, optional, read⟩ := bind_eq_ok read
  rw [decodeOptional_bool] at optional
  obtain ⟨⟨number, position⟩, optional, eq⟩ := bind_eq_ok optional
  cases eq
  obtain ⟨i, rest, rfl, issue, stop⟩ := optional_accepted (by decide) atIssue optional
  obtain rfl : afterIssue = _ := stop
  obtain ⟨lifetime, optional, _⟩ := bind_eq_ok read
  obtain ⟨l, rest, rfl, ends, _⟩ := optional_accepted (by decide) atIssue.advance optional
  refine ⟨⟨f, g, i, l, rest, four, issue, ends⟩, ?_⟩
  simp only [octets, fields, List.append_assoc]

end SubscribeBody

end BacnetSim
