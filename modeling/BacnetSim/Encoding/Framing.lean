import BacnetSim.Encoding.Accepted
import BacnetSim.Encoding.Layout

/-! The frame of a field: a tag octet, a length octet when the LVT is 5, and the content
octets that the length announces. -/
namespace BacnetSim
open Rust Octets Tags

def headSize : Bytes → Nat
  | [] => 0
  | b :: _ => if lvtOf b = 5 then 2 else 1

def declaredLength : Bytes → Nat
  | [] => 0
  | [b] => (lvtOf b).toNat
  | b :: l :: _ => if lvtOf b = 5 then l.toNat else (lvtOf b).toNat

def contentOctets (stream : Bytes) : Bytes := (stream.drop (headSize stream)).take (declaredLength stream)

section Field
variable {ctx extended : Bool} {t : UInt8} {content rest : Bytes}

theorem declaredLength_of_direct {b : UInt8} (direct : lvtOf b ≠ 5) :
    declaredLength (b :: rest) = (lvtOf b).toNat := by
  cases rest with
  | nil => rfl
  | cons l rest => exact if_neg direct

theorem frame_field (ht : t < 15) (short : extended = false → content.length < 5) :
    headSize (field ctx t extended content ++ rest) = (if extended then 2 else 1) ∧
      declaredLength (field ctx t extended content ++ rest) =
        if extended then content.length % 256 else content.length := by
  cases extended with
  | true =>
    have parts := header_parts ctx ht (l := 5) (by decide)
    rw [field_extended]
    refine ⟨if_pos parts.2.2, (if_pos parts.2.2).trans ?_⟩
    exact UInt8.toNat_ofNat'
  | false =>
    have few := short rfl
    have small : fieldLvt false content < 6 := fieldLvt_lt few
    have parts := header_parts ctx ht (UInt8.lt_trans small (by decide))
    have number : (fieldLvt false content).toNat = content.length :=
      UInt8.toNat_ofNat'.trans (Nat.mod_eq_of_lt (by omega))
    have direct : lvtOf (header ctx t (fieldLvt false content)) ≠ 5 := by
      intro same
      rw [parts.2.2] at same
      rw [same] at number
      exact absurd number (Nat.ne_of_gt few)
    refine ⟨if_neg direct, ?_⟩
    exact (declaredLength_of_direct direct).trans ((congrArg UInt8.toNat parts.2.2).trans number)

theorem frame_of_fits (ht : t < 15) (fits : FieldFits extended content) :
    headSize (field ctx t extended content ++ rest) = (if extended then 2 else 1) ∧
      declaredLength (field ctx t extended content ++ rest) = content.length := by
  have short : extended = false → content.length < 5 := by
    rintro rfl
    exact fits
  obtain ⟨head, len⟩ := show headSize (field ctx t extended content ++ rest) = _ ∧ _ from frame_field ht short
  refine ⟨head, len.trans ?_⟩
  cases extended with
  | true => exact Nat.mod_eq_of_lt fits
  | false => rfl

end Field

section Read
variable {buf tail : Bytes} {pos : Nat} {b : UInt8} {r : Nat × Nat}

theorem decodeLvtLen_frame (at_ : Cursor buf pos (b :: tail))
    (read : decodeLvtLen buf (pos + 1) (lvtOf b) = .ok r) :
    r = (declaredLength (b :: tail), pos + headSize (b :: tail)) := by
  unfold decodeLvtLen at read
  split at read
  · rename_i direct
    cases read
    have other : lvtOf b ≠ 5 := by
      intro same
      rw [same] at direct
      exact absurd direct (by decide)
    rw [declaredLength_of_direct other, headSize, if_neg other]
  · split at read
    · rename_i extended
      obtain ⟨l, here, eq⟩ := bind_eq_ok read
      cases eq
      obtain ⟨rest, rfl⟩ := at_peek at_.next (okOr_eq_ok here)
      rw [declaredLength, headSize, if_pos (eq_of_beq extended), if_pos (eq_of_beq extended)]
    · cases read

end Read

def PropertyValue.IsText : PropertyValue → Prop
  | octetString _ | characterString _ | bitString _ => True
  | _ => False

def Framed (octets : Bytes) : Prop := declaredLength octets = (octets.drop (headSize octets)).length

instance (octets : Bytes) : Decidable (Framed octets) := inferInstanceAs (Decidable (_ = _))

theorem framed_field_iff {ctx extended : Bool} {t : UInt8} {content : Bytes} (ht : t < 15)
    (short : extended = false → content.length < 5) :
    Framed (field ctx t extended content) ↔ content.length < 256 := by
  obtain ⟨head, len⟩ : headSize (field ctx t extended content ++ []) = _ ∧ _ := frame_field ht short
  rw [List.append_nil] at head len
  rw [Framed, head, len]
  cases extended with
  | true =>
    rw [if_pos rfl, if_pos rfl, field_extended, List.drop_succ_cons, List.drop_succ_cons, List.drop_zero]
    omega
  | false =>
    have few := short rfl
    rw [if_neg (by decide), if_neg (by decide), field_direct, List.drop_succ_cons, List.drop_zero]
    omega

/-- A value of a length that the caller chooses is framed, or refused, exactly when one octet
has room for the length of its content. -/
theorem written_framed_iff {v : PropertyValue} (text : v.IsText) :
    (encodePropertyValue v).2 ≠ .ok () ∨ Framed (valueOctets v) ↔ v.FitsWire := by
  have written := encodePropertyValue_ok v
  refine (or_iff_right fun refused => refused written).trans ?_
  cases v with
  | octetString data =>
    have octets := valueOctets_eq (v := .octetString data) trivial
    have short : decide (4 < data.length) = false → data.length < 5 := by
      intro direct
      have := of_decide_eq_false direct
      omega
    rw [octets]
    exact (framed_field_iff (by decide : (6 : UInt8) < 15) short).trans Nat.lt_succ_iff
  | characterString s =>
    have octets := valueOctets_eq (v := .characterString s) trivial
    have short : true = false → (0x00 :: Utf8.octets s).length < 5 := fun direct => by cases direct
    rw [octets]
    refine (framed_field_iff (by decide : (7 : UInt8) < 15) short).trans ?_
    change (Utf8.octets s).length + 1 < 256 ↔ (Utf8.octets s).length ≤ 254
    omega
  | bitString b =>
    have octets := valueOctets_eq (v := .bitString b) trivial
    have size := bitStringContent_length b
    have short : decide (4 < (bitStringContent b).length) = false → (bitStringContent b).length < 5 := by
      intro direct
      have := of_decide_eq_false direct
      omega
    rw [octets]
    refine (framed_field_iff (by decide : (8 : UInt8) < 15) short).trans ?_
    change (bitStringContent b).length < 256 ↔ b.bits.length ≤ 2032
    omega
  | _ => cases text

theorem greeting_framed : Framed (valueOctets (.characterString "hi")) := by
  have fits : (PropertyValue.characterString "hi").FitsWire :=
    (by decide : (Utf8.octets "hi").length ≤ 254)
  exact ((written_framed_iff (v := .characterString "hi") trivial).mpr fits).resolve_left
    fun refused => refused rfl

def longString : String := .ofList (List.replicate 255 'a')

theorem longString_unframed : ¬ ∀ v : PropertyValue, v.IsText →
    (encodePropertyValue v).2 ≠ .ok () ∨ Framed (valueOctets v) := by
  intro claim
  have size : (Utf8.octets longString).length = 255 := by decide +kernel
  have fits : (Utf8.octets longString).length ≤ 254 :=
    (written_framed_iff (v := .characterString longString) trivial).mp (claim _ trivial)
  rw [size] at fits
  exact absurd fits (by decide)

section Stops
variable {buf tail : Bytes} {pos len : Nat} {b : UInt8} {msg : String}

theorem readSlice_stop {r : Bytes × Nat}
    (read : (if pos + len > buf.length then fail (.decodeError msg)
      else do
        let bytes ← slice buf pos (pos + len)
        .ok (bytes, pos + len) : Result (Bytes × Nat)) = .ok r) :
    r.2 = pos + len ∧ pos + len ≤ buf.length := by
  split at read
  · cases read
  · obtain ⟨bytes, _, eq⟩ := bind_eq_ok read
    cases eq
    exact ⟨rfl, by omega⟩

theorem readUint_stop {r : UInt32 × Nat} (read : readUint buf pos len = .ok r) :
    r.2 = pos + len ∧ pos + len ≤ buf.length := by
  unfold readUint at read
  split at read
  · cases read
  · obtain ⟨bytes, _, eq⟩ := bind_eq_ok read
    cases eq
    exact ⟨rfl, by omega⟩

theorem readNumber_stop {h : Nat × Nat} {r : UInt32 × Nat} (at_ : Cursor buf pos (b :: tail))
    (length : decodeLvtLen buf (pos + 1) (lvtOf b) = .ok h) (read : readUint buf h.2 h.1 = .ok r) :
    r.2 = pos + (headSize (b :: tail) + declaredLength (b :: tail)) ∧ r.2 ≤ buf.length := by
  obtain ⟨stop, inside⟩ := readUint_stop read
  cases decodeLvtLen_frame at_ length
  dsimp only at stop inside
  omega

theorem readFixed_stop {r : Bytes × Nat} (at_ : Cursor buf pos (b :: tail))
    (read : readFixed buf (pos + 1) (lvtOf b) len msg = .ok r) :
    r.2 = pos + (headSize (b :: tail) + len) ∧ r.2 ≤ buf.length := by
  obtain ⟨h, length, content⟩ := bind_eq_ok read
  obtain ⟨stop, inside⟩ := readSlice_stop content
  cases decodeLvtLen_frame at_ length
  dsimp only at stop inside
  omega

theorem readDeclared_stop {r : Bytes × Nat} (at_ : Cursor buf pos (b :: tail))
    (read : readDeclared buf (pos + 1) (lvtOf b) msg = .ok r) :
    r.2 = pos + (headSize (b :: tail) + declaredLength (b :: tail)) ∧ r.2 ≤ buf.length := by
  obtain ⟨h, length, content⟩ := bind_eq_ok read
  obtain ⟨stop, inside⟩ := readSlice_stop content
  cases decodeLvtLen_frame at_ length
  dsimp only at stop inside
  omega

theorem readLed_stop {r : UInt8 × Bytes × Nat} (at_ : Cursor buf pos (b :: tail))
    (read : readLed buf (pos + 1) (lvtOf b) msg = .ok r) :
    r.2.2 = pos + (headSize (b :: tail) + declaredLength (b :: tail)) ∧ r.2.2 ≤ buf.length := by
  obtain ⟨h, length, content⟩ := bind_eq_ok read
  cases decodeLvtLen_frame at_ length
  dsimp only at content
  split at content
  · cases content
  · obtain ⟨lead, _, content⟩ := bind_eq_ok content
    obtain ⟨bytes, _, eq⟩ := bind_eq_ok content
    cases eq
    dsimp only
    omega

end Stops

/-- What the reader of application-tagged values takes off the front of a stream: for some
tags a fixed number of content octets, whatever length is declared. -/
def consumed : Bytes → Nat
  | [] => 0
  | b :: tail =>
    match (tagNumber b).toNat with
    | 0 | 1 => 1
    | 4 | 10 | 11 | 12 => headSize (b :: tail) + 4
    | 5 => headSize (b :: tail) + 8
    | _ => headSize (b :: tail) + declaredLength (b :: tail)

def PropertyValue.IsFixed : PropertyValue → Prop
  | real _ | double _ | date _ | time _ | objectId _ => True
  | _ => False

inductive ReadBy (buf : Bytes) (pos : Nat) (b : UInt8) : PropertyValue × Nat → Prop
  | null (tag : (tagNumber b).toNat = 0) : ReadBy buf pos b (.null, pos + 1)
  | boolean (tag : (tagNumber b).toNat = 1) : ReadBy buf pos b (.boolean (lvtOf b != 0), pos + 1)
  | number {kind : UInt32 → PropertyValue} {h : Nat × Nat} {v : UInt32 × Nat}
      (tag : (tagNumber b).toNat = 2 ∧ kind = .unsigned ∨ (tagNumber b).toNat = 9 ∧ kind = .enumerated)
      (length : decodeLvtLen buf (pos + 1) (lvtOf b) = .ok h)
      (content : readUint buf h.2 h.1 = .ok v) : ReadBy buf pos b (kind v.1, v.2)
  | integer {bytes : Bytes × Nat} {msg : String} (tag : (tagNumber b).toNat = 3)
      (content : readDeclared buf (pos + 1) (lvtOf b) msg = .ok bytes) :
      ReadBy buf pos b (.integer (bytes.1.foldl shiftInI32 0), bytes.2)
  | octetString {bytes : Bytes × Nat} {msg : String} (tag : (tagNumber b).toNat = 6)
      (content : readDeclared buf (pos + 1) (lvtOf b) msg = .ok bytes) :
      ReadBy buf pos b (.octetString bytes.1, bytes.2)
  | fixed {v : PropertyValue} {len : Nat} {bytes : Bytes × Nat} {msg : String}
      (tag : (tagNumber b).toNat ∈ [4, 10, 11, 12] ∧ len = 4 ∨ (tagNumber b).toNat = 5 ∧ len = 8)
      (kind : v.IsFixed) (content : readFixed buf (pos + 1) (lvtOf b) len msg = .ok bytes) :
      ReadBy buf pos b (v, bytes.2)
  | led {v : PropertyValue} {data : UInt8 × Bytes × Nat} {msg : String}
      (tag : (tagNumber b).toNat = 7 ∨ (tagNumber b).toNat = 8) (kind : v.IsText)
      (content : readLed buf (pos + 1) (lvtOf b) msg = .ok data) : ReadBy buf pos b (v, data.2.2)

theorem readBy_of_decode {buf : Bytes} {pos : Nat} {r : PropertyValue × Nat}
    (read : decodeApplicationValue buf pos = .ok r) : ∃ b, peek buf pos = some b ∧ ReadBy buf pos b r := by
  obtain ⟨b, here, read⟩ := bind_eq_ok read
  refine ⟨b, okOr_eq_ok here, ?_⟩
  dsimp only at read
  split at read
  · cases read
  · split at read <;> rename_i tag
    · cases read
      exact .null tag
    · cases read
      exact .boolean tag
    · obtain ⟨h, length, read⟩ := bind_eq_ok read
      obtain ⟨v, content, eq⟩ := bind_eq_ok read
      cases eq
      exact .number (.inl ⟨tag, rfl⟩) length content
    · obtain ⟨bytes, content, eq⟩ := bind_eq_ok read
      cases eq
      exact .integer tag content
    · obtain ⟨bytes, content, eq⟩ := bind_eq_ok read
      cases eq
      exact .fixed (.inl ⟨by simp [tag], rfl⟩) trivial content
    · obtain ⟨bytes, content, eq⟩ := bind_eq_ok read
      cases eq
      exact .fixed (.inr ⟨tag, rfl⟩) trivial content
    · obtain ⟨bytes, content, eq⟩ := bind_eq_ok read
      cases eq
      exact .octetString tag content
    · obtain ⟨data, content, eq⟩ := bind_eq_ok read
      cases eq
      exact .led (.inl tag) trivial content
    · obtain ⟨data, content, read⟩ := bind_eq_ok read
      obtain ⟨total, _, read⟩ := bind_eq_ok read
      obtain ⟨bits, _, eq⟩ := bind_eq_ok read
      cases eq
      exact .led (.inr tag) trivial content
    · obtain ⟨h, length, read⟩ := bind_eq_ok read
      obtain ⟨v, content, eq⟩ := bind_eq_ok read
      cases eq
      exact .number (.inr ⟨tag, rfl⟩) length content
    · obtain ⟨bytes, content, eq⟩ := bind_eq_ok read
      cases eq
      exact .fixed (.inl ⟨by simp [tag], rfl⟩) trivial content
    · obtain ⟨bytes, content, eq⟩ := bind_eq_ok read
      cases eq
      exact .fixed (.inl ⟨by simp [tag], rfl⟩) trivial content
    · obtain ⟨bytes, content, eq⟩ := bind_eq_ok read
      cases eq
      exact .fixed (.inl ⟨by simp [tag], rfl⟩) trivial content
    · cases read

theorem decodeApplicationValue_stop {buf stream : Bytes} {pos : Nat} {r : PropertyValue × Nat}
    (at_ : Cursor buf pos stream) (read : decodeApplicationValue buf pos = .ok r) :
    r.2 = pos + consumed stream ∧ r.2 ≤ buf.length := by
  obtain ⟨b, here, how⟩ := readBy_of_decode read
  obtain ⟨tail, rfl⟩ := at_peek at_ here
  have total := at_.next.length
  simp only [consumed]
  cases how with
  | null tag =>
    rw [tag]
    exact ⟨rfl, by omega⟩
  | boolean tag =>
    rw [tag]
    exact ⟨rfl, by omega⟩
  | number tag length content =>
    have stop := readNumber_stop at_ length content
    rcases tag with ⟨tag, -⟩ | ⟨tag, -⟩ <;> rwa [tag]
  | integer tag content =>
    rw [tag]
    exact readDeclared_stop at_ content
  | octetString tag content =>
    rw [tag]
    exact readDeclared_stop at_ content
  | fixed tag kind content =>
    have stop := readFixed_stop at_ content
    rcases tag with ⟨tag, rfl⟩ | ⟨tag, rfl⟩
    · simp only [List.mem_cons, List.not_mem_nil, or_false] at tag
      rcases tag with tag | tag | tag | tag <;> rwa [tag]
    · rwa [tag]
  | led tag kind content =>
    have stop := readLed_stop at_ content
    rcases tag with tag | tag <;> rwa [tag]

theorem consumed_cons (b : UInt8) (tail : Bytes) : 0 < consumed (b :: tail) := by
  have head : 0 < headSize (b :: tail) := by
    simp only [headSize]
    split <;> decide
  simp only [consumed]
  split
  · exact Nat.one_pos
  · exact Nat.one_pos
  all_goals exact Nat.add_pos_left head _

theorem decodeApplicationValue_advances {buf : Bytes} {pos : Nat} {r : PropertyValue × Nat}
    (read : decodeApplicationValue buf pos = .ok r) : pos < r.2 := by
  obtain ⟨b, here, _⟩ := readBy_of_decode read
  have inside : pos < buf.length := (List.getElem?_eq_some_iff.mp here).1
  have at_ : Cursor buf pos (buf.drop pos) := .drop inside.le
  obtain ⟨tail, front⟩ := at_peek at_ here
  rw [front] at at_
  rw [(decodeApplicationValue_stop at_ read).1]
  exact Nat.lt_add_of_pos_right (consumed_cons b tail)

/-- A field by its own frame. A null has no length octet besides its LVT, and a boolean's LVT is
its value. -/
def frameSize : Bytes → Nat
  | [] => 0
  | b :: tail =>
    match (tagNumber b).toNat with
    | 0 => 1 + (lvtOf b).toNat
    | 1 => 1
    | _ => headSize (b :: tail) + declaredLength (b :: tail)

def DeclaresFixedSize : Bytes → Prop
  | [] => True
  | b :: tail =>
    match (tagNumber b).toNat with
    | 0 => lvtOf b = 0
    | 4 | 10 | 11 | 12 => declaredLength (b :: tail) = 4
    | 5 => declaredLength (b :: tail) = 8
    | _ => True

theorem consumed_eq_frameSize_iff (stream : Bytes) :
    consumed stream = frameSize stream ↔ DeclaresFixedSize stream := by
  cases stream with
  | nil => exact iff_of_true rfl trivial
  | cons b tail =>
    have zero : lvtOf b = 0 ↔ (lvtOf b).toNat = 0 := UInt8.toNat_inj.symm
    simp only [consumed, frameSize, DeclaresFixedSize]
    generalize (tagNumber b).toNat = tag
    match tag with
    | 0 =>
      simp only [zero]
      omega
    | 1 => exact iff_of_true rfl trivial
    | 4 | 10 | 11 | 12 => exact Nat.add_left_cancel_iff.trans eq_comm
    | 5 => exact Nat.add_left_cancel_iff.trans eq_comm
    | 2 | 3 | 6 | 7 | 8 | 9 | n + 13 => exact iff_of_true rfl trivial

/-- An accepted value takes up the octets of its frame exactly when the length that it declares
is the one that its reader goes by. -/
theorem accepted_framed_iff {buf : Bytes} {pos : Nat} {r : PropertyValue × Nat}
    (read : decodeApplicationValue buf pos = .ok r) :
    r.2 ≤ buf.length ∧ r.2 = pos + frameSize (buf.drop pos) ↔ DeclaresFixedSize (buf.drop pos) := by
  have inside : pos ≤ buf.length := by
    obtain ⟨b, here, _⟩ := readBy_of_decode read
    exact (List.getElem?_eq_some_iff.mp here).1.le
  obtain ⟨stop, within⟩ := decodeApplicationValue_stop (.drop inside) read
  rw [and_iff_right within, stop, Nat.add_left_cancel_iff]
  exact consumed_eq_frameSize_iff _

theorem unsigned_framed : (2 : Nat) ≤ 3 ∧ 2 = 0 + frameSize [0x21, 5, 0xFF] := by
  have read : decodeApplicationValue [0x21, 5, 0xFF] 0 = .ok (.unsigned 5, 2) := rfl
  exact (accepted_framed_iff read).mpr trivial

theorem short_real_overreads : ¬ ∀ (buf : Bytes) (pos : Nat) (r : PropertyValue × Nat),
    decodeApplicationValue buf pos = .ok r →
      r.2 ≤ buf.length ∧ r.2 = pos + frameSize (buf.drop pos) := by
  intro claim
  have read : decodeApplicationValue [0x42, 0, 0, 0x3E, 0x3F] 0 = .ok (.real ⟨0x00003E3F⟩, 5) := rfl
  have four : declaredLength [0x42, 0, 0, 0x3E, 0x3F] = 4 :=
    (accepted_framed_iff read).mp (claim _ _ _ read)
  exact absurd four (by decide)

end BacnetSim
