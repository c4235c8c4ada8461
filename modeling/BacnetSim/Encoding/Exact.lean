import BacnetSim.Encoding.Framing
import BacnetSim.Encoding.RoundTrip

/-! The numbers that the readers return, against the numbers that the content octets are. -/
namespace BacnetSim
open Rust Octets Tags

section Read
variable {buf tail : Bytes} {pos : Nat} {b : UInt8}

theorem readUint_value {start len : Nat} {r : UInt32 × Nat} (read : readUint buf start len = .ok r) :
    r.1 = ofBe32 ((buf.drop start).take len) := by
  unfold readUint at read
  split at read
  · cases read
  · rw [slice_of_le (by omega) (by omega), ok_bind, Nat.add_sub_cancel_left] at read
    cases read
    rfl

theorem drop_head (at_ : Cursor buf pos (b :: tail)) :
    (buf.drop (pos + headSize (b :: tail))).take (declaredLength (b :: tail)) =
      contentOctets (b :: tail) := by
  rw [contentOctets, ← List.drop_drop, at_.drop_eq]

theorem readNumber_value {h : Nat × Nat} {r : UInt32 × Nat} (at_ : Cursor buf pos (b :: tail))
    (length : decodeLvtLen buf (pos + 1) (lvtOf b) = .ok h) (read : readUint buf h.2 h.1 = .ok r) :
    r.1 = ofBe32 (contentOctets (b :: tail)) := by
  cases decodeLvtLen_frame at_ length
  rw [readUint_value read, drop_head at_]

theorem readDeclared_value {msg : String} {r : Bytes × Nat} (at_ : Cursor buf pos (b :: tail))
    (read : readDeclared buf (pos + 1) (lvtOf b) msg = .ok r) : r.1 = contentOctets (b :: tail) := by
  obtain ⟨h, length, content⟩ := bind_eq_ok read
  cases decodeLvtLen_frame at_ length
  dsimp only at content
  split at content
  · cases content
  · rw [slice_of_le (by omega) (by omega), ok_bind, Nat.add_sub_cancel_left] at content
    cases content
    exact drop_head at_

theorem cursor_of_peek (here : peek buf pos = some b) : ∃ tail, Cursor buf pos (b :: tail) := by
  have inside := (List.getElem?_eq_some_iff.mp here).1
  obtain ⟨tail, same⟩ := at_peek (.drop inside.le) here
  exact ⟨tail, same ▸ .drop inside.le⟩

theorem decodeCtxU32_value {t : UInt8} {r : UInt32 × Nat} (read : decodeCtxU32 buf pos t = .ok r) :
    r.1 = ofBe32 (contentOctets (buf.drop pos)) := by
  obtain ⟨b, here, read⟩ := bind_eq_ok read
  obtain ⟨tail, at_⟩ := cursor_of_peek (okOr_eq_ok here)
  split at read
  · cases read
  · obtain ⟨h, length, content⟩ := bind_eq_ok read
    rw [at_.drop_eq]
    exact readNumber_value at_ length content

def NumberOf (content : Bytes) : PropertyValue → Prop
  | .unsigned v | .enumerated v => v = ofBe32 content
  | .integer v => v = content.foldl shiftInI32 0
  | _ => True

theorem decodeApplicationValue_number {r : PropertyValue × Nat}
    (read : decodeApplicationValue buf pos = .ok r) : NumberOf (contentOctets (buf.drop pos)) r.1 := by
  obtain ⟨b, here, how⟩ := readBy_of_decode read
  obtain ⟨tail, at_⟩ := cursor_of_peek here
  rw [at_.drop_eq]
  cases how with
  | null tag => trivial
  | boolean tag => trivial
  | number tag length content =>
    have value := readNumber_value at_ length content
    rcases tag with ⟨-, rfl⟩ | ⟨-, rfl⟩ <;> exact value
  | integer tag content => exact congrArg (List.foldl shiftInI32 0) (readDeclared_value at_ content)
  | octetString tag content => trivial
  | @fixed v _ _ _ _ kind _ => cases v <;> trivial
  | @led v _ _ _ kind _ => cases v <;> trivial

inductive ReadsUnsigned (buf : Bytes) (pos : Nat) (v : UInt32) : Prop
  | context {t : UInt8} {stop : Nat} (read : decodeCtxU32 buf pos t = .ok (v, stop))
  | unsigned {stop : Nat} (read : decodeApplicationValue buf pos = .ok (.unsigned v, stop))
  | enumerated {stop : Nat} (read : decodeApplicationValue buf pos = .ok (.enumerated v, stop))

theorem ReadsUnsigned.value {v : UInt32} (reads : ReadsUnsigned buf pos v) :
    v = ofBe32 (contentOctets (buf.drop pos)) := by
  cases reads with
  | context read => exact decodeCtxU32_value read
  | unsigned read => exact decodeApplicationValue_number read
  | enumerated read => exact decodeApplicationValue_number read

/-- A number that is read is the number in the content octets exactly when those before the
last four are zero. -/
theorem ReadsUnsigned.exact_iff {v : UInt32} (reads : ReadsUnsigned buf pos v) :
    let content := contentOctets (buf.drop pos)
    v.toNat = beNat content ↔ ∀ b ∈ content.take (content.length - 4), b = 0 := by
  intro content
  rw [← beNat_lt_iff, reads.value, ofBe32_toNat]
  exact Nat.mod_eq_iff_lt (by decide)

end Read

theorem four_octets_exact : (0xFFFFFFFF : UInt32).toNat = beNat [0xFF, 0xFF, 0xFF, 0xFF] := by
  have read : decodeCtxU32 [0x0D, 4, 0xFF, 0xFF, 0xFF, 0xFF] 0 0 = .ok (0xFFFFFFFF, 6) := rfl
  have reads := ReadsUnsigned.context read
  refine reads.exact_iff.mpr fun b mem => ?_
  have none : b ∈ ([] : Bytes) := mem
  cases none

/-- Five octets of an array index are read as index 1. -/
theorem five_octets_wrap : ¬ ∀ (buf : Bytes) (pos : Nat) (v : UInt32), ReadsUnsigned buf pos v →
    v.toNat = beNat (contentOctets (buf.drop pos)) := by
  intro claim
  have read : decodeCtxU32 [0x2D, 5, 1, 0, 0, 0, 1] 0 2 = .ok (1, 7) := rfl
  have reads := ReadsUnsigned.context read
  have zero : (1 : UInt8) = 0 := reads.exact_iff.mp (claim _ _ _ reads) 1 List.mem_cons_self
  exact absurd zero (by decide)

theorem toInt_eq (v : Int32) : v.toInt =
    if 2 * v.toUInt32.toNat < 2 ^ 32 then (v.toUInt32.toNat : Int) else v.toUInt32.toNat - 2 ^ 32 :=
  BitVec.toInt_eq_toNat_cond v.toBitVec

theorem beInt_eq_iff {v : Int32} {b : UInt8} {bs : Bytes} (few : bs.length ≤ 3)
    (word : v.toUInt32.toNat = beNat (b :: bs)) :
    v.toInt = beInt (b :: bs) ↔ bs.length = 3 ∨ b < 0x80 := by
  rw [toInt_eq, word, beInt, ← two_mul_beNat_lt_iff b bs, List.length_cons]
  by_cases four : bs.length = 3
  · rw [four]
    exact iff_of_true rfl (.inl rfl)
  · have bound := beNat_lt (b :: bs)
    have narrow : 256 ^ (bs.length + 1) ≤ 256 ^ 3 := Nat.pow_le_pow_right (by decide) (by omega)
    have weight : (0 : Int) < 256 ^ (bs.length + 1) := by positivity
    rw [List.length_cons] at bound
    rw [if_pos (by omega), or_iff_right four]
    split
    · exact iff_of_true rfl (by assumption)
    · exact iff_of_false (by omega) (by assumption)

/-- A signed value of one to four octets is the two's-complement number in them exactly when
there are four, or the first has no sign bit. -/
theorem signed_exact_iff {buf : Bytes} {pos stop : Nat} {v : Int32}
    (read : decodeApplicationValue buf pos = .ok (.integer v, stop))
    (size : 1 ≤ (contentOctets (buf.drop pos)).length ∧ (contentOctets (buf.drop pos)).length ≤ 4) :
    let content := contentOctets (buf.drop pos)
    v.toInt = beInt content ↔ content.length = 4 ∨ ∀ b ∈ content.head?, b < 0x80 := by
  intro content
  obtain ⟨present, few⟩ := size
  have value : v = content.foldl shiftInI32 0 := decodeApplicationValue_number read
  have word : v.toUInt32.toNat = beNat content := by
    rw [value, foldl_shiftInI32]
    exact ofBe32_toNat_of_short few
  cases given : content with
  | nil =>
    rw [show contentOctets (buf.drop pos) = [] from given] at present
    cases present
  | cons b bs =>
    rw [show contentOctets (buf.drop pos) = b :: bs from given, List.length_cons] at few
    rw [given] at word
    rw [beInt_eq_iff (by omega) word, List.length_cons, Nat.succ_inj]
    simp

theorem positive_octet_exact : (127 : Int32).toInt = beInt [0x7F] := by
  have read : decodeApplicationValue [0x31, 0x7F] 0 = .ok (.integer 127, 2) := rfl
  refine (signed_exact_iff read (by decide)).mpr (.inr fun b mem => ?_)
  have first : some 0x7F = some b := mem
  cases first
  decide

theorem negative_octet_unextended : ¬ ∀ (buf : Bytes) (pos : Nat) (v : Int32) (stop : Nat),
    decodeApplicationValue buf pos = .ok (.integer v, stop) →
      1 ≤ (contentOctets (buf.drop pos)).length ∧ (contentOctets (buf.drop pos)).length ≤ 4 →
      v.toInt = beInt (contentOctets (buf.drop pos)) := by
  intro claim
  have read : decodeApplicationValue [0x31, 0xFF] 0 = .ok (.integer 255, 2) := rfl
  have size : 1 ≤ (contentOctets [0x31, 0xFF]).length ∧ (contentOctets [0x31, 0xFF]).length ≤ 4 := by
    decide
  rcases (signed_exact_iff read size).mp (claim _ _ _ _ read size) with four | positive
  · exact absurd four (by decide)
  · have small : (0xFF : UInt8) < 0x80 := positive _ rfl
    exact absurd small (by decide)

end BacnetSim
