import BacnetSim.Encoding.Asn1Decode
import BacnetSim.Encoding.Unambiguous

/-! The readers of `encoding/asn1.rs` on what its writers wrote, and the same octets under
the application reader of `encoding/tags.rs`. -/
namespace BacnetSim
open Rust Octets Asn1 Tags Ieee754

theorem unpackHighBits_eq (unused : Nat) (data : Bytes) :
    unpackHighBits unused data = unpackOctets highBits unused data := by
  induction data with
  | nil => rfl
  | cons byte rest ih =>
    cases rest with
    | nil => rfl
    | cons next rest =>
      rw [unpackHighBits, unpackOctets, ih]
      · simp
      · simp

theorem highBits_wholeOctet : ∀ b₀ b₁ b₂ b₃ b₄ b₅ b₆ b₇ : Bool,
    highBits (wholeOctet b₀ b₁ b₂ b₃ b₄ b₅ b₆ b₇) 8 = [b₀, b₁, b₂, b₃, b₄, b₅, b₆, b₇] := by
  decide +kernel

theorem highBits_eight : ∀ bits : List Bool, bits.length = 8 →
    ((packBits 0 0 bits).flatMap fun byte => highBits byte 8) = bits
  | [b₀, b₁, b₂, b₃, b₄, b₅, b₆, b₇], _ => by
    rw [packBits_whole, packBits, if_pos rfl, List.flatMap_singleton, highBits_wholeOctet]

theorem highBits_take {n : Nat} (few : n ≤ 8) (byte : UInt8) :
    highBits byte n = (highBits byte 8).take n := by
  rw [highBits, highBits, ← List.map_take, List.take_range, Nat.min_eq_left few]

theorem highBits_partial (bits : List Bool) (h : bits.length < 8) :
    bits = (packBits 0 0 bits).flatMap fun byte => highBits byte bits.length := by
  by_cases empty : bits = []
  · subst empty
    rfl
  · have positive := List.length_pos_iff.mpr empty
    have filled := highBits_eight (bits ++ List.replicate (8 - bits.length) false)
      (by rw [List.length_append, List.length_replicate]; omega)
    rw [← packBits_fill bits positive h] at filled
    obtain ⟨byte, packed⟩ := packBits_short bits positive h
    rw [packed, List.flatMap_singleton] at filled
    rw [packed, List.flatMap_singleton, highBits_take (by omega), filled, List.take_left]

theorem unpackHighBits_packBits (bits : List Bool) :
    unpackHighBits (unusedBits bits.length) (packBits 0 0 bits) = .ok bits := by
  rw [unpackHighBits_eq]
  exact unpackOctets_packBits highBits_wholeOctet id highBits_partial
    (fun _ _ _ _ _ _ _ _ _ => rfl) bits

theorem header_shift (ctx : Bool) {t l : UInt8} (ht : t < 15) (hl : l < 8) :
    header ctx t l >>> 4 = t ∧ header ctx t l &&& 0x07 = l := by
  have shift : ∀ b : UInt8, tagNumber b = b >>> 4 := forall_octet (by decide +kernel)
  obtain ⟨number, _, lvt⟩ := header_parts ctx ht hl
  exact ⟨(shift _).symm.trans number, lvt⟩

theorem toNat_ofNat_octet {n : Nat} (small : n < 256) : (UInt8.ofNat n).toNat = n := by
  rw [UInt8.toNat_ofNat']
  exact Nat.mod_eq_of_lt small

theorem announced_field {extended : Bool} {first : UInt8} {data : Bytes}
    (fits : FieldFits extended (first :: data)) (suffix : Bytes) :
    ∃ start, announced (field false 8 extended (first :: data) ++ suffix) =
        some (start, first :: data) ∧
      start + (first :: data).length = (field false 8 extended (first :: data)).length := by
  cases extended with
  | false =>
    have short : (first :: data).length < 5 := fits
    have len := toNat_ofNat_octet (Nat.lt_trans short (by decide))
    have small : UInt8.ofNat (first :: data).length < 8 := by
      rw [UInt8.lt_iff_toNat_lt, len]
      exact Nat.lt_trans short (by decide)
    obtain ⟨number, lvt⟩ := header_shift false (t := 8) (by decide) small
    refine ⟨1, ?_, Nat.add_comm 1 _⟩
    have found := announced_direct first (data ++ suffix) number
      ((congrArg UInt8.toNat lvt).trans len) (Nat.lt_succ_iff.mp short)
      (by rw [List.length_append, List.length_cons]; omega)
    rw [field_direct, List.cons_append, List.cons_append, found, ← List.cons_append, List.take_left]
  | true =>
    have short : (first :: data).length < 256 := fits
    have len := toNat_ofNat_octet short
    obtain ⟨number, lvt⟩ := header_shift false (t := 8) (l := 5) (by decide) (by decide)
    refine ⟨2, ?_, Nat.add_comm 2 _⟩
    have found := announced_extended (UInt8.ofNat (first :: data).length)
      (first :: data ++ suffix) number (congrArg UInt8.toNat lvt) (List.cons_ne_nil _ _)
      (by rw [len, List.length_append]; omega)
    rw [field_extended, List.cons_append, List.cons_append, found, len, List.take_left]

theorem readContent_bitStringContent (b : BitString) (stop : Nat) :
    readContent stop (bitStringContent b) = .ok (b, stop) := by
  have counted : bitCount (packBits 0 0 b.bits) (unusedBits b.bits.length) =
      if (packBits 0 0 b.bits).isEmpty then .ok 0
      else .ok ((packBits 0 0 b.bits).length * 8 - unusedBits b.bits.length) := by
    rw [bitCount, total_bits]
  rw [bitStringContent, readContent, unusedBits_toNat, counted, unpackHighBits_packBits]
  split <;> rfl

theorem decodeApplicationBitstring_encode (b : BitString) (short : b.bits.length ≤ 2032)
    (suffix : Bytes) :
    decodeApplicationBitstring (encodeApplicationBitstring b ++ suffix) =
      .ok (b, (encodeApplicationBitstring b).length) := by
  have fits := (layout_fits (v := .bitString b) short).length
  obtain ⟨start, found, stop⟩ := announced_field fits suffix
  have read := decodeApplicationBitstring_announced found
  rw [stop] at read
  rw [encodeApplicationBitstring_eq]
  exact read.trans (readContent_bitStringContent b _)

theorem five_bits_readBack :
    decodeApplicationBitstring
        (encodeApplicationBitstring ⟨[true, false, true, true, false]⟩ ++ [0xFF]) =
      .ok (⟨[true, false, true, true, false]⟩, 3) :=
  decodeApplicationBitstring_encode ⟨[true, false, true, true, false]⟩ (by decide) [0xFF]

theorem decodeApplicationUnsigned_encode (v : UInt32) (suffix : Bytes) :
    decodeApplicationUnsigned (encodeApplicationUnsigned v ++ suffix) =
      .ok (v, (encodeApplicationUnsigned v).length) := by
  have bound := (uintContent_length v).2.2
  have len := toNat_ofNat_octet (Nat.lt_of_le_of_lt bound (by decide))
  have small : UInt8.ofNat (uintContent v).length < 8 := by
    rw [UInt8.lt_iff_toNat_lt, len]
    exact Nat.lt_of_le_of_lt bound (by decide)
  obtain ⟨number, lvt⟩ := header_shift false (t := 2) (by decide) small
  have lvt := (congrArg UInt8.toNat lvt).trans len
  rw [encodeApplicationUnsigned_eq, Layout.octets]
  generalize first : header false 2 (UInt8.ofNat (uintContent v).length) = tag at number lvt
  have shape : field false (layout (.unsigned v)).tag (layout (.unsigned v)).extended
      (layout (.unsigned v)).content = tag :: uintContent v := by
    rw [← first]
    rfl
  have at_ : Cursor (tag :: uintContent v ++ suffix) 1 (uintContent v ++ suffix) := ⟨[tag], rfl, rfl⟩
  have room : ¬ (tag :: uintContent v ++ suffix).length < 1 + (uintContent v).length := by
    rw [List.length_append, List.length_cons]
    omega
  have here : (index (tag :: uintContent v ++ suffix) 0 : Result UInt8) = .ok tag := rfl
  have notEmpty : ¬ (tag :: uintContent v ++ suffix).isEmpty = true := by simp
  rw [shape, decodeApplicationUnsigned, if_neg notEmpty, here, ok_bind, number,
    if_neg (not_not.mpr rfl), lvt, if_neg room, at_.slice, ok_bind, ofBe32_uintContent,
    List.length_cons, Nat.add_comm 1]

theorem wordAfterTag_toBe32 (tag : UInt8) (v : UInt32) (suffix : Bytes) :
    wordAfterTag (tag :: (toBe32 v ++ suffix)) = .ok v := by
  have read : wordAfterTag (tag :: (toBe32 v ++ suffix)) = .ok (ofBe32 (toBe32 v)) := rfl
  rw [read, ofBe32_toBe32]

theorem decodeApplicationReal_encode (x : F32) (suffix : Bytes) :
    decodeApplicationReal (encodeApplicationReal x ++ suffix) =
      .ok (x, (encodeApplicationReal x).length) := by
  have word := wordAfterTag_toBe32 (tagByte 4 4) x.bits suffix
  have read : decodeApplicationReal (encodeApplicationReal x ++ suffix) =
      (do let v ← wordAfterTag (tagByte 4 4 :: (toBe32 x.bits ++ suffix)); .ok (⟨v⟩, 5)) := rfl
  rw [read, word]
  rfl

/-- The 32 bits of an identifier are looked up as they are: a type code outside the lookup
is refused, where the application reader reads that of a Device. -/
theorem decodeApplicationObjectId_encode {oid : ObjectId} (narrow : Is22Bit oid.instanceNumber)
    (suffix : Bytes) :
    decodeApplicationObjectId (encodeApplicationObjectId oid ++ suffix) = (do
      let objectType ← okOr (ObjectType.fromU16 (UInt16.ofNat oid.objectType.code))
        (.decodeError s!"unknown object type {UInt16.ofNat oid.objectType.code}")
      .ok (⟨objectType, oid.instanceNumber⟩, (encodeApplicationObjectId oid).length)) := by
  have word := wordAfterTag_toBe32 0xC4 (rawOfObjectId oid) suffix
  have read : decodeApplicationObjectId (encodeApplicationObjectId oid ++ suffix) = (do
      let raw ← wordAfterTag (0xC4 :: (toBe32 (rawOfObjectId oid) ++ suffix))
      let objectType ← okOr (ObjectType.fromU16 (raw >>> 22).toUInt16)
        (.decodeError s!"unknown object type {(raw >>> 22).toUInt16}")
      .ok (⟨objectType, raw &&& 0x3FFFFF⟩, 5)) := rfl
  have masked : rawOfObjectId oid &&& 0x3FFFFF = oid.instanceNumber :=
    congrArg ObjectId.instanceNumber (objectIdOfRaw_rawOfObjectId narrow)
  rw [read, word, ok_bind, typeCode_rawOfObjectId, masked]
  rfl

theorem readWeekday_code (w : Weekday) : readWeekday w.code = w := by
  cases w <;> decide

theorem decodeApplicationDate_encode {d : BacnetDate} (low : 1900 ≤ d.year.toNat)
    (high : d.year.toNat ≤ 2155) (suffix : Bytes) :
    decodeApplicationDate (encodeApplicationDate d ++ suffix) =
      .ok (d, (encodeApplicationDate d).length) := by
  have read : decodeApplicationDate (encodeApplicationDate d ++ suffix) =
      .ok (⟨(UInt8.ofNat (d.year.toNat - 1900)).toUInt16 + 1900, d.month, d.day,
        readWeekday d.weekday.code⟩, 5) := rfl
  rw [read, year_readBack low high, readWeekday_code]
  rfl

inductive Shared where
  | unsigned (v : UInt32)
  | real (v : F32)
  | objectId (oid : ObjectId)
  | date (d : BacnetDate)
  | bitString (b : BitString)

namespace Shared

def value : Shared → PropertyValue
  | unsigned v => .unsigned v
  | real v => .real v
  | objectId oid => .objectId oid
  | date d => .date d
  | bitString b => .bitString b

def encode : Shared → Bytes
  | unsigned v => encodeApplicationUnsigned v
  | real v => encodeApplicationReal v
  | objectId oid => encodeApplicationObjectId oid
  | date d => encodeApplicationDate d
  | bitString b => encodeApplicationBitstring b

def decode (buf : Bytes) : Shared → Result (PropertyValue × Nat)
  | unsigned _ => do
    let (v, n) ← decodeApplicationUnsigned buf
    .ok (.unsigned v, n)
  | real _ => do
    let (v, n) ← decodeApplicationReal buf
    .ok (.real v, n)
  | objectId _ => do
    let (oid, n) ← decodeApplicationObjectId buf
    .ok (.objectId oid, n)
  | date _ => do
    let (d, n) ← decodeApplicationDate buf
    .ok (.date d, n)
  | bitString _ => do
    let (b, n) ← decodeApplicationBitstring buf
    .ok (.bitString b, n)

def Known : Shared → Prop
  | objectId oid => oid.objectType.IsKnown
  | _ => True

theorem encode_eq (v : Shared) : v.encode = valueOctets v.value := by
  cases v <;> rfl

theorem primitive (v : Shared) : v.value.IsPrimitive := by
  cases v <;> trivial

theorem not_boolean (v : Shared) (b : Bool) : v.value ≠ .boolean b := by
  cases v <;> nofun

variable {v : Shared}

theorem decode_known (fits : v.value.FitsWire) (known : v.Known) (suffix : Bytes) :
    v.decode (v.encode ++ suffix) = .ok (v.value, v.encode.length) := by
  cases v with
  | unsigned v => rw [decode, encode, decodeApplicationUnsigned_encode, ok_bind, value]
  | real v => rw [decode, encode, decodeApplicationReal_encode, ok_bind, value]
  | objectId oid =>
    have known : oid.objectType.IsKnown := known
    rw [decode, encode, decodeApplicationObjectId_encode fits, known.lookup, okOr_some, ok_bind,
      ok_bind, value]
  | date d => rw [decode, encode, decodeApplicationDate_encode fits.1 fits.2, ok_bind, value]
  | bitString b => rw [decode, encode, decodeApplicationBitstring_encode b fits, ok_bind, value]

theorem decode_unknown (fits : v.value.FitsWire) (unknown : ¬ v.Known) (suffix : Bytes) :
    ∃ e, v.decode (v.encode ++ suffix) = fail e := by
  cases v with
  | objectId oid =>
    have missing : ObjectType.fromU16 (UInt16.ofNat oid.objectType.code) = none :=
      Option.not_isSome_iff_eq_none.mp unknown
    rw [decode, encode, decodeApplicationObjectId_encode fits, missing]
    exact ⟨_, rfl⟩
  | _ => exact absurd trivial unknown

theorem decodeApplicationValue_encode (fits : v.value.FitsWire) (suffix : Bytes) :
    decodeApplicationValue (v.encode ++ suffix) 0 = .ok (received v.value, v.encode.length) := by
  rw [encode_eq, valueOctets_eq v.primitive,
    decodeApplicationValue_layout v.primitive fits v.not_boolean (.start _), Nat.zero_add]

theorem known_of_readsBack (same : ReadsBack v.value) : v.Known := by
  cases v with
  | objectId oid => exact same
  | _ => trivial

end Shared

def Agree (r r' : Result (PropertyValue × Nat)) : Prop :=
  ((∃ e, r = fail e) ∧ ∃ e, r' = fail e) ∨ ∃ out, r = .ok out ∧ r' = .ok out

/-- The two readers agree on the octets of a value exactly when the application reader
gives it back: no bit is set past the last whole octet, a weekday is specified, an object
type is in the lookup. -/
theorem readers_agree_iff (v : Shared) (fits : v.value.FitsWire) (suffix : Bytes) :
    Agree (v.decode (v.encode ++ suffix)) (decodeApplicationValue (v.encode ++ suffix) 0) ↔
      ReadsBack v.value := by
  have there := v.decodeApplicationValue_encode fits suffix
  rw [there]
  by_cases known : v.Known
  · rw [Shared.decode_known fits known, ← received_eq_iff fits v.not_boolean]
    constructor
    · rintro (⟨⟨e, refused⟩, _⟩ | ⟨out, here, same⟩)
      · cases refused
      · cases here
        exact congrArg Prod.fst (Except.ok.inj same)
    · intro same
      exact .inr ⟨_, rfl, by rw [same]⟩
  · obtain ⟨e, refused⟩ := Shared.decode_unknown fits known suffix
    rw [refused]
    constructor
    · rintro (⟨_, e', accepted⟩ | ⟨out, accepted, _⟩)
      · cases accepted
      · cases accepted
    · exact fun same => absurd (Shared.known_of_readsBack same) known

theorem readers_agree_300 : Agree ((Shared.unsigned 300).decode
    ((Shared.unsigned 300).encode ++ [0xFF]))
    (decodeApplicationValue ((Shared.unsigned 300).encode ++ [0xFF]) 0) :=
  (readers_agree_iff (.unsigned 300) trivial [0xFF]).mpr trivial

/-- One set bit: the reader of `asn1.rs` takes it from the high end of its octet, the
application reader takes the low end. -/
theorem readers_disagree_one_bit : ¬ ∀ (v : Shared), v.value.FitsWire → ∀ suffix : Bytes,
    Agree (v.decode (v.encode ++ suffix)) (decodeApplicationValue (v.encode ++ suffix) 0) := by
  intro claim
  have one : [true].length ≤ 2032 := by decide
  rcases claim (.bitString ⟨[true]⟩) one [] with ⟨⟨e, refused⟩, _⟩ | ⟨out, here, there⟩
  · cases refused
  · cases here
    cases there

end BacnetSim
