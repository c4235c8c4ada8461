import BacnetSim.Encoding.Application
import BacnetSim.Encoding.Bits
import BacnetSim.Encoding.Fields

/-! Every primitive value is written as one application-tagged field. -/
namespace BacnetSim
open Rust Octets Asn1 Tags Ieee754

structure Layout where
  tag : UInt8
  extended : Bool
  content : Bytes

def Layout.octets (l : Layout) : Bytes := field false l.tag l.extended l.content

structure Layout.Fits (l : Layout) : Prop where
  tag : l.tag < 15
  length : FieldFits l.extended l.content

def enumeratedContent (v : UInt32) : Bytes :=
  (enumeratedBytes v).2.take (enumeratedBytes v).1.toNat

def dateContent (d : BacnetDate) : Bytes :=
  [UInt8.ofNat (d.year.toNat - 1900), d.month, d.day, d.weekday.code]

def bitStringContent (b : BitString) : Bytes :=
  UInt8.ofNat (unusedBits b.bits.length) :: packBits 0 0 b.bits

def layout : PropertyValue → Layout
  | .null => ⟨0, false, []⟩
  | .boolean v => ⟨1, false, [if v then 0x01 else 0x00]⟩
  | .unsigned v => ⟨2, false, uintContent v⟩
  | .integer v => ⟨3, false, toBe32 v.toUInt32⟩
  | .real v => ⟨4, false, toBe32 v.bits⟩
  | .double v => ⟨5, true, toBe64 v.bits⟩
  | .octetString data => ⟨6, 4 < data.length, data⟩
  | .characterString s => ⟨7, true, 0x00 :: Utf8.octets s⟩
  | .bitString b => ⟨8, 4 < (bitStringContent b).length, bitStringContent b⟩
  | .enumerated v => ⟨9, false, enumeratedContent v⟩
  | .date d => ⟨10, false, dateContent d⟩
  | .time t => ⟨11, false, [t.hour, t.minute, t.second, t.hundredths]⟩
  | .objectId oid => ⟨12, false, toBe32 (rawOfObjectId oid)⟩
  | .array _ | .list _ | .any _ => ⟨0, false, []⟩

theorem enumeratedContent_length (v : UInt32) :
    (enumeratedContent v).length = (enumeratedBytes v).1.toNat ∧
      1 ≤ (enumeratedContent v).length ∧ (enumeratedContent v).length ≤ 4 := by
  unfold enumeratedContent enumeratedBytes
  split <;> simp

theorem ofBe32_enumeratedContent (v : UInt32) : ofBe32 (enumeratedContent v) = v := by
  unfold enumeratedContent enumeratedBytes
  split
  · rename_i h
    have small : v.toNat < 0x100 := h
    apply (ofBe32_eq_iff (by simp) v).mpr
    simp [beNat]
    omega
  · exact ofBe32_toBe32 v

theorem bitStringContent_length (b : BitString) :
    (bitStringContent b).length = 1 + (b.bits.length + 7) / 8 := by
  simp only [bitStringContent, List.length_cons, packBits_length]
  omega

theorem layout_tag_lt (v : PropertyValue) : (layout v).tag < 15 := by
  cases v <;> simp [layout]

theorem layout_fits {v : PropertyValue} (fits : v.FitsWire) : (layout v).Fits := by
  refine ⟨layout_tag_lt v, ?_⟩
  cases v with
  | unsigned v => exact fits_of_short (uintContent_length v).2.2
  | enumerated v => exact fits_of_short (enumeratedContent_length v).2.2
  | octetString data =>
    have small : data.length ≤ 255 := fits
    simp only [layout, FieldFits, decide_eq_true_eq]
    split <;> omega
  | characterString s =>
    have small : (Utf8.octets s).length ≤ 254 := fits
    simp only [layout, FieldFits, if_true, List.length_cons]
    omega
  | bitString b =>
    have small : b.bits.length ≤ 2032 := fits
    simp only [layout, FieldFits, decide_eq_true_eq, bitStringContent_length]
    split <;> omega
  | _ => simp [layout, FieldFits, dateContent]

theorem unused_octet (bits : List Bool) :
    (if bits.isEmpty then 0 else UInt8.ofNat (8 - bits.length % 8) % 8) =
      UInt8.ofNat (unusedBits bits.length) := by
  have table : ∀ r : Fin 8, UInt8.ofNat (8 - r) % 8 = UInt8.ofNat ((8 - r) % 8) := by decide
  split
  · rename_i empty
    rw [List.isEmpty_iff.mp empty]
    rfl
  · exact table ⟨bits.length % 8, Nat.mod_lt _ (by decide)⟩

theorem tagByte_header (t l : UInt8) (hl : l < 8) (ht : t < 15) :
    tagByte t l = header false t l := by
  have table : ∀ (t : Fin 15) (l : Fin 8), tagByte (UInt8.ofNat t) (UInt8.ofNat l) =
      header false (UInt8.ofNat t) (UInt8.ofNat l) := by decide
  simpa only [UInt8.ofNat_toNat] using table ⟨t.toNat, ht⟩ ⟨l.toNat, hl⟩

theorem encodeApplicationBitstring_eq (b : BitString) :
    encodeApplicationBitstring b = (layout (.bitString b)).octets := by
  have total : 1 + (b.bits.length + 7) / 8 = (bitStringContent b).length :=
    (bitStringContent_length b).symm
  simp only [encodeApplicationBitstring, unused_octet, total, Layout.octets, layout]
  by_cases long : 4 < (bitStringContent b).length
  · rw [if_neg (by omega), decide_eq_true long, field_extended,
      tagByte_header 8 5 (by decide) (by decide)]
    rfl
  · have small : UInt8.ofNat (bitStringContent b).length < 8 := by
      rw [UInt8.lt_iff_toNat_lt, UInt8.toNat_ofNat']
      change (bitStringContent b).length % 2 ^ 8 < 8
      omega
    rw [if_pos (by omega), decide_eq_false long, field_direct, tagByte_header 8 _ small (by decide)]
    rfl

theorem encodeApplicationUnsigned_eq (v : UInt32) :
    encodeApplicationUnsigned v = (layout (.unsigned v)).octets := by
  have bounds := uintContent_length v
  have len : UInt8.ofNat (uintContent v).length = (Tags.uintBytes v).1 := by
    rw [bounds.1, UInt8.ofNat_toNat]
  have small : (Tags.uintBytes v).1 < 8 := by
    rw [UInt8.lt_iff_toNat_lt, ← bounds.1]
    exact Nat.lt_of_le_of_lt bounds.2.2 (by decide)
  simp only [encodeApplicationUnsigned, asn1_uintBytes, Layout.octets, layout, field_direct, len,
    tagByte_header 2 _ small (by decide)]
  rfl

theorem enumerated_octets (v : UInt32) :
    [0x90 ||| (enumeratedBytes v).1] ++ (enumeratedBytes v).2.take (enumeratedBytes v).1.toNat =
      (layout (.enumerated v)).octets := by
  simp only [Layout.octets, layout, field_direct, enumeratedContent]
  unfold enumeratedBytes
  split <;> rfl

theorem octetString_octets (data : Bytes) :
    (if data.length ≤ 4 then [0x60 ||| UInt8.ofNat data.length]
      else [0x65, UInt8.ofNat data.length]) ++ data = (layout (.octetString data)).octets := by
  have table : ∀ n : Fin 5, 0x60 ||| UInt8.ofNat n = header false 6 (UInt8.ofNat n) := by decide
  simp only [Layout.octets, layout]
  by_cases long : 4 < data.length
  · rw [if_neg (by omega), decide_eq_true long, field_extended]
    rfl
  · rw [if_pos (by omega), decide_eq_false long, field_direct]
    exact congrArg (· :: data) (table ⟨data.length, by omega⟩)

theorem four_octets {t : UInt8} (lead : UInt8) {content : Bytes} (len : content.length = 4)
    (first : header false t 4 = lead) :
    lead :: content = (Layout.mk t false content).octets := by
  rw [Layout.octets, field_direct, len]
  exact congrArg (· :: content) first.symm

theorem valueOctets_eq {v : PropertyValue} (prim : v.IsPrimitive) :
    valueOctets v = (layout v).octets := by
  cases v with
  | array items => cases prim
  | list items => cases prim
  | any raw => cases prim
  | null => rfl
  | boolean b => cases b <;> rfl
  | unsigned v => exact encodeApplicationUnsigned_eq v
  | integer v => exact four_octets 0x34 rfl (by decide)
  | real v => exact four_octets (tagByte 4 4) rfl (by decide)
  | double v =>
    have first : header false 5 5 = 0x55 := by decide
    rw [Layout.octets, layout, field_extended, first, toBe64_length]
    rfl
  | octetString data => exact octetString_octets data
  | characterString s =>
    have first : header false 7 5 = 0x75 := by decide
    rw [Layout.octets, layout, field_extended, first]
    rfl
  | bitString b => exact encodeApplicationBitstring_eq b
  | enumerated v => exact enumerated_octets v
  | date d => exact four_octets (tagByte 10 4) rfl (by decide)
  | time t => exact four_octets 0xB4 rfl (by decide)
  | objectId oid => exact four_octets 0xC4 rfl (by decide)

end BacnetSim
