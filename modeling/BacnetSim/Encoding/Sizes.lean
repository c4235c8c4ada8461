import BacnetSim.Encoding.Layout

/-! How many octets the writers append. -/
namespace BacnetSim
open Rust Octets Tags

def uintSize (v : UInt32) : Nat :=
  if v < 0x100 then 1 else if v < 0x10000 then 2 else if v < 0x1000000 then 3 else 4

/-- A length that the tag octet has no room for takes an octet of its own. -/
def lengthSize (n : Nat) : Nat := if n ≤ 4 then 1 else 2

def bitStringSize (bits : Nat) : Nat := 1 + (bits + 7) / 8

mutual

def valueSize : PropertyValue → Nat
  | .null => 1
  | .boolean _ => 2
  | .unsigned v => 1 + uintSize v
  | .integer _ | .real _ => 5
  | .double _ => 10
  | .octetString data => lengthSize data.length + data.length
  | .characterString s => 3 + (Utf8.octets s).length
  | .bitString b => lengthSize (bitStringSize b.bits.length) + bitStringSize b.bits.length
  | .enumerated v => if v < 0x100 then 2 else 5
  | .date _ | .time _ | .objectId _ => 5
  | .array items | .list items => itemsSize items
  | .any raw => raw.length

def itemsSize : List PropertyValue → Nat
  | [] => 0
  | item :: items => valueSize item + itemsSize items

end

theorem field_length (ctx : Bool) (t : UInt8) (extended : Bool) (content : Bytes) :
    (field ctx t extended content).length = (if extended then 2 else 1) + content.length := by
  cases extended <;> simp [field] <;> omega

theorem uintContent_size (v : UInt32) : (uintContent v).length = uintSize v := by
  rw [(uintContent_length v).1, uintBytes, uintSize]
  split
  · rfl
  · split
    · rfl
    · split <;> rfl

@[simp] theorem encodeCtxU32_length (t : UInt8) (v : UInt32) :
    (encodeCtxU32 t v).length = 1 + uintSize v := by
  rw [encodeCtxU32_eq, field_length, uintContent_size]
  rfl

@[simp] theorem encodeCtxObjectId_length (t : UInt8) (oid : ObjectId) :
    (encodeCtxObjectId t oid).length = 5 := rfl

@[simp] theorem encodeOpeningTag_length (t : UInt8) : (encodeOpeningTag t).length = 1 := rfl

@[simp] theorem encodeClosingTag_length (t : UInt8) : (encodeClosingTag t).length = 1 := rfl

theorem lengthSize_eq (n : Nat) : lengthSize n = if decide (4 < n) then 2 else 1 := by
  unfold lengthSize
  by_cases short : n ≤ 4
  · rw [if_pos short, if_neg (by simpa using short)]
  · rw [if_neg short, if_pos (by simpa using short)]

theorem layout_size {v : PropertyValue} (prim : v.IsPrimitive) :
    (if (layout v).extended then 2 else 1) + (layout v).content.length = valueSize v := by
  cases v with
  | array _ | list _ | any _ => cases prim
  | unsigned v => exact congrArg (1 + ·) (uintContent_size v)
  | octetString data =>
    rw [valueSize, lengthSize_eq]
    rfl
  | characterString s =>
    change 2 + ((Utf8.octets s).length + 1) = 3 + (Utf8.octets s).length
    omega
  | bitString b =>
    rw [valueSize, lengthSize_eq, bitStringSize, ← bitStringContent_length]
    rfl
  | enumerated v =>
    change 1 + (enumeratedContent v).length = if v < 0x100 then 2 else 5
    rw [(enumeratedContent_length v).1, enumeratedBytes]
    split <;> rfl
  | _ => rfl

theorem primitive_length {v : PropertyValue} (prim : v.IsPrimitive) :
    (valueOctets v).length = valueSize v := by
  rw [valueOctets_eq prim, Layout.octets, field_length]
  exact layout_size prim

mutual

theorem valueOctets_length (v : PropertyValue) : (valueOctets v).length = valueSize v := by
  cases v with
  | array items => exact encodeItems_length items
  | list items => exact encodeItems_length items
  | any raw => rfl
  | _ => exact primitive_length trivial

theorem encodeItems_length (items : List PropertyValue) :
    (encodeItems items).1.length = itemsSize items := by
  cases items with
  | nil => rfl
  | cons item items =>
    have head := valueOctets_length item
    have tail := encodeItems_length items
    have written : encodePropertyValue item = (valueOctets item, .ok ()) :=
      Prod.ext rfl (encodePropertyValue_ok item)
    rw [encodeItems, written, itemsSize, ← head, ← tail]
    exact List.length_append

end

end BacnetSim
