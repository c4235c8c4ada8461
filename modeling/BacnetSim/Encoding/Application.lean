import BacnetSim.Encoding.Asn1

/-! Property values on the wire (`encoding/application.rs`).
The writer returns the octets it has appended and its result. -/
namespace BacnetSim
open Octets Asn1

def enumeratedBytes (v : UInt32) : UInt8 × Bytes :=
  if v < 0x100 then (1, [v.toUInt8, 0, 0, 0]) else (4, toBe32 v)

mutual

def encodePropertyValue : PropertyValue → Bytes × Except BacnetError Unit
  | .null => ([0x00], .ok ())
  | .boolean v => ([0x11, if v then 0x01 else 0x00], .ok ())
  | .unsigned v => (encodeApplicationUnsigned v, .ok ())
  | .real v => (encodeApplicationReal v, .ok ())
  | .characterString s =>
    let bytes := Utf8.octets s
    let len := bytes.length + 1
    ([0x75, UInt8.ofNat len, 0x00] ++ bytes, .ok ())
  | .objectId oid => (encodeApplicationObjectId oid, .ok ())
  | .date d => (encodeApplicationDate d, .ok ())
  | .bitString b => (encodeApplicationBitstring b, .ok ())
  | .enumerated v =>
    let (len, bytes) := enumeratedBytes v
    ([0x90 ||| len] ++ bytes.take len.toNat, .ok ())
  | .any raw => (raw, .ok ())
  | .array items | .list items => encodeItems items
  | .integer v => ([0x34] ++ toBe32 v.toUInt32, .ok ())
  | .double v => ([0x55, 0x08] ++ toBe64 v.bits, .ok ())
  | .octetString bytes =>
    let len := bytes.length
    ((if len ≤ 4 then [0x60 ||| UInt8.ofNat len] else [0x65, UInt8.ofNat len]) ++ bytes, .ok ())
  | .time t => ([0xB4, t.hour, t.minute, t.second, t.hundredths], .ok ())

/-- `for item in items { encode_property_value(buf, item)?; }`. -/
def encodeItems : List PropertyValue → Bytes × Except BacnetError Unit
  | [] => ([], .ok ())
  | item :: items =>
    match encodePropertyValue item with
    | (e, .error err) => (e, .error err)
    | (e, .ok ()) => (e ++ (encodeItems items).1, (encodeItems items).2)

end

abbrev valueOctets (v : PropertyValue) : Bytes := (encodePropertyValue v).1

mutual

theorem encodePropertyValue_ok (v : PropertyValue) : (encodePropertyValue v).2 = .ok () := by
  cases v with
  | array items => rw [encodePropertyValue, encodeItems_ok]
  | list items => rw [encodePropertyValue, encodeItems_ok]
  | _ => rfl

theorem encodeItems_ok (items : List PropertyValue) : (encodeItems items).2 = .ok () := by
  cases items with
  | nil => rfl
  | cons item items =>
    have head := encodePropertyValue_ok item
    have tail := encodeItems_ok items
    rw [encodeItems]
    split <;> simp_all

end

end BacnetSim
