import BacnetSim.Lib.BigEndian
import BacnetSim.Types.PropertyValue

/-! Application-tagged primitives (`encoding/asn1.rs`).
An encoder is the list of octets it appends to its buffer. -/
namespace BacnetSim.Asn1
open Octets Ieee754

def tagByte (tag len : UInt8) : UInt8 := (tag <<< 4) ||| (len &&& 0x07)

def contextTagByte (tag len : UInt8) : UInt8 :=
  ((tag &&& 0x0F) <<< 4) ||| (len &&& 0x07) ||| 0x08

def uintBytes (value : UInt32) : UInt8 × Bytes :=
  let b := toBe32 value
  if value < 0x100 then (1, [value.toUInt8, 0, 0, 0])
  else if value < 0x10000 then (2, [b[2]!, b[3]!, 0, 0])
  else if value < 0x1000000 then (3, [b[1]!, b[2]!, b[3]!, 0])
  else (4, [b[0]!, b[1]!, b[2]!, b[3]!])

def encodeApplicationUnsigned (value : UInt32) : Bytes :=
  let (len, bytes) := uintBytes value
  [tagByte 2 len] ++ bytes.take len.toNat

def encodeApplicationReal (value : F32) : Bytes := [tagByte 4 4] ++ toBe32 value.bits

def encodeApplicationObjectId (oid : ObjectId) : Bytes :=
  let typeCode := UInt32.ofNat oid.objectType.code
  let encoded := (typeCode <<< 22) ||| (oid.instanceNumber &&& 0x3FFFFF)
  [0xC4] ++ toBe32 encoded

def encodeApplicationDate (date : BacnetDate) : Bytes :=
  [tagByte 10 4, UInt8.ofNat (date.year.toNat - 1900), date.month, date.day, date.weekday.code]

/-- The packing loop from bit `i` on, with the octet begun so far. The last clause
is the push after the loop, where `i` has reached the number of bits. -/
def packBits (i : Nat) (byte : UInt8) : List Bool → Bytes
  | [] => if i % 8 = 0 then [] else [byte]
  | bit :: bits =>
    let byte := if bit then byte ||| (0x80 >>> UInt8.ofNat (i % 8)) else byte
    if i % 8 = 7 then byte :: packBits (i + 1) 0 bits else packBits (i + 1) byte bits

def encodeApplicationBitstring (b : BitString) : Bytes :=
  let data := b.bits
  let unused := if data.isEmpty then 0 else UInt8.ofNat (8 - data.length % 8) % 8
  let byteCount := (data.length + 7) / 8
  let totalLen := 1 + byteCount
  let header :=
    if totalLen ≤ 4 then [tagByte 8 (UInt8.ofNat totalLen), unused]
    else [tagByte 8 5, UInt8.ofNat totalLen, unused]
  header ++ packBits 0 0 data

def encodeContextUnsigned (contextTag : UInt8) (value : UInt32) : Bytes :=
  let (len, bytes) := uintBytes value
  [contextTagByte contextTag len] ++ bytes.take len.toNat

end BacnetSim.Asn1
