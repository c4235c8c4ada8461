import BacnetSim.Lib.BigEndian
import BacnetSim.Types.PropertyValue

/-! Context-tagged and application-tagged readers, and the context-tagged writers
(`encoding/tags.rs`). A reader gets the buffer and a position, and returns its
value with the position it has advanced to. -/
namespace BacnetSim.Tags
open Rust Octets Ieee754

def peek (buf : Bytes) (pos : Nat) : Option UInt8 := buf[pos]?

def tagNumber (b : UInt8) : UInt8 := (b >>> 4) &&& 0x0F
def isContext (b : UInt8) : Bool := b &&& 0x08 != 0
def lvtOf (b : UInt8) : UInt8 := b &&& 0x07

def decodeLvtLen (buf : Bytes) (pos : Nat) (lvt : UInt8) : Result (Nat × Nat) :=
  if lvt < 5 then .ok (lvt.toNat, pos)
  else if lvt == 5 then do
    let l ← okOr buf[pos]? (.decodeError "extended-length byte missing")
    .ok (l.toNat, pos + 1)
  else fail (.decodeError s!"unexpected LVT {lvt} for length field")

def readUint (buf : Bytes) (pos len : Nat) : Result (UInt32 × Nat) :=
  if pos + len > buf.length then fail (.decodeError "integer value truncated")
  else do
    let bytes ← slice buf pos (pos + len)
    .ok (ofBe32 bytes, pos + len)

def isOpening (buf : Bytes) (pos : Nat) (number : UInt8) : Bool :=
  (peek buf pos).any fun b => isContext b && tagNumber b == number && lvtOf b == 6

def isClosing (buf : Bytes) (pos : Nat) (number : UInt8) : Bool :=
  (peek buf pos).any fun b => isContext b && tagNumber b == number && lvtOf b == 7

def hasContextTag (buf : Bytes) (pos : Nat) (number : UInt8) : Bool :=
  (peek buf pos).any fun b => isContext b && tagNumber b == number && lvtOf b < 6

def decodeCtxU32 (buf : Bytes) (pos : Nat) (expected : UInt8) : Result (UInt32 × Nat) := do
  let b ← okOr (peek buf pos) (.decodeError "buffer exhausted (ctx u32)")
  if !isContext b || tagNumber b != expected then
    fail (.decodeError s!"expected context tag {expected}, got byte {hex 4 b}")
  else
    let (len, pos) ← decodeLvtLen buf (pos + 1) (lvtOf b)
    readUint buf pos len

def decodeCtxBool (buf : Bytes) (pos : Nat) (expected : UInt8) : Result (Bool × Nat) := do
  let (v, pos) ← decodeCtxU32 buf pos expected
  .ok (v != 0, pos)

/-- The identifier in 32 bits: 10 bits of type code, 22 bits of instance. A type
code outside the lookup is read as that of a Device. -/
def objectIdOfRaw (raw : UInt32) : ObjectId :=
  { objectType := (ObjectType.fromU16 (raw >>> 22).toUInt16).getD .device
    instanceNumber := raw &&& 0x3FFFFF }

def decodeCtxObjectId (buf : Bytes) (pos : Nat) (expected : UInt8) : Result (ObjectId × Nat) := do
  let b ← okOr (peek buf pos) (.decodeError "buffer exhausted (ctx object-id)")
  if !isContext b || tagNumber b != expected then
    fail (.decodeError s!"expected context tag {expected} for object-id, got {hex 4 b}")
  else
    let (len, pos) ← decodeLvtLen buf (pos + 1) (lvtOf b)
    if len ≠ 4 then fail (.decodeError s!"object-id must be 4 bytes, got {len}")
    else if pos + 4 > buf.length then fail (.decodeError "object-id value truncated")
    else
      let bytes ← slice buf pos (pos + 4)
      .ok (objectIdOfRaw (ofBe32 bytes), pos + 4)

def decodeCtxPropertyId (buf : Bytes) (pos : Nat) (expected : UInt8) :
    Result (PropertyIdentifier × Nat) := do
  let (v, pos) ← decodeCtxU32 buf pos expected
  .ok (PropertyIdentifier.fromU32 v, pos)

/-- One turn of the signed reader: `v = (v << 8) | byte as i32`. -/
def shiftInI32 (v : Int32) (b : UInt8) : Int32 := (v <<< 8) ||| b.toUInt32.toInt32

/-- `for bit in (0..nbits).rev() { bits.push((byte >> bit) & 1 != 0) }`. -/
def lowBits (byte : UInt8) (nbits : Nat) : List Bool :=
  (List.range nbits).reverse.map fun bit => (byte >>> UInt8.ofNat bit) &&& 1 != 0

def unpackBits (unused : Nat) : Bytes → Result (List Bool)
  | [] => .ok []
  | [byte] => do
    let nbits ← checkedSub 8 unused
    .ok (lowBits byte nbits)
  | byte :: rest => do
    let bits ← unpackBits unused rest
    .ok (lowBits byte 8 ++ bits)

/-- Every weekday octet but 1 to 6 is read as Sunday. -/
def weekdayOf (raw : UInt8) : Weekday :=
  match raw.toNat with
  | 1 => .monday
  | 2 => .tuesday
  | 3 => .wednesday
  | 4 => .thursday
  | 5 => .friday
  | 6 => .saturday
  | _ => .sunday

/-- The readers with a fixed content length: the declared one is read and ignored. -/
def readFixed (buf : Bytes) (pos : Nat) (lvt : UInt8) (len : Nat) (truncated : String) :
    Result (Bytes × Nat) := do
  let (_, pos) ← decodeLvtLen buf pos lvt
  if pos + len > buf.length then fail (.decodeError truncated)
  else
    let bytes ← slice buf pos (pos + len)
    .ok (bytes, pos + len)

def readDeclared (buf : Bytes) (pos : Nat) (lvt : UInt8) (truncated : String) :
    Result (Bytes × Nat) := do
  let (len, pos) ← decodeLvtLen buf pos lvt
  if pos + len > buf.length then fail (.decodeError truncated)
  else
    let bytes ← slice buf pos (pos + len)
    .ok (bytes, pos + len)

def readLed (buf : Bytes) (pos : Nat) (lvt : UInt8) (invalid : String) :
    Result (UInt8 × Bytes × Nat) := do
  let (len, pos) ← decodeLvtLen buf pos lvt
  if len = 0 ∨ pos + len > buf.length then fail (.decodeError invalid)
  else
    let lead ← index buf pos
    let data ← slice buf (pos + 1) (pos + len)
    .ok (lead, data, pos + len)

def decodeApplicationValue (buf : Bytes) (pos : Nat) : Result (PropertyValue × Nat) := do
  let b ← okOr (peek buf pos) (.decodeError "buffer exhausted (application value)")
  let tag := tagNumber b
  let lvt := lvtOf b
  if isContext b then
    fail (.decodeError s!"expected application tag, got context byte {hex 4 b}")
  else
    let pos := pos + 1
    match tag.toNat with
    | 0 => .ok (.null, pos)
    | 1 => .ok (.boolean (lvt != 0), pos)
    | 2 =>
      let (len, pos) ← decodeLvtLen buf pos lvt
      let (v, pos) ← readUint buf pos len
      .ok (.unsigned v, pos)
    | 3 =>
      let (bytes, pos) ← readDeclared buf pos lvt "integer truncated"
      .ok (.integer (bytes.foldl shiftInI32 0), pos)
    | 4 =>
      let (bytes, pos) ← readFixed buf pos lvt 4 "real truncated"
      .ok (.real ⟨ofBe32 bytes⟩, pos)
    | 5 =>
      let (bytes, pos) ← readFixed buf pos lvt 8 "double truncated"
      .ok (.double ⟨ofBe64 bytes⟩, pos)
    | 6 =>
      let (data, pos) ← readDeclared buf pos lvt "octet-string truncated"
      .ok (.octetString data, pos)
    | 7 =>
      let (_charset, data, pos) ← readLed buf pos lvt "character-string invalid"
      .ok (.characterString (Utf8.fromUtf8Lossy data), pos)
    | 8 =>
      let (unused, data, pos) ← readLed buf pos lvt "bit-string invalid"
      -- `Vec::with_capacity(data.len() * 8 - unused)`
      let _total ← checkedSub (data.length * 8) unused.toNat
      let bits ← unpackBits unused.toNat data
      .ok (.bitString ⟨bits⟩, pos)
    | 9 =>
      let (len, pos) ← decodeLvtLen buf pos lvt
      let (v, pos) ← readUint buf pos len
      .ok (.enumerated v, pos)
    | 10 =>
      let (bytes, pos) ← readFixed buf pos lvt 4 "date truncated"
      .ok (.date
        { year := bytes[0]!.toUInt16 + 1900
          month := bytes[1]!
          day := bytes[2]!
          weekday := weekdayOf bytes[3]! }, pos)
    | 11 =>
      let (bytes, pos) ← readFixed buf pos lvt 4 "time truncated"
      .ok (.time
        { hour := bytes[0]!
          minute := bytes[1]!
          second := bytes[2]!
          hundredths := bytes[3]! }, pos)
    | 12 =>
      let (bytes, pos) ← readFixed buf pos lvt 4 "object-id truncated"
      .ok (.objectId (objectIdOfRaw (ofBe32 bytes)), pos)
    | _ => fail (.decodeError s!"unsupported application tag {hex 3 tag}")

def uintBytes (value : UInt32) : UInt8 × Bytes :=
  if value < 0x100 then (1, [value.toUInt8, 0, 0, 0])
  else if value < 0x10000 then (2, [(value >>> 8).toUInt8, value.toUInt8, 0, 0])
  else if value < 0x1000000 then
    (3, [(value >>> 16).toUInt8, (value >>> 8).toUInt8, value.toUInt8, 0])
  else
    (4, [(value >>> 24).toUInt8, (value >>> 16).toUInt8, (value >>> 8).toUInt8, value.toUInt8])

def encodeCtxObjectId (tagNum : UInt8) (oid : ObjectId) : Bytes :=
  let typeCode := UInt32.ofNat oid.objectType.code
  let raw := (typeCode <<< 22) ||| (oid.instanceNumber &&& 0x3FFFFF)
  [(tagNum <<< 4) ||| 0x08 ||| 4] ++ toBe32 raw

def encodeCtxU32 (tagNum : UInt8) (value : UInt32) : Bytes :=
  let (len, bytes) := uintBytes value
  [(tagNum <<< 4) ||| 0x08 ||| len] ++ bytes.take len.toNat

def encodeOpeningTag (tagNum : UInt8) : Bytes := [(tagNum <<< 4) ||| 0x08 ||| 6]

def encodeClosingTag (tagNum : UInt8) : Bytes := [(tagNum <<< 4) ||| 0x08 ||| 7]

end BacnetSim.Tags
