import BacnetSim.Encoding.Layout

/-! What the application reader makes of a written value. -/
namespace BacnetSim
open Rust Octets Asn1 Tags

variable {buf rest content : Bytes} {pos start : Nat} {lvt : UInt8}

section Shapes
variable (len : decodeLvtLen buf pos lvt = .ok (content.length, start))
  (there : Cursor buf start (content ++ rest)) (msg : String)
include len there

theorem readDeclared_field :
    readDeclared buf pos lvt msg = .ok (content, start + content.length) := by
  have total := there.length
  rw [List.length_append] at total
  have room : ¬ start + content.length > buf.length := by omega
  simp only [readDeclared, len, ok_bind, if_neg room, there.slice]

theorem readFixed_field {n : Nat} (size : content.length = n) :
    readFixed buf pos lvt n msg = .ok (content, start + content.length) := by
  subst size
  have total := there.length
  rw [List.length_append] at total
  have room : ¬ start + content.length > buf.length := by omega
  simp only [readFixed, len, ok_bind, if_neg room, there.slice]

theorem readLed_field {lead : UInt8} {data : Bytes} (split : content = lead :: data) :
    readLed buf pos lvt msg = .ok (lead, data, start + content.length) := by
  subst split
  have total := there.length
  rw [List.length_append] at total
  have room : ¬ ((lead :: data).length = 0 ∨ start + (lead :: data).length > buf.length) := by
    simp only [List.length_cons] at total ⊢
    omega
  have first : (index buf start : Result UInt8) = .ok lead := there.index (i := 0) rfl
  have others : (slice buf (start + 1) (start + (lead :: data).length) : Result Bytes) = .ok data := by
    rw [List.length_cons, show start + (data.length + 1) = start + 1 + data.length by omega]
    exact there.next.slice
  simp only [readLed, len, ok_bind, if_neg room, first, others]

end Shapes

/-- The value that the reader returns for the octets of one other than a boolean. -/
def received : PropertyValue → PropertyValue
  | .objectId oid => .objectId (objectIdOfRaw (rawOfObjectId oid))
  | .date d => .date { d with weekday := weekdayOf d.weekday.code }
  | .bitString b => .bitString ⟨readBack b.bits⟩
  | v => v

/-- The values that come back as they were sent: no boolean, whose content octet the
reader leaves unread; no bit set past the last whole octet; no unspecified weekday; no
object type outside the lookup. -/
def ReadsBack : PropertyValue → Prop
  | .boolean _ => False
  | .bitString b => true ∉ tailBits b.bits
  | .date d => d.weekday ≠ .unspecified
  | .objectId oid => oid.objectType.IsKnown
  | _ => True

theorem weekdayOf_code (w : Weekday) : weekdayOf w.code = w ↔ w ≠ .unspecified := by
  cases w <;> decide

theorem year_readBack {year : UInt16} (low : 1900 ≤ year.toNat) (high : year.toNat ≤ 2155) :
    (UInt8.ofNat (year.toNat - 1900)).toUInt16 + 1900 = year := by
  apply UInt16.toNat_inj.mp
  rw [UInt16.toNat_add, UInt8.toNat_toUInt16, UInt8.toNat_ofNat']
  change ((year.toNat - 1900) % 2 ^ 8 + 1900) % 2 ^ 16 = year.toNat
  omega

theorem foldl_shiftInI32 (bs : Bytes) (v : Int32) :
    (bs.foldl shiftInI32 v).toUInt32 = bs.foldl shiftIn32 v.toUInt32 := by
  induction bs generalizing v with
  | nil => rfl
  | cons b bs ih => exact ih _

theorem integer_readBack (v : Int32) : (toBe32 v.toUInt32).foldl shiftInI32 0 = v := by
  have same : ((toBe32 v.toUInt32).foldl shiftInI32 0).toUInt32 = v.toUInt32 := by
    rw [foldl_shiftInI32]
    exact ofBe32_toBe32 v.toUInt32
  rw [← Int32.toInt32_toUInt32 (List.foldl _ _ _), same, Int32.toInt32_toUInt32]

theorem total_bits (bits : List Bool) :
    (checkedSub ((packBits 0 0 bits).length * 8) (unusedBits bits.length) : Result Nat) =
      .ok ((packBits 0 0 bits).length * 8 - unusedBits bits.length) := by
  have len := packBits_length bits
  have enough : unusedBits bits.length ≤ (packBits 0 0 bits).length * 8 := by
    unfold unusedBits
    omega
  exact if_pos enough

theorem unusedBits_toNat (n : Nat) : (UInt8.ofNat (unusedBits n)).toNat = unusedBits n := by
  have small : unusedBits n < 8 := Nat.mod_lt _ (by decide)
  rw [UInt8.toNat_ofNat']
  exact Nat.mod_eq_of_lt (by omega)

theorem decodeApplicationValue_layout {v : PropertyValue} (prim : v.IsPrimitive)
    (fits : v.FitsWire) (notBoolean : ∀ b, v ≠ .boolean b)
    (at_ : Cursor buf pos ((layout v).octets ++ rest)) :
    decodeApplicationValue buf pos = .ok (received v, pos + (layout v).octets.length) := by
  have shape := layout_fits fits
  obtain ⟨b, start, here, ctx, tag, _, len, there, stop⟩ := field_read shape.tag shape.length at_
  have number : (tagNumber b).toNat = (layout v).tag.toNat := congrArg UInt8.toNat tag
  have stop : start + (layout v).content.length = pos + (layout v).octets.length := stop
  simp only [decodeApplicationValue, here, okOr_some, ok_bind, ctx, Bool.false_eq_true, if_false]
  cases v with
  | array items => cases prim
  | list items => cases prim
  | any raw => cases prim
  | boolean b => exact absurd rfl (notBoolean b)
  | null =>
    simp only [number, layout, UInt8.toNat_ofNat] at stop ⊢
    rfl
  | unsigned v =>
    simp only [layout] at number len there stop ⊢
    simp only [number, UInt8.reduceToNat, len, ok_bind, readUint_content there, stop, received,
      ofBe32_uintContent]
  | integer v =>
    simp only [layout] at number len there stop ⊢
    simp only [number, UInt8.reduceToNat, readDeclared_field len there, ok_bind, stop, received,
      integer_readBack]
  | real v =>
    simp only [layout] at number len there stop ⊢
    simp only [number, UInt8.reduceToNat, readFixed_field (n := 4) len there _ rfl, ok_bind, stop, received,
      ofBe32_toBe32]
  | double v =>
    simp only [layout] at number len there stop ⊢
    simp only [number, UInt8.reduceToNat, readFixed_field (n := 8) len there _ rfl, ok_bind, stop, received,
      ofBe64_toBe64]
  | octetString data =>
    simp only [layout] at number len there stop ⊢
    simp only [number, UInt8.reduceToNat, readDeclared_field len there, ok_bind, stop, received]
  | characterString s =>
    simp only [layout] at number len there stop ⊢
    simp only [number, UInt8.reduceToNat, readLed_field len there _ rfl, ok_bind, stop, received,
      Utf8.fromUtf8Lossy_octets]
  | bitString bits =>
    simp only [layout] at number len there stop ⊢
    simp only [number, UInt8.reduceToNat, readLed_field len there _ rfl, ok_bind, stop, received,
      unusedBits_toNat, total_bits, unpackBits_packBits]
  | enumerated v =>
    simp only [layout] at number len there stop ⊢
    simp only [number, UInt8.reduceToNat, len, ok_bind, readUint_content there, stop, received,
      ofBe32_enumeratedContent]
  | date d =>
    simp only [layout] at number len there stop ⊢
    simp only [number, UInt8.reduceToNat, readFixed_field (n := 4) len there _ rfl, ok_bind, stop, received]
    simp [dateContent, year_readBack fits.1 fits.2]
  | time t =>
    simp only [layout] at number len there stop ⊢
    simp only [number, UInt8.reduceToNat, readFixed_field (n := 4) len there _ rfl, ok_bind, stop, received]
    rfl
  | objectId oid =>
    simp only [layout] at number len there stop ⊢
    simp only [number, UInt8.reduceToNat, readFixed_field (n := 4) len there _ rfl, ok_bind, stop, received,
      ofBe32_toBe32]

/-- A boolean's one octet of content is left unread: its length 1 is read as `true`. -/
theorem decodeApplicationValue_boolean (b : Bool) :
    decodeApplicationValue (valueOctets (.boolean b) ++ rest) 0 = .ok (.boolean true, 1) := by
  cases b <;> rfl

theorem known_of_readBack {oid : ObjectId} (narrow : Is22Bit oid.instanceNumber)
    (same : objectIdOfRaw (rawOfObjectId oid) = oid) : oid.objectType.IsKnown := by
  rw [objectIdOfRaw_rawOfObjectId narrow] at same
  have type := congrArg ObjectId.objectType same
  cases found : ObjectType.fromU16 (UInt16.ofNat oid.objectType.code) with
  | some t => exact Option.isSome_iff_exists.mpr ⟨t, found⟩
  | none =>
    have device : ObjectType.device = oid.objectType := by rwa [found] at type
    rw [← device]
    decide

theorem received_eq_iff {v : PropertyValue} (fits : v.FitsWire) (notBoolean : ∀ b, v ≠ .boolean b) :
    received v = v ↔ ReadsBack v := by
  cases v with
  | boolean b => exact absurd rfl (notBoolean b)
  | bitString b =>
    cases b
    simp only [received, ReadsBack, PropertyValue.bitString.injEq, BitString.mk.injEq,
      readBack_eq_iff]
  | date d =>
    cases d
    simp only [received, ReadsBack, PropertyValue.date.injEq, BacnetDate.mk.injEq, true_and,
      weekdayOf_code]
  | objectId oid =>
    simp only [received, ReadsBack, PropertyValue.objectId.injEq]
    exact ⟨known_of_readBack fits, fun known => objectIdOfRaw_of_known ⟨known, fits⟩⟩
  | _ => simp [received, ReadsBack]

/-- A primitive value that fits the wire is read back, with the position at its end,
exactly when it is one of those `ReadsBack` names. -/
theorem decodeApplicationValue_valueOctets_iff {v : PropertyValue} (prim : v.IsPrimitive)
    (fits : v.FitsWire) (suffix : Bytes) :
    decodeApplicationValue (valueOctets v ++ suffix) 0 = .ok (v, (valueOctets v).length) ↔
      ReadsBack v := by
  by_cases boolean : ∃ b, v = .boolean b
  · obtain ⟨b, rfl⟩ := boolean
    rw [decodeApplicationValue_boolean]
    simp [ReadsBack, valueOctets, encodePropertyValue]
  · have notBoolean : ∀ b, v ≠ .boolean b := fun b h => boolean ⟨b, h⟩
    rw [valueOctets_eq prim, decodeApplicationValue_layout prim fits notBoolean (.start _),
      ← received_eq_iff fits notBoolean, Nat.zero_add]
    simp

theorem unsigned_readBack :
    decodeApplicationValue (valueOctets (.unsigned 300) ++ [0xFF]) 0 = .ok (.unsigned 300, 3) :=
  (decodeApplicationValue_valueOctets_iff (v := .unsigned 300) trivial trivial [0xFF]).mpr trivial

theorem boolean_not_readBack :
    ¬ ∀ v : PropertyValue, v.IsPrimitive → v.FitsWire → ∀ suffix : Bytes,
      decodeApplicationValue (valueOctets v ++ suffix) 0 = .ok (v, (valueOctets v).length) := by
  intro claim
  have read := claim (.boolean false) trivial trivial []
  rw [decodeApplicationValue_boolean] at read
  cases read

end BacnetSim
