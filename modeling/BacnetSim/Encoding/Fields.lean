import BacnetSim.Encoding.Asn1
import BacnetSim.Encoding.Tags

/-! The context-tagged readers invert the context-tagged writers. Every statement
is about a cursor: the octets written, then any rest. -/
namespace BacnetSim.Tags
open Rust Octets

variable {buf rest content : Bytes} {pos : Nat}

def header (ctx : Bool) (t lvt : UInt8) : UInt8 :=
  (t <<< 4) ||| (if ctx then 0x08 else 0x00) ||| lvt

theorem header_table : ∀ (ctx : Bool) (t : Fin 15) (l : Fin 8),
    tagNumber (header ctx (UInt8.ofNat t) (UInt8.ofNat l)) = UInt8.ofNat t ∧
    isContext (header ctx (UInt8.ofNat t) (UInt8.ofNat l)) = ctx ∧
    lvtOf (header ctx (UInt8.ofNat t) (UInt8.ofNat l)) = UInt8.ofNat l := by decide

theorem header_parts (ctx : Bool) {t l : UInt8} (ht : t < 15) (hl : l < 8) :
    tagNumber (header ctx t l) = t ∧ isContext (header ctx t l) = ctx ∧
      lvtOf (header ctx t l) = l := by
  have h := header_table ctx ⟨t.toNat, ht⟩ ⟨l.toNat, hl⟩
  simpa only [UInt8.ofNat_toNat] using h

theorem decodeLvtLen_direct {lvt : UInt8} (h : lvt < 5) :
    decodeLvtLen buf pos lvt = .ok (lvt.toNat, pos) := if_pos h

theorem decodeLvtLen_extended {l : UInt8} (at_ : Cursor buf pos (l :: rest)) :
    decodeLvtLen buf pos 5 = .ok (l.toNat, pos + 1) := by
  have here : buf[pos]? = some l := at_.peek
  simp only [decodeLvtLen, here]
  rfl

theorem readUint_content (at_ : Cursor buf pos (content ++ rest)) :
    readUint buf pos content.length = .ok (ofBe32 content, pos + content.length) := by
  have total := at_.length
  rw [List.length_append] at total
  have room : ¬ pos + content.length > buf.length := by omega
  simp only [readUint, if_neg room, at_.slice, ok_bind]

def uintContent (v : UInt32) : Bytes := (uintBytes v).2.take (uintBytes v).1.toNat

theorem uintContent_length (v : UInt32) :
    (uintContent v).length = (uintBytes v).1.toNat ∧
      1 ≤ (uintContent v).length ∧ (uintContent v).length ≤ 4 := by
  unfold uintContent uintBytes
  split
  · simp
  · split
    · simp
    · split <;> simp

theorem beNat_uintContent (v : UInt32) : beNat (uintContent v) = v.toNat := by
  have hv := v.toNat_lt
  unfold uintContent uintBytes
  split
  · rename_i h
    have small : v.toNat < 0x100 := h
    simp [beNat]
    omega
  · split
    · rename_i h
      have small : v.toNat < 0x10000 := h
      simp [beNat, Nat.shiftRight_eq_div_pow]
      omega
    · split
      · rename_i h
        have small : v.toNat < 0x1000000 := h
        simp [beNat, Nat.shiftRight_eq_div_pow]
        omega
      · simp [beNat, Nat.shiftRight_eq_div_pow]
        omega

@[simp] theorem ofBe32_uintContent (v : UInt32) : ofBe32 (uintContent v) = v :=
  (ofBe32_eq_iff (uintContent_length v).2.2 v).mpr (beNat_uintContent v)

theorem asn1_uintBytes (v : UInt32) : Asn1.uintBytes v = uintBytes v := by
  unfold Asn1.uintBytes uintBytes toBe32
  rfl

def fieldLvt (extended : Bool) (content : Bytes) : UInt8 :=
  if extended then 5 else UInt8.ofNat content.length

def field (ctx : Bool) (t : UInt8) (extended : Bool) (content : Bytes) : Bytes :=
  header ctx t (fieldLvt extended content) ::
    ((if extended then [UInt8.ofNat content.length] else []) ++ content)

theorem field_direct (ctx : Bool) (t : UInt8) (content : Bytes) :
    field ctx t false content = header ctx t (UInt8.ofNat content.length) :: content := rfl

theorem field_extended (ctx : Bool) (t : UInt8) (content : Bytes) :
    field ctx t true content = header ctx t 5 :: UInt8.ofNat content.length :: content := rfl

def FieldFits (extended : Bool) (content : Bytes) : Prop :=
  content.length < if extended then 256 else 5

theorem fieldLvt_lt {extended : Bool} (fits : FieldFits extended content) :
    fieldLvt extended content < 6 := by
  cases extended with
  | true => exact (by decide : (5 : UInt8) < 6)
  | false =>
    have short : content.length < 5 := fits
    rw [UInt8.lt_iff_toNat_lt, fieldLvt, if_neg (by decide), UInt8.toNat_ofNat']
    change content.length % 2 ^ 8 < 6
    omega

theorem field_read {ctx : Bool} {t : UInt8} {extended : Bool} (ht : t < 15)
    (fits : FieldFits extended content)
    (at_ : Cursor buf pos (field ctx t extended content ++ rest)) :
    ∃ b start, peek buf pos = some b ∧ isContext b = ctx ∧ tagNumber b = t ∧ lvtOf b < 6 ∧
      decodeLvtLen buf (pos + 1) (lvtOf b) = .ok (content.length, start) ∧
      Cursor buf start (content ++ rest) ∧
      start + content.length = pos + (field ctx t extended content).length := by
  have small := fieldLvt_lt fits
  have parts := header_parts ctx ht (UInt8.lt_trans small (by decide))
  have len : (UInt8.ofNat content.length).toNat = content.length := by
    rw [UInt8.toNat_ofNat']
    apply Nat.mod_eq_of_lt
    cases extended
    · exact Nat.lt_trans fits (by decide)
    · exact fits
  cases extended with
  | true =>
    refine ⟨_, pos + 1 + 1, at_.peek, parts.2.1, parts.1, by rwa [parts.2.2], ?_, at_.next.next, ?_⟩
    · rw [parts.2.2]
      exact (decodeLvtLen_extended at_.next).trans (by rw [len])
    · simp only [field, if_true, List.length_cons, List.cons_append, List.nil_append]
      omega
  | false =>
    have direct : fieldLvt false content < 5 := by
      rw [UInt8.lt_iff_toNat_lt, fieldLvt, if_neg (by decide), len]
      exact fits
    refine ⟨_, pos + 1, at_.peek, parts.2.1, parts.1, by rwa [parts.2.2], ?_, at_.next, ?_⟩
    · rw [parts.2.2, decodeLvtLen_direct direct]
      simp only [fieldLvt, Bool.false_eq_true, if_false, len]
    · simp only [field, Bool.false_eq_true, if_false, List.length_cons, List.nil_append]
      omega

theorem field_unique {c c' : Bool} {t t' : UInt8} {x x' : Bool} {content' rest' : Bytes}
    (ht : t < 15) (ht' : t' < 15) (fits : FieldFits x content) (fits' : FieldFits x' content')
    (same : field c t x content ++ rest = field c' t' x' content' ++ rest') :
    t = t' ∧ content = content' ∧ rest = rest' := by
  have left := Cursor.start (field c t x content ++ rest)
  have right : Cursor (field c t x content ++ rest) 0 (field c' t' x' content' ++ rest') :=
    ⟨[], same, rfl⟩
  obtain ⟨b, start, here, _, tag, _, len, there, _⟩ := field_read ht fits left
  obtain ⟨b', start', here', _, tag', _, len', there', _⟩ := field_read ht' fits' right
  cases here.symm.trans here'
  have lens := Prod.mk.inj (Except.ok.inj (len.symm.trans len'))
  rw [← lens.2] at there'
  have streams : content ++ rest = content' ++ rest' := there.unique there'
  have parts := List.append_inj streams lens.1
  exact ⟨tag.symm.trans tag', parts.1, parts.2⟩

theorem encodeCtxU32_eq (t : UInt8) (v : UInt32) :
    encodeCtxU32 t v = field true t false (uintContent v) := by
  have len : UInt8.ofNat (uintContent v).length = (uintBytes v).1 := by
    rw [(uintContent_length v).1, UInt8.ofNat_toNat]
  simp only [field, fieldLvt, Bool.false_eq_true, if_false, len]
  rfl

theorem fits_of_short {extended : Bool} (short : content.length ≤ 4) :
    FieldFits extended content := by
  unfold FieldFits
  split <;> omega

theorem decodeCtxU32_field {t : UInt8} {extended : Bool} (ht : t < 15)
    (fits : FieldFits extended content)
    (at_ : Cursor buf pos (field true t extended content ++ rest)) :
    decodeCtxU32 buf pos t =
      .ok (ofBe32 content, pos + (field true t extended content).length) := by
  obtain ⟨b, start, here, ctx, tag, _, len, there, stop⟩ := field_read ht fits at_
  simp only [decodeCtxU32, here, okOr_some, ok_bind, ctx, tag, len, Bool.not_true, bne_self_eq_false,
    Bool.or_self, Bool.false_eq_true, if_false, readUint_content there, stop]

theorem hasContextTag_field {t n : UInt8} {extended : Bool} (ht : t < 15)
    (fits : FieldFits extended content)
    (at_ : Cursor buf pos (field true t extended content ++ rest)) :
    hasContextTag buf pos n = (t == n) := by
  obtain ⟨b, _, here, ctx, tag, lvt, _⟩ := field_read ht fits at_
  simp [hasContextTag, here, ctx, tag, lvt]

theorem hasContextTag_encode {t n : UInt8} (ht : t < 15) (v : UInt32)
    (at_ : Cursor buf pos (encodeCtxU32 t v ++ rest)) : hasContextTag buf pos n = (t == n) := by
  rw [encodeCtxU32_eq] at at_
  exact hasContextTag_field ht (fits_of_short (uintContent_length v).2.2) at_

def rawOfObjectId (oid : ObjectId) : UInt32 :=
  (UInt32.ofNat oid.objectType.code <<< 22) ||| (oid.instanceNumber &&& 0x3FFFFF)

theorem encodeCtxObjectId_eq (t : UInt8) (oid : ObjectId) :
    encodeCtxObjectId t oid = field true t false (toBe32 (rawOfObjectId oid)) := rfl

theorem rawOfObjectId_toNat (oid : ObjectId) :
    (rawOfObjectId oid).toNat = oid.objectType.code * 2 ^ 22 + oid.instanceNumber.toNat % 2 ^ 22 := by
  have hc := oid.objectType.code_le
  have code : oid.objectType.code % 2 ^ 32 = oid.objectType.code := Nat.mod_eq_of_lt (by omega)
  have shifted : oid.objectType.code * 2 ^ 22 % 2 ^ 32 = oid.objectType.code * 2 ^ 22 :=
    Nat.mod_eq_of_lt (by omega)
  have masked : oid.instanceNumber.toNat &&& 0x3FFFFF = oid.instanceNumber.toNat % 2 ^ 22 :=
    Nat.and_two_pow_sub_one_eq_mod _ 22
  simp only [rawOfObjectId, UInt32.toNat_or, UInt32.toNat_shiftLeft, UInt32.toNat_and,
    UInt32.toNat_ofNat', Nat.shiftLeft_eq]
  change oid.objectType.code % 2 ^ 32 * 2 ^ 22 % 2 ^ 32 ||| oid.instanceNumber.toNat &&& 0x3FFFFF = _
  rw [code, shifted, masked, or_eq_add _ _ 22 (Nat.mod_lt _ (by decide))]

theorem instance_and_mask (v : UInt32) : (v &&& 0x3FFFFF).toNat = v.toNat % 2 ^ 22 := by
  rw [UInt32.toNat_and]
  exact Nat.and_two_pow_sub_one_eq_mod _ 22

theorem typeCode_toNat (raw : UInt32) : (raw >>> 22).toUInt16.toNat = raw.toNat / 2 ^ 22 := by
  have h := raw.toNat_lt
  simp only [UInt32.toNat_toUInt16, UInt32.toNat_shiftRight, Nat.shiftRight_eq_div_pow]
  change raw.toNat / 2 ^ 22 % 2 ^ 16 = _
  omega

theorem rawOfObjectId_objectIdOfRaw {raw : UInt32} {t : ObjectType}
    (known : ObjectType.fromU16 (raw >>> 22).toUInt16 = some t) :
    rawOfObjectId (objectIdOfRaw raw) = raw := by
  apply UInt32.toNat_inj.mp
  have code : t.code = raw.toNat / 2 ^ 22 := by
    rw [ObjectType.code_of_fromU16 known, typeCode_toNat]
  have bound := Nat.mod_lt raw.toNat (show 0 < 2 ^ 22 by decide)
  simp only [rawOfObjectId_toNat, objectIdOfRaw, known, Option.getD_some, code, instance_and_mask]
  omega

theorem typeCode_rawOfObjectId (oid : ObjectId) :
    (rawOfObjectId oid >>> 22).toUInt16 = UInt16.ofNat oid.objectType.code := by
  have hc := oid.objectType.code_le
  apply UInt16.toNat_inj.mp
  rw [typeCode_toNat, rawOfObjectId_toNat, UInt16.toNat_ofNat']
  omega

theorem objectIdOfRaw_rawOfObjectId {oid : ObjectId} (narrow : Is22Bit oid.instanceNumber) :
    objectIdOfRaw (rawOfObjectId oid) =
      ⟨(ObjectType.fromU16 (UInt16.ofNat oid.objectType.code)).getD .device, oid.instanceNumber⟩ := by
  have masked : rawOfObjectId oid &&& 0x3FFFFF = oid.instanceNumber := by
    apply UInt32.toNat_inj.mp
    have small : oid.instanceNumber.toNat < 2 ^ 22 := narrow
    rw [instance_and_mask, rawOfObjectId_toNat]
    omega
  simp only [objectIdOfRaw, typeCode_rawOfObjectId, masked]

def ReadsBackId (oid : ObjectId) : Prop := oid.objectType.IsKnown ∧ Is22Bit oid.instanceNumber

instance (oid : ObjectId) : Decidable (ReadsBackId oid) := inferInstanceAs (Decidable (_ ∧ _))

theorem objectIdOfRaw_of_known {oid : ObjectId} (h : ReadsBackId oid) :
    objectIdOfRaw (rawOfObjectId oid) = oid := by
  rw [objectIdOfRaw_rawOfObjectId h.2, h.1.lookup]
  rfl

theorem decodeCtxObjectId_field {t : UInt8} {extended : Bool} (ht : t < 15) {raw : UInt32}
    (at_ : Cursor buf pos (field true t extended (toBe32 raw) ++ rest)) :
    decodeCtxObjectId buf pos t =
      .ok (objectIdOfRaw raw, pos + (field true t extended (toBe32 raw)).length) := by
  obtain ⟨b, start, here, ctx, tag, _, len, there, stop⟩ := field_read ht (fits_of_short (by simp)) at_
  have total := there.length
  rw [List.length_append, toBe32_length] at total
  rw [toBe32_length] at stop len
  have room : ¬ start + 4 > buf.length := by omega
  have bytes : (slice buf start (start + 4) : Result Bytes) = .ok (toBe32 raw) := there.slice
  simp only [decodeCtxObjectId, here, okOr_some, ok_bind, ctx, tag, len, Bool.not_true,
    bne_self_eq_false, Bool.or_self, Bool.false_eq_true, if_false, ne_eq, not_true_eq_false, room,
    bytes, ofBe32_toBe32]
  rw [stop]

theorem isOpening_encode {t : UInt8} (ht : t < 15)
    (at_ : Cursor buf pos (encodeOpeningTag t ++ rest)) : isOpening buf pos t = true := by
  have parts := header_parts true ht (l := 6) (by decide)
  have here : peek buf pos = some (header true t 6) := at_.peek
  simp [isOpening, here, parts]

theorem hasContextTag_opening {t n : UInt8} (ht : t < 15)
    (at_ : Cursor buf pos (encodeOpeningTag t ++ rest)) : hasContextTag buf pos n = false := by
  have parts := header_parts true ht (l := 6) (by decide)
  have here : peek buf pos = some (header true t 6) := at_.peek
  simp [hasContextTag, here, parts]

theorem isClosing_encode {t : UInt8} (ht : t < 15)
    (at_ : Cursor buf pos (encodeClosingTag t ++ rest)) : isClosing buf pos t = true := by
  have parts := header_parts true ht (l := 7) (by decide)
  have here : peek buf pos = some (header true t 7) := at_.peek
  simp [isClosing, here, parts]

theorem hasContextTag_closing {t n : UInt8} (ht : t < 15)
    (at_ : Cursor buf pos (encodeClosingTag t ++ rest)) : hasContextTag buf pos n = false := by
  have parts := header_parts true ht (l := 7) (by decide)
  have here : peek buf pos = some (header true t 7) := at_.peek
  simp [hasContextTag, here, parts]

theorem isClosing_field {t n : UInt8} {extended : Bool} (ht : t < 15)
    (fits : FieldFits extended content)
    (at_ : Cursor buf pos (field true t extended content ++ rest)) :
    isClosing buf pos n = false := by
  obtain ⟨b, _, here, ctx, tag, lvt, _⟩ := field_read ht fits at_
  have notSeven : (lvtOf b == 7) = false := by
    rw [beq_eq_false_iff_ne]
    rintro h
    rw [h] at lvt
    exact absurd lvt (by decide)
  simp [isClosing, here, ctx, tag, notSeven]

theorem hasContextTag_end {n : UInt8} (at_ : Cursor buf pos []) :
    hasContextTag buf pos n = false := by
  have here : peek buf pos = none := at_.peek
  simp [hasContextTag, here]

end BacnetSim.Tags
