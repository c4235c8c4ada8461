import BacnetSim.Encoding.Fields

/-! The readers stay inside the buffer whatever it holds, and what a context-tagged reader
accepts is a field at its position. -/
namespace BacnetSim.Tags
open Rust Octets

variable {buf stream : Bytes} {pos : Nat}

theorem decodeLvtLen_safe (lvt : UInt8) : Safe (decodeLvtLen buf pos lvt) := by
  unfold decodeLvtLen
  split
  · exact safe_ok _
  · split
    · exact (safe_okOr _ _).bind fun _ _ => safe_ok _
    · exact safe_fail _

theorem readUint_safe (len : Nat) : Safe (readUint buf pos len) := by
  unfold readUint
  split
  · exact safe_fail _
  · exact (safe_slice (by omega) (by omega)).bind fun _ _ => safe_ok _

theorem decodeCtxU32_safe (t : UInt8) : Safe (decodeCtxU32 buf pos t) := by
  refine (safe_okOr _ _).bind fun b _ => ?_
  split
  · exact safe_fail _
  · exact (decodeLvtLen_safe _).bind fun _ _ => readUint_safe _

theorem decodeCtxBool_safe (t : UInt8) : Safe (decodeCtxBool buf pos t) :=
  (decodeCtxU32_safe t).bind fun _ _ => safe_ok _

theorem decodeCtxPropertyId_safe (t : UInt8) : Safe (decodeCtxPropertyId buf pos t) :=
  (decodeCtxU32_safe t).bind fun _ _ => safe_ok _

theorem decodeCtxObjectId_safe (t : UInt8) : Safe (decodeCtxObjectId buf pos t) := by
  refine (safe_okOr _ _).bind fun b _ => ?_
  split
  · exact safe_fail _
  · refine (decodeLvtLen_safe _).bind fun ⟨len, start⟩ _ => ?_
    dsimp only
    split
    · exact safe_fail _
    · split
      · exact safe_fail _
      · exact (safe_slice (by omega) (by omega)).bind fun _ _ => safe_ok _

theorem readFixed_safe (lvt : UInt8) (len : Nat) (truncated : String) :
    Safe (readFixed buf pos lvt len truncated) := by
  refine (decodeLvtLen_safe _).bind fun ⟨len, start⟩ _ => ?_
  dsimp only
  split
  · exact safe_fail _
  · exact (safe_slice (by omega) (by omega)).bind fun _ _ => safe_ok _

theorem readDeclared_safe (lvt : UInt8) (truncated : String) :
    Safe (readDeclared buf pos lvt truncated) := by
  refine (decodeLvtLen_safe _).bind fun ⟨len, start⟩ _ => ?_
  dsimp only
  split
  · exact safe_fail _
  · exact (safe_slice (by omega) (by omega)).bind fun _ _ => safe_ok _

theorem readLed_safe (lvt : UInt8) (invalid : String) : Safe (readLed buf pos lvt invalid) := by
  refine (decodeLvtLen_safe _).bind fun ⟨len, start⟩ _ => ?_
  dsimp only
  split
  · exact safe_fail _
  · exact (safe_index (by omega)).bind fun _ _ =>
      (safe_slice (by omega) (by omega)).bind fun _ _ => safe_ok _

structure FieldBody where
  extended : Bool
  content : Bytes
  fits : FieldFits extended content

def FieldBody.octets (f : FieldBody) (ctx : Bool) (t : UInt8) : Bytes := field ctx t f.extended f.content

theorem FieldBody.octets_length (f : FieldBody) (ctx : Bool) (t : UInt8) :
    f.content.length < (f.octets ctx t).length := by
  rw [FieldBody.octets, field]
  simp only [List.length_cons, List.length_append]
  omega

theorem header_octet : ∀ b : UInt8, header (isContext b) (tagNumber b) (lvtOf b) = b := by
  apply forall_octet
  decide +kernel

theorem at_peek {b : UInt8} (at_ : Cursor buf pos stream) (here : peek buf pos = some b) :
    ∃ tail, stream = b :: tail := by
  have first : stream[0]? = some b := at_.peek.symm.trans here
  cases stream with
  | nil => cases first
  | cons c tail =>
    cases Option.some.inj first
    exact ⟨tail, rfl⟩

theorem field_of_length {b : UInt8} {tail : Bytes} {len start : Nat}
    (at_ : Cursor buf pos (b :: tail))
    (length : decodeLvtLen buf (pos + 1) (lvtOf b) = .ok (len, start))
    (room : start + len ≤ buf.length) :
    ∃ (f : FieldBody) (rest : Bytes), f.content.length = len ∧
      b :: tail = f.octets (isContext b) (tagNumber b) ++ rest := by
  have total := at_.next.length
  unfold decodeLvtLen at length
  split at length
  · rename_i direct
    cases length
    have size : (tail.take (lvtOf b).toNat).length = (lvtOf b).toNat :=
      List.length_take_of_le (by omega)
    have fits : FieldFits false (tail.take (lvtOf b).toNat) := by
      rw [FieldFits, size]
      exact direct
    refine ⟨⟨false, tail.take (lvtOf b).toNat, fits⟩, tail.drop (lvtOf b).toNat, size, ?_⟩
    rw [FieldBody.octets, field_direct, size, UInt8.ofNat_toNat, header_octet, List.cons_append,
      List.take_append_drop]
  · split at length
    · rename_i extended
      obtain ⟨l, here, eq⟩ := bind_eq_ok length
      cases eq
      obtain ⟨tail, rfl⟩ := at_peek at_.next (okOr_eq_ok here)
      have behind := at_.next.next.length
      have size : (tail.take l.toNat).length = l.toNat := List.length_take_of_le (by omega)
      have fits : FieldFits true (tail.take l.toNat) := by
        rw [FieldFits, size]
        exact l.toNat_lt
      refine ⟨⟨true, tail.take l.toNat, fits⟩, tail.drop l.toNat, size, ?_⟩
      rw [FieldBody.octets, field_extended, size, UInt8.ofNat_toNat, ← eq_of_beq extended, header_octet,
        List.cons_append, List.cons_append, List.take_append_drop]
    · cases length

theorem field_of_context {b t : UInt8} {len start : Nat} (at_ : Cursor buf pos stream)
    (here : peek buf pos = some b) (tagged : ¬ (!isContext b || tagNumber b != t) = true)
    (length : decodeLvtLen buf (pos + 1) (lvtOf b) = .ok (len, start))
    (room : start + len ≤ buf.length) :
    ∃ (f : FieldBody) (rest : Bytes), f.content.length = len ∧ stream = f.octets true t ++ rest := by
  obtain ⟨tail, rfl⟩ := at_peek at_ here
  have context : isContext b = true ∧ tagNumber b = t := by simpa using tagged
  obtain ⟨f, rest, size, same⟩ := field_of_length at_ length room
  rw [context.1, context.2] at same
  exact ⟨f, rest, size, same⟩

theorem decodeCtxU32_accepted {t : UInt8} {r : UInt32 × Nat} (ht : t < 15)
    (at_ : Cursor buf pos stream) (read : decodeCtxU32 buf pos t = .ok r) :
    ∃ (f : FieldBody) (rest : Bytes), stream = f.octets true t ++ rest ∧
      r.2 = pos + (f.octets true t).length := by
  have again := read
  obtain ⟨b, here, read⟩ := bind_eq_ok read
  split at read
  · cases read
  · rename_i tagged
    obtain ⟨⟨len, start⟩, length, content⟩ := bind_eq_ok read
    simp only [readUint] at content
    split at content
    · cases content
    · obtain ⟨f, rest, _, same⟩ :=
        field_of_context at_ (okOr_eq_ok here) tagged length (by omega)
      rw [same] at at_
      cases (decodeCtxU32_field ht f.fits at_).symm.trans again
      exact ⟨f, rest, same, rfl⟩

theorem decodeCtxPropertyId_octets {t : UInt8} {f : FieldBody} {rest : Bytes} (ht : t < 15)
    (at_ : Cursor buf pos (f.octets true t ++ rest)) :
    decodeCtxPropertyId buf pos t =
      .ok (PropertyIdentifier.fromU32 (ofBe32 f.content), pos + (f.octets true t).length) := by
  rw [decodeCtxPropertyId, decodeCtxU32_field ht f.fits at_, ok_bind]
  rfl

theorem decodeCtxPropertyId_accepted {t : UInt8} {r : PropertyIdentifier × Nat} (ht : t < 15)
    (at_ : Cursor buf pos stream) (read : decodeCtxPropertyId buf pos t = .ok r) :
    ∃ (f : FieldBody) (rest : Bytes), stream = f.octets true t ++ rest ∧
      r.2 = pos + (f.octets true t).length := by
  obtain ⟨number, inner, eq⟩ := bind_eq_ok read
  cases eq
  exact decodeCtxU32_accepted ht at_ inner

/-- Any four octets are read as an identifier. -/
theorem decodeCtxObjectId_octets {t : UInt8} {f : FieldBody} {rest : Bytes} (ht : t < 15)
    (four : f.content.length = 4) (at_ : Cursor buf pos (f.octets true t ++ rest)) :
    decodeCtxObjectId buf pos t =
      .ok (objectIdOfRaw (ofBe32 f.content), pos + (f.octets true t).length) := by
  have same : f.octets true t = field true t f.extended (toBe32 (ofBe32 f.content)) := by
    rw [toBe32_ofBe32 four]
    rfl
  rw [same] at at_ ⊢
  exact decodeCtxObjectId_field ht at_

theorem decodeCtxObjectId_accepted {t : UInt8} {r : ObjectId × Nat} (ht : t < 15)
    (at_ : Cursor buf pos stream) (read : decodeCtxObjectId buf pos t = .ok r) :
    ∃ (f : FieldBody) (rest : Bytes), f.content.length = 4 ∧ stream = f.octets true t ++ rest ∧
      r.2 = pos + (f.octets true t).length := by
  have again := read
  obtain ⟨b, here, read⟩ := bind_eq_ok read
  split at read
  · cases read
  · rename_i tagged
    obtain ⟨⟨len, start⟩, length, content⟩ := bind_eq_ok read
    dsimp only at content
    split at content
    · cases content
    · rename_i four
      split at content
      · cases content
      · obtain ⟨f, rest, size, same⟩ :=
          field_of_context at_ (okOr_eq_ok here) tagged length (by omega)
        have size : f.content.length = 4 := size.trans (Decidable.not_not.mp four)
        rw [same] at at_
        cases (decodeCtxObjectId_octets ht size at_).symm.trans again
        exact ⟨f, rest, size, same, rfl⟩

theorem bracket_accepted {t kind : UInt8} (at_ : Cursor buf pos stream)
    (found : (peek buf pos).any
      (fun b => isContext b && tagNumber b == t && lvtOf b == kind) = true) :
    ∃ rest, stream = header true t kind :: rest := by
  obtain ⟨b, here, parts⟩ := (Option.any_eq_true _ _).mp found
  obtain ⟨rest, rfl⟩ := at_peek at_ here
  simp only [Bool.and_eq_true, beq_iff_eq] at parts
  have whole := header_octet b
  rw [parts.1.1, parts.1.2, parts.2] at whole
  exact ⟨rest, congrArg (· :: rest) whole.symm⟩

theorem isOpening_accepted {t : UInt8} (at_ : Cursor buf pos stream)
    (opening : isOpening buf pos t = true) : ∃ rest, stream = encodeOpeningTag t ++ rest :=
  bracket_accepted at_ opening

theorem isClosing_accepted {t : UInt8} (at_ : Cursor buf pos stream)
    (closing : isClosing buf pos t = true) : ∃ rest, stream = encodeClosingTag t ++ rest :=
  bracket_accepted at_ closing

def uintField (v : UInt32) : FieldBody where
  extended := false
  content := uintContent v
  fits := fits_of_short (uintContent_length v).2.2

def idField (oid : ObjectId) : FieldBody where
  extended := false
  content := toBe32 (rawOfObjectId oid)
  fits := fits_of_short (by simp)

theorem uintField_octets (t : UInt8) (v : UInt32) :
    (uintField v).octets true t = encodeCtxU32 t v := (encodeCtxU32_eq t v).symm

theorem idField_octets (t : UInt8) (oid : ObjectId) :
    (idField oid).octets true t = encodeCtxObjectId t oid := (encodeCtxObjectId_eq t oid).symm

theorem numbers_uintField (v : Option UInt32) :
    (v.map uintField).map (fun f => ofBe32 f.content) = v := by
  cases v with
  | none => rfl
  | some v => exact congrArg some (ofBe32_uintContent v)

theorem identifier_idField {oid : ObjectId} (h : ReadsBackId oid) :
    objectIdOfRaw (ofBe32 (idField oid).content) = oid := by
  rw [idField, ofBe32_toBe32, objectIdOfRaw_of_known h]

end BacnetSim.Tags
