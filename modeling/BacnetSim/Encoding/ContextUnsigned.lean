import BacnetSim.Encoding.Fields

/-! Context-tagged unsigned integers, written by `tags.rs` and by `asn1.rs`:
what is written is read back at any place of any buffer, and no form is shorter. -/
namespace BacnetSim.Tags
open Rust Octets

theorem uintContent_shortest (v : UInt32) : Shortest (uintContent v) := by
  have value := beNat_uintContent v
  have len := (uintContent_length v).1
  unfold uintBytes at len
  split at len
  · exact shortest_of_le (k := 0) len (.inl rfl)
  · rename_i one
    have one' : ¬ v.toNat < 0x100 := one
    split at len
    · exact shortest_of_le (k := 1) len (.inr (by omega))
    · rename_i two
      have two' : ¬ v.toNat < 0x10000 := two
      split at len
      · exact shortest_of_le (k := 2) len (.inr (by omega))
      · rename_i three
        have three' : ¬ v.toNat < 0x1000000 := three
        exact shortest_of_le (k := 3) len (.inr (by omega))

/-- `asn1.rs` masks the tag number and the length, and sets the class bit last. -/
theorem contextTagByte_eq (t : UInt8) {len : UInt8} (fits : len < 8) :
    Asn1.contextTagByte t len = header true t len := by
  have each : ∀ (t : UInt8) (l : Fin 8),
      Asn1.contextTagByte t (UInt8.ofNat l) = header true t (UInt8.ofNat l) :=
    forall_octet (by decide +kernel)
  have at_ := each t ⟨len.toNat, fits⟩
  rwa [UInt8.ofNat_toNat] at at_

theorem uintBytes_len_lt (v : UInt32) : (uintBytes v).1 < 8 := by
  obtain ⟨len, _, four⟩ := uintContent_length v
  rw [UInt8.lt_iff_toNat_lt, ← len]
  exact Nat.lt_of_le_of_lt four (by decide)

theorem encodeContextUnsigned_eq (t : UInt8) (v : UInt32) :
    Asn1.encodeContextUnsigned t v = encodeCtxU32 t v := by
  rw [Asn1.encodeContextUnsigned, asn1_uintBytes]
  simp only [contextTagByte_eq t (uintBytes_len_lt v)]
  rfl

theorem decodeCtxU32_encode {t : UInt8} (ht : t < 15) (v : UInt32) (a s : Bytes) :
    decodeCtxU32 (a ++ encodeCtxU32 t v ++ s) a.length t =
      .ok (v, a.length + (encodeCtxU32 t v).length) := by
  have at_ : Cursor (a ++ encodeCtxU32 t v ++ s) a.length
      (field true t false (uintContent v) ++ s) :=
    ⟨a, by rw [encodeCtxU32_eq, List.append_assoc], rfl⟩
  have read := decodeCtxU32_field ht (fits_of_short (uintContent_length v).2.2) at_
  rw [read, ofBe32_uintContent, encodeCtxU32_eq]

/-- A context integer is read back wherever it stands, its content is the shortest
form of the number, and both writers append it. -/
theorem ctxU32_readBack {t : UInt8} (ht : t ≤ 14) (v : UInt32) (a s : Bytes) :
    decodeCtxU32 (a ++ encodeCtxU32 t v ++ s) a.length t =
        .ok (v, a.length + (encodeCtxU32 t v).length) ∧
      (∃ content, encodeCtxU32 t v = header true t (UInt8.ofNat content.length) :: content ∧
        beNat content = v.toNat ∧ Shortest content) ∧
      Asn1.encodeContextUnsigned t v = encodeCtxU32 t v := by
  have low : t < 15 := Nat.lt_succ_of_le (UInt8.le_iff_toNat_le.mp ht)
  refine ⟨decodeCtxU32_encode low v a s, ⟨uintContent v, ?_, beNat_uintContent v,
    uintContent_shortest v⟩, encodeContextUnsigned_eq t v⟩
  rw [encodeCtxU32_eq, field_direct]

theorem ctxU32_readBack_width :
    decodeCtxU32 ([1] ++ encodeCtxU32 14 256 ++ [2]) 1 14 = .ok (256, 4) :=
  (ctxU32_readBack (t := 14) (by decide) 256 [1] [2]).1

end BacnetSim.Tags
