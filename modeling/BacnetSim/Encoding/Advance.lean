import BacnetSim.Encoding.Tags

/-! A reader that accepts has moved forward. -/
namespace BacnetSim.Tags
open Rust Octets

variable {body : Bytes} {pos : Nat}

theorem decodeLvtLen_advances {lvt : UInt8} {r : Nat × Nat}
    (read : decodeLvtLen body pos lvt = .ok r) : pos ≤ r.2 := by
  unfold decodeLvtLen at read
  split at read
  · cases read
    exact Nat.le_refl _
  · split at read
    · obtain ⟨l, _, rest⟩ := bind_eq_ok read
      cases rest
      exact Nat.le_succ _
    · cases read

theorem readUint_advances {len : Nat} {r : UInt32 × Nat}
    (read : readUint body pos len = .ok r) : pos ≤ r.2 := by
  unfold readUint at read
  split at read
  · cases read
  · obtain ⟨bytes, _, rest⟩ := bind_eq_ok read
    cases rest
    exact Nat.le_add_right _ _

theorem decodeCtxU32_advances {expected : UInt8} {r : UInt32 × Nat}
    (read : decodeCtxU32 body pos expected = .ok r) : pos < r.2 := by
  unfold decodeCtxU32 at read
  obtain ⟨b, _, rest⟩ := bind_eq_ok read
  split at rest
  · cases rest
  · obtain ⟨len, header, content⟩ := bind_eq_ok rest
    have past := decodeLvtLen_advances header
    have onward := readUint_advances content
    omega

theorem decodeCtxPropertyId_advances {expected : UInt8}
    {r : PropertyIdentifier × Nat} (read : decodeCtxPropertyId body pos expected = .ok r) :
    pos < r.2 := by
  obtain ⟨v, number, rest⟩ := bind_eq_ok read
  cases rest
  exact decodeCtxU32_advances number

theorem decodeCtxObjectId_advances {expected : UInt8}
    {r : ObjectId × Nat} (read : decodeCtxObjectId body pos expected = .ok r) : pos < r.2 := by
  unfold decodeCtxObjectId at read
  obtain ⟨b, _, rest⟩ := bind_eq_ok read
  split at rest
  · cases rest
  · obtain ⟨⟨len, start⟩, header, content⟩ := bind_eq_ok rest
    have past := decodeLvtLen_advances header
    simp only at past content
    split at content
    · cases content
    · split at content
      · cases content
      · obtain ⟨bytes, _, stop⟩ := bind_eq_ok content
        cases stop
        exact Nat.lt_add_right 4 past

end BacnetSim.Tags
