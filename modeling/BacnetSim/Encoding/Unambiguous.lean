import BacnetSim.Encoding.RoundTrip
import BacnetSim.Lib.PrefixCode

/-! The encodings of fields and of primitive values can be split off any stream. -/
namespace BacnetSim
open Rust Octets Asn1 Tags PrefixCode

theorem encodeCtxU32_separates {t : UInt8} (ht : t < 15) :
    Separates (fun _ => True) (· = ·) (encodeCtxU32 t) := by
  intro v w s s' _ _ same
  rw [encodeCtxU32_eq, encodeCtxU32_eq] at same
  obtain ⟨_, content, rest⟩ := field_unique ht ht (fits_of_short (uintContent_length v).2.2)
    (fits_of_short (uintContent_length w).2.2) same
  have numbers := congrArg ofBe32 content
  rw [ofBe32_uintContent, ofBe32_uintContent] at numbers
  exact ⟨numbers, rest⟩

theorem rawOfObjectId_injective {oid oid' : ObjectId} (narrow : Is22Bit oid.instanceNumber)
    (narrow' : Is22Bit oid'.instanceNumber) (same : rawOfObjectId oid = rawOfObjectId oid') :
    oid = oid' := by
  have numbers := congrArg UInt32.toNat same
  rw [rawOfObjectId_toNat, rawOfObjectId_toNat] at numbers
  unfold Is22Bit at narrow narrow'
  obtain ⟨type, instanceNumber⟩ := oid
  obtain ⟨type', instanceNumber'⟩ := oid'
  simp only at narrow narrow' numbers
  have types : type = type' := ObjectType.code_injective (by omega)
  have instances : instanceNumber = instanceNumber' := UInt32.toNat_inj.mp (by omega)
  rw [types, instances]

theorem encodeCtxObjectId_separates {t : UInt8} (ht : t < 15) :
    Separates (fun oid => Is22Bit oid.instanceNumber) (· = ·) (encodeCtxObjectId t) := by
  intro oid oid' s s' narrow narrow' same
  rw [encodeCtxObjectId_eq, encodeCtxObjectId_eq] at same
  obtain ⟨_, content, rest⟩ := field_unique ht ht (fits_of_short (by simp))
    (fits_of_short (by simp)) same
  exact ⟨rawOfObjectId_injective narrow narrow' (toBe32_injective content), rest⟩

theorem wholeOctet_injective {b₀ b₁ b₂ b₃ b₄ b₅ b₆ b₇ c₀ c₁ c₂ c₃ c₄ c₅ c₆ c₇ : Bool}
    (same : wholeOctet b₀ b₁ b₂ b₃ b₄ b₅ b₆ b₇ = wholeOctet c₀ c₁ c₂ c₃ c₄ c₅ c₆ c₇) :
    [b₀, b₁, b₂, b₃, b₄, b₅, b₆, b₇] = [c₀, c₁, c₂, c₃, c₄, c₅, c₆, c₇] := by
  rw [← lowBits_wholeOctet, same, lowBits_wholeOctet]

theorem packBits_fill : ∀ bits : List Bool, 0 < bits.length → bits.length < 8 →
    packBits 0 0 bits = packBits 0 0 (bits ++ List.replicate (8 - bits.length) false)
  | [], h, _ => absurd h (by decide)
  | [b₀], _, _ => by revert b₀; decide
  | [b₀, b₁], _, _ => by revert b₀ b₁; decide
  | [b₀, b₁, b₂], _, _ => by revert b₀ b₁ b₂; decide
  | [b₀, b₁, b₂, b₃], _, _ => by revert b₀ b₁ b₂ b₃; decide
  | [b₀, b₁, b₂, b₃, b₄], _, _ => by revert b₀ b₁ b₂ b₃ b₄; decide
  | [b₀, b₁, b₂, b₃, b₄, b₅], _, _ => by revert b₀ b₁ b₂ b₃ b₄ b₅; decide
  | [b₀, b₁, b₂, b₃, b₄, b₅, b₆], _, _ => by revert b₀ b₁ b₂ b₃ b₄ b₅ b₆; decide
  | _ :: _ :: _ :: _ :: _ :: _ :: _ :: _ :: _, _, h => absurd h (by simp)

theorem packBits_eight_injective : ∀ {bits bits' : List Bool}, bits.length = 8 → bits'.length = 8 →
    packBits 0 0 bits = packBits 0 0 bits' → bits = bits'
  | [_, _, _, _, _, _, _, _], [_, _, _, _, _, _, _, _], _, _, same => by
    rw [packBits_whole, packBits_whole] at same
    exact wholeOctet_injective (List.cons.inj same).1

theorem packBits_injective {bits bits' : List Bool} (len : bits.length = bits'.length)
    (same : packBits 0 0 bits = packBits 0 0 bits') : bits = bits' := by
  induction bits using octet_induction generalizing bits' with
  | short bits h =>
    by_cases empty : bits = []
    · subst empty
      exact (List.length_eq_zero_iff.mp len.symm).symm
    · have positive := List.length_pos_iff.mpr empty
      rw [packBits_fill bits positive h, packBits_fill bits' (len ▸ positive) (len ▸ h), ← len] at same
      have filled := packBits_eight_injective (by simp; omega) (by simp; omega) same
      exact List.append_cancel_right filled
  | whole b₀ b₁ b₂ b₃ b₄ b₅ b₆ b₇ rest ih =>
    match bits', len, same with
    | c₀ :: c₁ :: c₂ :: c₃ :: c₄ :: c₅ :: c₆ :: c₇ :: rest', len, same =>
      rw [packBits_whole, packBits_whole] at same
      obtain ⟨octet, others⟩ := List.cons.inj same
      simp only [List.length_cons, Nat.add_right_cancel_iff] at len
      rw [ih len others]
      exact congrArg (· ++ rest') (wholeOctet_injective octet)

theorem unusedBits_injective {n m : Nat} (octets : (n + 7) / 8 = (m + 7) / 8)
    (unused : UInt8.ofNat (unusedBits n) = UInt8.ofNat (unusedBits m)) : n = m := by
  have counts := congrArg UInt8.toNat unused
  rw [unusedBits_toNat, unusedBits_toNat] at counts
  unfold unusedBits at counts
  omega

theorem bitStringContent_injective {b b' : BitString}
    (same : bitStringContent b = bitStringContent b') : b = b' := by
  obtain ⟨unused, packed⟩ := List.cons.inj same
  have octets := congrArg List.length packed
  rw [packBits_length, packBits_length] at octets
  have len := unusedBits_injective octets unused
  cases b
  cases b'
  exact congrArg BitString.mk (packBits_injective len packed)

theorem weekday_code_injective {w w' : Weekday} (same : w.code = w'.code) : w = w' := by
  revert same
  cases w <;> cases w' <;> decide

theorem dateContent_injective {d d' : BacnetDate}
    (fits : (PropertyValue.date d).FitsWire) (fits' : (PropertyValue.date d').FitsWire)
    (same : dateContent d = dateContent d') : d = d' := by
  simp only [dateContent, List.cons.injEq, and_true] at same
  obtain ⟨year, month, day, weekday⟩ := same
  have years := year_readBack fits.1 fits.2
  rw [year, year_readBack fits'.1 fits'.2] at years
  cases d
  cases d'
  simp only at years month day weekday
  rw [years, month, day, weekday_code_injective weekday]

theorem layout_injective {v v' : PropertyValue} (prim : v.IsPrimitive) (prim' : v'.IsPrimitive)
    (fits : v.FitsWire) (fits' : v'.FitsWire) (tags : (layout v).tag = (layout v').tag)
    (contents : (layout v).content = (layout v').content) : v = v' := by
  cases v with
  | array items => cases prim
  | list items => cases prim
  | any raw => cases prim
  | null =>
    cases v' with
    | null => rfl
    | array items => cases prim'
    | list items => cases prim'
    | any raw => cases prim'
    | _ => simp [layout] at tags
  | boolean b =>
    cases v' with
    | boolean b' => cases b <;> cases b' <;> first | rfl | cases contents
    | _ => simp [layout] at tags
  | unsigned n =>
    cases v' with
    | unsigned n' =>
      have numbers := congrArg ofBe32 contents
      simp only [layout, ofBe32_uintContent] at numbers
      rw [numbers]
    | _ => simp [layout] at tags
  | integer n =>
    cases v' with
    | integer n' =>
      have numbers := congrArg UInt32.toInt32 (toBe32_injective contents)
      rw [Int32.toInt32_toUInt32, Int32.toInt32_toUInt32] at numbers
      rw [numbers]
    | _ => simp [layout] at tags
  | real x =>
    cases v' with
    | real x' =>
      have bits := toBe32_injective contents
      exact congrArg (PropertyValue.real ⟨·⟩) bits
    | _ => simp [layout] at tags
  | double x =>
    cases v' with
    | double x' =>
      have bits := toBe64_injective contents
      exact congrArg (PropertyValue.double ⟨·⟩) bits
    | _ => simp [layout] at tags
  | octetString data =>
    cases v' with
    | octetString data' => exact congrArg PropertyValue.octetString contents
    | _ => simp [layout] at tags
  | characterString s =>
    cases v' with
    | characterString s' =>
      have octets := (List.cons.inj contents).2
      rw [Utf8.octets_injective octets]
    | _ => simp [layout] at tags
  | bitString b =>
    cases v' with
    | bitString b' => rw [bitStringContent_injective contents]
    | _ => simp [layout] at tags
  | enumerated n =>
    cases v' with
    | enumerated n' =>
      have numbers := congrArg ofBe32 contents
      simp only [layout, ofBe32_enumeratedContent] at numbers
      rw [numbers]
    | _ => simp [layout] at tags
  | date d =>
    cases v' with
    | date d' => rw [dateContent_injective fits fits' contents]
    | _ => simp [layout] at tags
  | time t =>
    cases v' with
    | time t' =>
      simp only [layout, List.cons.injEq, and_true] at contents
      cases t
      cases t'
      simpa using contents
    | _ => simp [layout] at tags
  | objectId oid =>
    cases v' with
    | objectId oid' => rw [rawOfObjectId_injective fits fits' (toBe32_injective contents)]
    | _ => simp [layout] at tags

theorem valueOctets_separates :
    Separates (fun v : PropertyValue => v.IsPrimitive ∧ v.FitsWire) (· = ·) valueOctets := by
  intro v v' s s' valid valid' same
  rw [valueOctets_eq valid.1, valueOctets_eq valid'.1] at same
  have shape := layout_fits valid.2
  have shape' := layout_fits valid'.2
  obtain ⟨tags, contents, rest⟩ := field_unique shape.tag shape'.tag shape.length shape'.length same
  exact ⟨layout_injective valid.1 valid'.1 valid.2 valid'.2 tags contents, rest⟩

end BacnetSim
