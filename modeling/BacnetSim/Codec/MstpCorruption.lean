import BacnetSim.Codec.Mstp

/-! A damaged MS/TP frame is not accepted: both check sequences are cyclic redundancy
checks with the complement of the register as the check octets. -/
namespace BacnetSim
open Rust Octets Crc

theorem crc8Shift_toBitVec (crc : UInt8) : (crc8Shift crc).toBitVec = shift 0xE0#8 crc.toBitVec := by
  have low : (crc &&& 0x01 != 0) = true ↔ crc.toBitVec.getLsbD 0 = true := by
    rw [← lowBit_iff, bne_iff_ne, ne_eq, ← UInt8.toBitVec_inj]
    rfl
  unfold crc8Shift shift
  by_cases odd : crc.toBitVec.getLsbD 0 = true
  · rw [if_pos odd, if_pos (low.mpr odd)]
    rfl
  · rw [if_neg odd, if_neg (mt low.mp odd)]
    rfl

theorem crc8_register (data : Bytes) : (crc8 data).toBitVec = ~~~ register 0xE0#8 0xFF#8 data := by
  have mixes : ∀ crc b : UInt8,
      (crc ^^^ b).toBitVec = crc.toBitVec ^^^ b.toBitVec.setWidth 8 := by
    intro crc b
    rw [BitVec.setWidth_eq]
    rfl
  have loop := loop_register UInt8.toBitVec crc8Shift_toBitVec mixes 0xFF data
  rw [crc8, UInt8.toBitVec_not, loop]
  rfl

theorem crc16Shift_toBitVec (crc : UInt16) :
    (crc16Shift crc).toBitVec = shift 0xA001#16 crc.toBitVec := by
  have low : (crc &&& 0x0001 != 0) = true ↔ crc.toBitVec.getLsbD 0 = true := by
    rw [← lowBit_iff, bne_iff_ne, ne_eq, ← UInt16.toBitVec_inj]
    rfl
  unfold crc16Shift shift
  by_cases odd : crc.toBitVec.getLsbD 0 = true
  · rw [if_pos odd, if_pos (low.mpr odd)]
    rfl
  · rw [if_neg odd, if_neg (mt low.mp odd)]
    rfl

theorem crc16_register (data : Bytes) :
    (crc16 data).toBitVec = ~~~ register 0xA001#16 0xFFFF#16 data := by
  have mixes : ∀ (crc : UInt16) (b : UInt8),
      (crc ^^^ b.toUInt16).toBitVec = crc.toBitVec ^^^ b.toBitVec.setWidth 16 := fun _ _ => rfl
  have loop := loop_register UInt16.toBitVec crc16Shift_toBitVec mixes 0xFFFF data
  rw [crc16, UInt16.toBitVec_not, loop]
  rfl

theorem header_poly_top : (0xE0#8).msb = true := by decide

theorem data_poly_top : (0xA001#16).msb = true := by decide

abbrev HeaderChecked (header check : Bytes) : Prop := Checked 0xE0#8 0xFF#8 header check

abbrev DataChecked (data check : Bytes) : Prop := Checked 0xA001#16 0xFFFF#16 data check

theorem headerChecked_iff (header : Bytes) (check : UInt8) :
    HeaderChecked header [check] ↔ check = crc8 header := by
  have value : BitVec.ofNat 8 (word [check]) = check.toBitVec := by
    simp [word]
  rw [HeaderChecked, Checked, value, ← crc8_register, UInt8.toBitVec_inj]

theorem dataChecked_iff (data : Bytes) (low high : UInt8) :
    DataChecked data [low, high] ↔ ofBe16 high low = crc16 data := by
  have value : BitVec.ofNat 16 (word [low, high]) = (ofBe16 high low).toBitVec := by
    have below := high.toNat_lt
    have number : (ofBe16 high low).toBitVec.toNat = high.toNat * 256 + low.toNat :=
      ofBe16_toNat high low
    apply BitVec.eq_of_toNat_eq
    rw [BitVec.toNat_ofNat, number, word_cons, word_cons]
    change (low.toNat + 256 * (high.toNat + 256 * 0)) % 2 ^ 16 = _
    have above := low.toNat_lt
    omega
  rw [DataChecked, Checked, value, ← crc16_register, UInt16.toBitVec_inj]

namespace MstpFrame

theorem headerChecked_of_decode {code destination source high low check : UInt8} {rest : Bytes}
    {g : MstpFrame} (read : decode (lead [code, destination, source, high, low] check ++ rest) = .ok g) :
    HeaderChecked [code, destination, source, high, low] [check] := by
  rw [decode_lead] at read
  obtain ⟨frameType, _, read⟩ := bind_eq_ok read
  split at read
  · cases read
  · rename_i same
    rw [headerChecked_iff]
    simpa using same

theorem dataChecked_of_decodeData {buf field data : Bytes} {low high : UInt8}
    (positive : field.length > 0) (at_ : Cursor buf 8 (field ++ [low, high]))
    (read : decodeData buf field.length = .ok data) : DataChecked field [low, high] := by
  have two : checkLen field.length = 2 := if_pos positive
  have total := at_.length
  rw [List.length_append, List.length_cons, List.length_singleton] at total
  have enough : ¬ buf.length < 8 + field.length + checkLen field.length := by omega
  have taken : (slice buf 8 (8 + field.length) : Res MstpDecodeError Bytes) = .ok field := at_.slice
  have first : (index buf (8 + field.length) : Res MstpDecodeError UInt8) = .ok low :=
    at_.advance.index (i := 0) rfl
  have second : (index buf (9 + field.length) : Res MstpDecodeError UInt8) = .ok high := by
    rw [Nat.add_right_comm 8 1]
    exact at_.advance.index (i := 1) rfl
  rw [decodeData, if_neg enough, taken, ok_bind, if_pos positive, first, ok_bind, second,
    ok_bind] at read
  split at read
  · cases read
  · rename_i same
    rw [dataChecked_iff]
    simpa using same

/-- Octets of an encoded frame changed on the way: one octet behind the preamble, or two
adjacent octets behind the header. -/
def Corrupts (f : MstpFrame) (w : Bytes) : Prop :=
  ∃ i, 2 ≤ i ∧ Burst i 1 f.encode w ∨ 8 ≤ i ∧ Burst i 2 f.encode w

variable {f g : MstpFrame} {w : Bytes} {i k : Nat}

theorem header_rejected (early : 2 ≤ i) (late : i + 1 ≤ 8) (burst : Burst i 1 f.encode w) :
    decode w ≠ .ok g := by
  intro read
  have parts : f.encode = [mstpPreamble55, mstpPreambleFF] ++
      ((f.headerOctets ++ [crc8 f.headerOctets]) ++ f.body) := by
    rw [encode_eq, lead]
    simp only [List.append_assoc]
  rw [parts] at burst
  obtain ⟨behind, rfl, inner⟩ := burst.behind early
  have room : i - 2 + 1 ≤ (f.headerOctets ++ [crc8 f.headerOctets]).length := by
    change i - 2 + 1 ≤ 6
    omega
  obtain ⟨six, rfl, innermost⟩ := inner.within room
  have size : six.length = 6 := innermost.length
  obtain ⟨code, destination, source, high, low, check, rfl⟩ :
      ∃ code destination source high low check, six = [code, destination, source, high, low, check] := by
    obtain ⟨code, destination, source, high, rest, rfl⟩ := exists_four (show 4 ≤ six.length by omega)
    obtain ⟨low, check, rfl⟩ := List.length_eq_two.mp (Nat.add_right_cancel (m := 4) size)
    exact ⟨code, destination, source, high, low, check, rfl⟩
  exact burst_unchecked header_poly_top rfl rfl ((headerChecked_iff _ _).mpr rfl) (by decide)
    innermost (headerChecked_of_decode read)

theorem data_rejected (fits : f.data.length ≤ 65535) (early : 8 ≤ i) (short : k ≤ 2)
    (burst : Burst i k f.encode w) : decode w ≠ .ok g := by
  intro read
  rw [encode_eq] at burst
  have eight : (lead f.headerOctets (crc8 f.headerOctets)).length = 8 := lead_length rfl _
  obtain ⟨field, rfl, inner⟩ := burst.behind (by rwa [eight])
  rw [decode_ownLead f fits] at read
  obtain ⟨data, accepted, _⟩ := bind_eq_ok read
  have at_ : Cursor (lead f.headerOctets (crc8 f.headerOctets) ++ field) 8 field := ⟨_, rfl, eight⟩
  have size : field.length = f.body.length := inner.length
  rw [body_length] at size
  cases shape : f.data with
  | nil =>
    apply inner.differ
    have none : f.body = [] := by rw [body, shape]; rfl
    rw [none]
    rw [shape] at size
    exact List.length_eq_zero_iff.mp size
  | cons b rest =>
    have positive : f.data.length > 0 := by simp [shape]
    have two : checkLen f.data.length = 2 := if_pos positive
    have own : f.body = f.data ++ toLe16 (crc16 f.data) := if_neg (by simp [shape])
    obtain ⟨content, low, high, rfl, length⟩ :
        ∃ content low high, field = content ++ [low, high] ∧ content.length = f.data.length := by
      refine ⟨field.take f.data.length, ?_⟩
      have last : (field.drop f.data.length).length = 2 := by
        rw [List.length_drop]
        omega
      match check : field.drop f.data.length, last with
      | [low, high], _ =>
        refine ⟨low, high, ?_, by rw [List.length_take]; omega⟩
        rw [← check, List.take_append_drop]
    rw [own] at inner
    rw [← length] at accepted positive
    exact burst_unchecked data_poly_top rfl rfl
      ((dataChecked_iff f.data _ _).mpr (ofBe16_toBe16 _)) (by omega) inner
      (dataChecked_of_decodeData positive at_ accepted)

/-- A frame with one octet changed behind the preamble, or with two adjacent ones changed
in its data field or across the data's check, is not accepted. -/
theorem decode_corrupted (fits : f.data.length ≤ 65535) (corrupt : Corrupts f w) :
    ∃ e, decode w = fail e := by
  rcases (decode_safe w).outcome with ⟨g, read⟩ | rejected
  · obtain ⟨i, ⟨early, burst⟩ | ⟨early, burst⟩⟩ := corrupt
    · by_cases header : i + 1 ≤ 8
      · exact absurd read (header_rejected early header burst)
      · exact absurd read (data_rejected fits (by omega) (by decide) burst)
    · exact absurd read (data_rejected fits early (by decide) burst)
  · exact rejected

end MstpFrame

theorem pollFrame_corrupted :
    ∃ e, MstpFrame.decode (pollFrame.encode.set 9 0x80) = fail e := by
  have burst : Burst 9 1 pollFrame.encode (pollFrame.encode.set 9 0x80) := by
    refine ⟨List.length_set, ?_, ?_⟩
    · intro same
      have octet : some (0x80 : UInt8) = some 0x00 := congrArg (·[9]?) same
      cases octet
    · intro j out
      exact List.getElem?_set_ne (by omega)
  exact MstpFrame.decode_corrupted (f := pollFrame) (by decide) ⟨9, .inl ⟨by decide, burst⟩⟩

end BacnetSim
