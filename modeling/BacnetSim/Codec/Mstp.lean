import BacnetSim.Lib.BigEndian
import BacnetSim.Lib.Crc
import BacnetSim.Types.Basic

/-! MS/TP frames (`mstp.rs`), and how they are found in a stream of octets. -/
namespace BacnetSim
open Rust Octets

def mstpPreamble55 : UInt8 := 0x55
def mstpPreambleFF : UInt8 := 0xFF

inductive MstpFrameType where
  | token | pollForMaster | replyToPollForMaster | testRequest | testResponse
  | bacnetDataExpectingReply | bacnetDataNotExpectingReply | replyPostponed
  deriving DecidableEq, Repr

namespace MstpFrameType

def code (t : MstpFrameType) : UInt8 := UInt8.ofNat (MstpFrameType.ctorIdx t)

def fromU8 (v : UInt8) : Option MstpFrameType :=
  match v.toNat with
  | 0x00 => some token
  | 0x01 => some pollForMaster
  | 0x02 => some replyToPollForMaster
  | 0x03 => some testRequest
  | 0x04 => some testResponse
  | 0x05 => some bacnetDataExpectingReply
  | 0x06 => some bacnetDataNotExpectingReply
  | 0x07 => some replyPostponed
  | _ => none

theorem fromU8_code (t : MstpFrameType) : fromU8 t.code = some t := by
  cases t <;> rfl

end MstpFrameType

inductive MstpDecodeError where
  | badPreamble | incomplete | badHeaderCrc | badDataCrc
  | unknownFrameType (code : UInt8)
  deriving DecidableEq, Repr

structure MstpFrame where
  frameType : MstpFrameType
  destination : UInt8
  source : UInt8
  data : Bytes
  deriving DecidableEq, Repr

def crc8Shift (crc : UInt8) : UInt8 :=
  if crc &&& 0x01 != 0 then (crc >>> 1) ^^^ 0xE0 else crc >>> 1

def crc8 (data : Bytes) : UInt8 :=
  ~~~ (data.foldl (fun crc b => crc8Shift^[8] (crc ^^^ b)) 0xFF)

def crc16Shift (crc : UInt16) : UInt16 :=
  if crc &&& 0x0001 != 0 then (crc >>> 1) ^^^ 0xA001 else crc >>> 1

def crc16 (data : Bytes) : UInt16 :=
  ~~~ (data.foldl (fun crc b => crc16Shift^[8] (crc ^^^ b.toUInt16)) 0xFFFF)

namespace MstpFrame

/-- `buf[2..7]`, which the header check covers. -/
def headerOctets (f : MstpFrame) : Bytes :=
  [f.frameType.code, f.destination, f.source] ++ toBe16 (UInt16.ofNat f.data.length)

def encode (f : MstpFrame) : Bytes :=
  [mstpPreamble55, mstpPreambleFF] ++ f.headerOctets ++ [crc8 f.headerOctets] ++
    if f.data.isEmpty then [] else f.data ++ toLe16 (crc16 f.data)

def checkLen (dataLen : Nat) : Nat := if dataLen > 0 then 2 else 0

def decodeData (buf : Bytes) (dataLen : Nat) : Res MstpDecodeError Bytes :=
  if buf.length < 8 + dataLen + checkLen dataLen then fail .incomplete
  else do
    let data ← slice buf 8 (8 + dataLen)
    if dataLen > 0 then
      let low ← index buf (8 + dataLen)
      let high ← index buf (9 + dataLen)
      if ofBe16 high low != crc16 data then fail .badDataCrc else .ok data
    else .ok data

def decode (buf : Bytes) : Res MstpDecodeError MstpFrame :=
  if buf.length < 2 then fail .incomplete
  else do
    let first ← index buf 0
    let second ← index buf 1
    if first != mstpPreamble55 || second != mstpPreambleFF then fail .badPreamble
    else if buf.length < 8 then fail .incomplete
    else
      let code ← index buf 2
      let frameType ← okOr (MstpFrameType.fromU8 code) (.unknownFrameType code)
      let destination ← index buf 3
      let source ← index buf 4
      let high ← index buf 5
      let low ← index buf 6
      let expectedHdrCrc ← index buf 7
      let header ← slice buf 2 7
      if expectedHdrCrc != crc8 header then fail .badHeaderCrc
      else
        let data ← decodeData buf (ofBe16 high low).toNat
        .ok { frameType, destination, source, data }

def lead (header : Bytes) (check : UInt8) : Bytes :=
  [mstpPreamble55, mstpPreambleFF] ++ header ++ [check]

theorem decode_empty {b : Bytes} (short : b.length < 2) : decode b = fail .incomplete := if_pos short

theorem decode_short {rest : Bytes} (short : rest.length < 6) :
    decode (mstpPreamble55 :: mstpPreambleFF :: rest) = fail .incomplete := by
  have eight : rest.length + 1 + 1 < 8 := by omega
  simp [decode, index, eight]

theorem decode_lead (code destination source high low check : UInt8) (rest : Bytes) :
    decode (lead [code, destination, source, high, low] check ++ rest) = (do
      let frameType ← okOr (MstpFrameType.fromU8 code) (.unknownFrameType code)
      if check != crc8 [code, destination, source, high, low] then fail .badHeaderCrc
      else
        let data ← decodeData (lead [code, destination, source, high, low] check ++ rest)
          (ofBe16 high low).toNat
        .ok { frameType, destination, source, data }) := by
  have long : ¬ rest.length + 1 + 1 + 1 + 1 + 1 + 1 + 1 + 1 < 8 := by omega
  have header : ∀ rest : Bytes, (slice (mstpPreamble55 :: mstpPreambleFF :: code :: destination ::
      source :: high :: low :: check :: rest) 2 7 : Res MstpDecodeError Bytes) =
      .ok [code, destination, source, high, low] := by
    intro rest
    simp [slice]
  simp [decode, lead, index, long, header]

def body (f : MstpFrame) : Bytes :=
  if f.data.isEmpty then [] else f.data ++ toLe16 (crc16 f.data)

theorem encode_eq (f : MstpFrame) :
    f.encode = lead f.headerOctets (crc8 f.headerOctets) ++ f.body := rfl

theorem body_length (f : MstpFrame) :
    f.body.length = f.data.length + checkLen f.data.length := by
  unfold body checkLen
  cases f.data with
  | nil => rfl
  | cons b data => simp [toLe16]

theorem lead_length {header : Bytes} (five : header.length = 5) (check : UInt8) :
    (lead header check).length = 8 := by
  simp [lead, five]

theorem lengthField {n : Nat} (fits : n ≤ 65535) :
    (ofBe16 (UInt16.ofNat n >>> 8).toUInt8 (UInt16.ofNat n).toUInt8).toNat = n := by
  rw [ofBe16_toBe16, UInt16.toNat_ofNat']
  exact Nat.mod_eq_of_lt (by omega)

theorem decode_ownLead (f : MstpFrame) (fits : f.data.length ≤ 65535) (rest : Bytes) :
    decode (lead f.headerOctets (crc8 f.headerOctets) ++ rest) = (do
      let data ← decodeData (lead f.headerOctets (crc8 f.headerOctets) ++ rest) f.data.length
      .ok { f with data }) := by
  have number := lengthField fits
  have octets : f.headerOctets = [f.frameType.code, f.destination, f.source,
      (UInt16.ofNat f.data.length >>> 8).toUInt8, (UInt16.ofNat f.data.length).toUInt8] := rfl
  rw [octets, decode_lead, MstpFrameType.fromU8_code, number]
  simp

variable {buf rest : Bytes}

theorem decodeData_cut {n : Nat} (at_ : Cursor buf 8 rest)
    (short : rest.length < n + checkLen n) :
    decodeData buf n = fail .incomplete := by
  have length := at_.length
  apply if_pos
  omega

theorem decodeData_body (f : MstpFrame) (at_ : Cursor buf 8 (f.body ++ rest)) :
    decodeData buf f.data.length = .ok f.data := by
  have length := at_.length
  have size := f.body_length
  rw [List.length_append] at length
  have long : ¬ buf.length < 8 + f.data.length + checkLen f.data.length := by omega
  rw [decodeData, if_neg long]
  unfold body at at_
  cases shape : f.data with
  | nil =>
    have none : (slice buf 8 8 : Res MstpDecodeError Bytes) = .ok [] := Cursor.slice (e := []) at_
    simp [none]
  | cons b data =>
    rw [shape] at at_
    simp only [List.isEmpty_cons, Bool.false_eq_true, if_false, List.append_assoc] at at_
    have field : (slice buf 8 (8 + (b :: data).length) : Res MstpDecodeError Bytes) =
        .ok (b :: data) := at_.slice
    have behind := at_.advance
    have low : (index buf (8 + (b :: data).length) : Res MstpDecodeError UInt8) =
        .ok (crc16 (b :: data)).toUInt8 := behind.index (i := 0) rfl
    have high : (index buf (8 + (b :: data).length + 1) : Res MstpDecodeError UInt8) =
        .ok (crc16 (b :: data) >>> 8).toUInt8 := behind.index (i := 1) rfl
    rw [Nat.add_right_comm 8 _ 1] at high
    rw [field, ok_bind, if_pos (by simp), low, ok_bind, high, ok_bind, ofBe16_toBe16]
    simp

theorem decode_encode (f : MstpFrame) (fits : f.data.length ≤ 65535) (suffix : Bytes) :
    decode (f.encode ++ suffix) = .ok f := by
  have at_ : Cursor (lead f.headerOctets (crc8 f.headerOctets) ++ (f.body ++ suffix)) 8
      (f.body ++ suffix) := ⟨_, rfl, lead_length rfl _⟩
  rw [encode_eq, List.append_assoc, decode_ownLead f fits, decodeData_body f at_]
  rfl

theorem decode_cut (f : MstpFrame) (fits : f.data.length ≤ 65535) {n : Nat}
    (cut : n < f.encode.length) : decode (f.encode.take n) = fail .incomplete := by
  rw [encode_eq, List.length_append, lead_length rfl] at cut
  rw [encode_eq]
  by_cases whole : 8 ≤ n
  · have taken : (lead f.headerOctets (crc8 f.headerOctets) ++ f.body).take n =
        lead f.headerOctets (crc8 f.headerOctets) ++ f.body.take (n - 8) := by
      rw [List.take_append, lead_length rfl, List.take_of_length_le]
      rwa [lead_length rfl]
    have at_ : Cursor (lead f.headerOctets (crc8 f.headerOctets) ++ f.body.take (n - 8)) 8
        (f.body.take (n - 8)) := ⟨_, rfl, lead_length rfl _⟩
    have size := f.body_length
    have short : (f.body.take (n - 8)).length < f.data.length + checkLen f.data.length := by
      rw [List.length_take]
      omega
    rw [taken, decode_ownLead f fits, decodeData_cut at_ short]
    rfl
  · match n, whole with
    | 0, _ => exact decode_empty (by simp)
    | 1, _ => exact decode_empty (by simp [lead])
    | n + 2, whole =>
      apply decode_short
      rw [List.length_take]
      omega

theorem decodeData_safe (buf : Bytes) (n : Nat) : Safe (decodeData buf n) := by
  unfold decodeData
  split
  · exact safe_fail _
  · rename_i enough
    apply (safe_slice (by omega) (by omega)).bind
    intro data _
    split
    · rename_i positive
      rw [checkLen, if_pos positive] at enough
      apply (safe_index (by omega)).bind
      intro low _
      apply (safe_index (by omega)).bind
      intro high _
      split
      · exact safe_fail _
      · exact safe_ok _
    · exact safe_ok _

theorem decode_safe (b : Bytes) : Safe (decode b) := by
  unfold decode
  split
  · exact safe_fail _
  · apply (safe_index (by omega)).bind
    intro first _
    apply (safe_index (by omega)).bind
    intro second _
    split
    · exact safe_fail _
    · split
      · exact safe_fail _
      · apply (safe_index (by omega)).bind
        intro code _
        apply (safe_okOr _ _).bind
        intro frameType _
        apply (safe_index (by omega)).bind
        intro destination _
        apply (safe_index (by omega)).bind
        intro source _
        apply (safe_index (by omega)).bind
        intro high _
        apply (safe_index (by omega)).bind
        intro low _
        apply (safe_index (by omega)).bind
        intro expectedHdrCrc _
        apply (safe_slice (by omega) (by omega)).bind
        intro header _
        split
        · exact safe_fail _
        · apply (decodeData_safe b _).bind
          intro data _
          exact safe_ok _

/-- An encoded frame is read back whatever follows it, a part of one is never taken for
broken, and no octets make the decoder read out of range. -/
theorem framing :
    (∀ f : MstpFrame, f.data.length ≤ 65535 →
      (∀ suffix, decode (f.encode ++ suffix) = .ok f) ∧
      ∀ w, w <+: f.encode → w ≠ f.encode → decode w = fail .incomplete) ∧
    ∀ b, Safe (decode b) := by
  refine ⟨fun f fits => ⟨decode_encode f fits, ?_⟩, decode_safe⟩
  intro w start strict
  have length := start.length_le
  rw [List.prefix_iff_eq_take.mp start]
  apply decode_cut f fits
  apply Nat.lt_of_le_of_ne length
  intro same
  exact strict (start.eq_of_length same)

end MstpFrame

def pollFrame : MstpFrame := ⟨.bacnetDataExpectingReply, 3, 0, [0x01, 0x00, 0x00, 0xFF]⟩

theorem pollFrame_framed :
    MstpFrame.decode (pollFrame.encode ++ [0x55]) = .ok pollFrame ∧
      MstpFrame.decode [0x55, 0xFF, 0x05] = fail .incomplete ∧ Safe (MstpFrame.decode [0xAA]) :=
  have framed := MstpFrame.framing.1 pollFrame (by decide)
  ⟨framed.1 [0x55], framed.2 _ ⟨_, rfl⟩ (by decide), MstpFrame.framing.2 [0xAA]⟩

end BacnetSim
