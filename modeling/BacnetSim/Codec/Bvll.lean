import BacnetSim.Lib.BigEndian
import BacnetSim.Types.Basic

/-! BVLL frames (`bvll.rs`). The decoder slices by a length field that it checks against
the datagram but not against its own header, so it can panic. -/
namespace BacnetSim
open Rust Octets

def bvllType : UInt8 := 0x81

structure BdtEntry where
  address : SocketAddrV4
  mask : Vector UInt8 4
  deriving DecidableEq, Repr

structure FdtEntry where
  address : SocketAddrV4
  ttl : UInt16
  remaining : UInt16
  deriving DecidableEq, Repr

inductive BvllFrame where
  | bvlcResult (resultCode : UInt16)
  | writeBroadcastDistributionTable (entries : List BdtEntry)
  | readBroadcastDistributionTable
  | readBroadcastDistributionTableAck (entries : List BdtEntry)
  | forwardedNpdu (originatingAddress : SocketAddrV4) (npdu : Bytes)
  | registerForeignDevice (ttl : UInt16)
  | readForeignDeviceTable
  | readForeignDeviceTableAck (entries : List FdtEntry)
  | deleteForeignDeviceTableEntry (address : SocketAddrV4)
  | distributeBroadcastToNetwork (npdu : Bytes)
  | originalUnicastNpdu (npdu : Bytes)
  | originalBroadcastNpdu (npdu : Bytes)
  deriving DecidableEq, Repr

namespace BvllFrame

/-- Six kinds are written; of the others only the type octet is. -/
def encode : BvllFrame → Bytes
  | originalUnicastNpdu npdu =>
    [bvllType, 0x0A] ++ toBe16 (UInt16.ofNat (4 + npdu.length)) ++ npdu
  | originalBroadcastNpdu npdu =>
    [bvllType, 0x0B] ++ toBe16 (UInt16.ofNat (4 + npdu.length)) ++ npdu
  | registerForeignDevice ttl => [bvllType, 0x05] ++ toBe16 6 ++ toBe16 ttl
  | forwardedNpdu originatingAddress npdu =>
    [bvllType, 0x04] ++ toBe16 (UInt16.ofNat (4 + 6 + npdu.length)) ++
      toBe32 originatingAddress.ip ++ toBe16 originatingAddress.port ++ npdu
  | bvlcResult resultCode => [bvllType, 0x01] ++ toBe16 6 ++ toBe16 resultCode
  | distributeBroadcastToNetwork npdu =>
    [bvllType, 0x09] ++ toBe16 (UInt16.ofNat (4 + npdu.length)) ++ npdu
  | _ => [bvllType]

def leadingWord (payload : Bytes) : Result UInt16 := do
  let high ← index payload 0
  let low ← index payload 1
  .ok (ofBe16 high low)

def decodePayload (function : UInt8) (length : Nat) (payload : Bytes) : Result BvllFrame :=
  match function.toNat with
  | 0x01 =>
    if payload.length < 2 then fail (.decodeError "BvlcResult too short")
    else do .ok (.bvlcResult (← leadingWord payload))
  | 0x04 =>
    if length < 10 then
      fail (.decodeError
        s!"ForwardedNpdu too short: BVLL length field is {length}, need at least 10")
    else if payload.length < 6 then
      fail (.decodeError
        s!"ForwardedNpdu truncated: payload is {payload.length} bytes, need at least 6 for originator address")
    else do
      let ip ← slice payload 0 4
      let port ← slice payload 4 6
      let npdu ← slice payload 6 payload.length
      .ok (.forwardedNpdu ⟨ofBe32 ip, ← leadingWord port⟩ npdu)
  | 0x05 =>
    if payload.length < 2 then fail (.decodeError "RegisterForeignDevice too short")
    else do .ok (.registerForeignDevice (← leadingWord payload))
  | 0x09 => .ok (.distributeBroadcastToNetwork payload)
  | 0x0A => .ok (.originalUnicastNpdu payload)
  | 0x0B => .ok (.originalBroadcastNpdu payload)
  | _ => fail (.decodeError s!"unknown BVLL function {hex 2 function}")

def decode (buf : Bytes) : Result BvllFrame :=
  if buf.length < 4 then fail (.decodeError "BVLL frame too short")
  else do
    let type ← index buf 0
    if type != bvllType then fail (.decodeError s!"not a BVLL frame: {hex 2 type}")
    else
      let function ← index buf 1
      let high ← index buf 2
      let low ← index buf 3
      let length := (ofBe16 high low).toNat
      if buf.length < length then fail (.decodeError "BVLL frame truncated")
      else
        let payload ← slice buf 4 length
        decodePayload function length payload

def functionCode : BvllFrame → UInt8
  | bvlcResult _ => 0x01
  | forwardedNpdu _ _ => 0x04
  | registerForeignDevice _ => 0x05
  | distributeBroadcastToNetwork _ => 0x09
  | originalUnicastNpdu _ => 0x0A
  | originalBroadcastNpdu _ => 0x0B
  | _ => 0

def payload : BvllFrame → Bytes
  | bvlcResult v | registerForeignDevice v => toBe16 v
  | forwardedNpdu address npdu => toBe32 address.ip ++ (toBe16 address.port ++ npdu)
  | distributeBroadcastToNetwork npdu | originalUnicastNpdu npdu | originalBroadcastNpdu npdu => npdu
  | _ => []

def IsEncoded : BvllFrame → Prop
  | bvlcResult _ | forwardedNpdu _ _ | registerForeignDevice _ | distributeBroadcastToNetwork _
  | originalUnicastNpdu _ | originalBroadcastNpdu _ => True
  | _ => False

def framed (function : UInt8) (payload : Bytes) : Bytes :=
  [bvllType, function] ++ toBe16 (UInt16.ofNat (4 + payload.length)) ++ payload

theorem framed_length (function : UInt8) (payload : Bytes) :
    (framed function payload).length = 4 + payload.length := by
  simp only [framed, toBe16, List.length_append, List.length_cons, List.length_nil]

theorem encode_eq {f : BvllFrame} (kind : f.IsEncoded) : f.encode = framed f.functionCode f.payload := by
  cases f with
  | forwardedNpdu address npdu =>
    have size : 4 + 6 + npdu.length = 4 + (toBe32 address.ip ++ (toBe16 address.port ++ npdu)).length := by
      simp only [List.length_append, toBe32_length, toBe16_length]
      omega
    simp only [encode, framed, functionCode, payload, size, List.append_assoc]
  | bvlcResult code => rfl
  | registerForeignDevice ttl => rfl
  | distributeBroadcastToNetwork npdu => rfl
  | originalUnicastNpdu npdu => rfl
  | originalBroadcastNpdu npdu => rfl
  | _ => cases kind

def lengthField : Bytes → Nat
  | _ :: _ :: high :: low :: _ => (ofBe16 high low).toNat
  | _ => 0

theorem decode_header (function high low : UInt8) (rest : Bytes) :
    decode (bvllType :: function :: high :: low :: rest) =
      if rest.length + 4 < (ofBe16 high low).toNat then fail (.decodeError "BVLL frame truncated")
      else
        slice (bvllType :: function :: high :: low :: rest) 4 (ofBe16 high low).toNat >>=
          decodePayload function (ofBe16 high low).toNat := by
  have long : ¬ rest.length + 1 + 1 + 1 + 1 < 4 := by omega
  simp [decode, index, long]

theorem decode_cases (b : Bytes) :
    (∃ e, decode b = fail e) ∧ ¬ (4 ≤ b.length ∧ b[0]? = some bvllType) ∨
      ∃ function high low rest, b = bvllType :: function :: high :: low :: rest := by
  by_cases short : b.length < 4
  · exact .inl ⟨⟨_, if_pos short⟩, fun header => by omega⟩
  · obtain ⟨type, function, high, low, rest, rfl⟩ := exists_four (Nat.le_of_not_lt short)
    by_cases same : type = bvllType
    · subst same
      exact .inr ⟨function, high, low, rest, rfl⟩
    · have differs : (type != bvllType) = true := by simpa using same
      refine .inl ⟨⟨.decodeError s!"not a BVLL frame: {hex 2 type}", ?_⟩, ?_⟩
      · rw [decode, if_neg short, index_of_lt (by simp), ok_bind]
        exact if_pos differs
      · rintro ⟨_, first⟩
        exact same (Option.some.inj first)

section Header
variable (function high low : UInt8) (rest : Bytes)

theorem decode_longer (short : rest.length + 4 < (ofBe16 high low).toNat) :
    ∃ e, decode (bvllType :: function :: high :: low :: rest) = fail e := by
  rw [decode_header, if_pos short]
  exact ⟨_, rfl⟩

/-- `&buf[4..length]` with a length below 4. -/
theorem decode_shorter (below : (ofBe16 high low).toNat < 4) :
    decode (bvllType :: function :: high :: low :: rest) = .error .panicked := by
  have enough : ¬ rest.length + 4 < (ofBe16 high low).toNat := by omega
  have outside : ¬ (4 ≤ (ofBe16 high low).toNat ∧
      (ofBe16 high low).toNat ≤ (bvllType :: function :: high :: low :: rest).length) := by omega
  rw [decode_header, if_neg enough, slice, if_neg outside, error_bind]

theorem decode_inside (above : 4 ≤ (ofBe16 high low).toNat)
    (enough : (ofBe16 high low).toNat ≤ rest.length + 4) :
    ∃ octets, (ofBe16 high low).toNat = 4 + octets.length ∧
      decode (bvllType :: function :: high :: low :: rest) =
        decodePayload function (4 + octets.length) octets := by
  have size : (ofBe16 high low).toNat = 4 + (rest.take ((ofBe16 high low).toNat - 4)).length := by
    rw [List.length_take]
    omega
  have within : ¬ rest.length + 4 < (ofBe16 high low).toNat := by omega
  refine ⟨rest.take ((ofBe16 high low).toNat - 4), size, ?_⟩
  rw [← size, decode_header, if_neg within, slice_of_le above (by simpa using enough), ok_bind]
  rfl

end Header

theorem decode_framed (function : UInt8) (payload suffix : Bytes) (fits : 4 + payload.length < 65536) :
    decode (framed function payload ++ suffix) = decodePayload function (4 + payload.length) payload := by
  have number : (ofBe16 (UInt16.ofNat (4 + payload.length) >>> 8).toUInt8
      (UInt16.ofNat (4 + payload.length)).toUInt8).toNat = 4 + payload.length := by
    rw [ofBe16_toBe16, UInt16.toNat_ofNat']
    exact Nat.mod_eq_of_lt fits
  have at_ : Cursor (framed function payload ++ suffix) 4 (payload ++ suffix) := by
    rw [framed, List.append_assoc]
    exact ⟨_, rfl, rfl⟩
  have enough : ¬ (payload ++ suffix).length + 4 < 4 + payload.length := by
    rw [List.length_append]
    omega
  have taken : (slice (framed function payload ++ suffix) 4 (4 + payload.length) : Result Bytes) =
      .ok payload := at_.slice
  have header := decode_header function (UInt16.ofNat (4 + payload.length) >>> 8).toUInt8
    (UInt16.ofNat (4 + payload.length)).toUInt8 (payload ++ suffix)
  rw [number, if_neg enough] at header
  exact header.trans (congrArg (· >>= decodePayload function (4 + payload.length)) taken)

theorem leadingWord_toBe16 (v : UInt16) : leadingWord (toBe16 v) = .ok v := by
  have word : leadingWord (toBe16 v) = .ok (ofBe16 (v >>> 8).toUInt8 v.toUInt8) := rfl
  rw [word, ofBe16_toBe16]

theorem leadingWord_ok {payload : Bytes} (enough : ¬ payload.length < 2) :
    ∃ v, leadingWord payload = .ok v := by
  rw [leadingWord, index_of_lt (by omega), ok_bind, index_of_lt (by omega)]
  exact ⟨_, rfl⟩

theorem decodePayload_payload {f : BvllFrame} (kind : f.IsEncoded) :
    decodePayload f.functionCode (4 + f.payload.length) f.payload = .ok f := by
  cases f with
  | bvlcResult code =>
    simp only [decodePayload, functionCode, payload, toBe16_length, leadingWord_toBe16]
    rfl
  | registerForeignDevice ttl =>
    simp only [decodePayload, functionCode, payload, toBe16_length, leadingWord_toBe16]
    rfl
  | forwardedNpdu address npdu =>
    have ip : (slice (toBe32 address.ip ++ (toBe16 address.port ++ npdu)) 0 4 : Result Bytes) =
        .ok (toBe32 address.ip) := (Cursor.start _).slice
    have port : (slice (toBe32 address.ip ++ (toBe16 address.port ++ npdu)) 4 6 : Result Bytes) =
        .ok (toBe16 address.port) := (Cursor.start _).advance.slice
    have size : (toBe32 address.ip ++ (toBe16 address.port ++ npdu)).length = 6 + npdu.length := by
      simp only [List.length_append, toBe32_length, toBe16_length]
      omega
    have others : (slice (toBe32 address.ip ++ (toBe16 address.port ++ npdu)) 6
        (toBe32 address.ip ++ (toBe16 address.port ++ npdu)).length : Result Bytes) = .ok npdu :=
      (Cursor.start _).advance.advance.sliceRest
    rw [size] at others
    have long : ¬ 4 + (6 + npdu.length) < 10 := by omega
    have enough : ¬ 6 + npdu.length < 6 := by omega
    simp only [decodePayload, functionCode, payload, UInt8.reduceToNat, size, if_neg long,
      if_neg enough, ip, port, others, ok_bind, ofBe32_toBe32, leadingWord_toBe16]
  | distributeBroadcastToNetwork npdu => rfl
  | originalUnicastNpdu npdu => rfl
  | originalBroadcastNpdu npdu => rfl
  | _ => cases kind

theorem decode_encode {f : BvllFrame} (kind : f.IsEncoded) (fits : f.encode.length < 65536)
    (suffix : Bytes) : decode (f.encode ++ suffix) = .ok f := by
  rw [encode_eq kind] at fits ⊢
  rw [framed_length] at fits
  rw [decode_framed _ _ _ fits]
  exact decodePayload_payload kind

theorem payload_of_decodePayload {function : UInt8} {length : Nat} {octets : Bytes} {f : BvllFrame}
    (read : decodePayload function length octets = .ok f) :
    f.IsEncoded ∧ f.payload.length ≤ octets.length := by
  unfold decodePayload at read
  split at read
  · split at read
    · cases read
    · obtain ⟨v, _, eq⟩ := bind_eq_ok read
      cases eq
      exact ⟨trivial, by simp only [payload, toBe16_length]; omega⟩
  · split at read
    · cases read
    · split at read
      · cases read
      · rename_i enough
        obtain ⟨ip, _, read⟩ := bind_eq_ok read
        obtain ⟨port, _, read⟩ := bind_eq_ok read
        obtain ⟨npdu, others, read⟩ := bind_eq_ok read
        obtain ⟨word, _, eq⟩ := bind_eq_ok read
        cases eq
        rw [slice_of_le (by omega) (Nat.le_refl _)] at others
        cases others
        refine ⟨trivial, ?_⟩
        simp only [payload, List.length_append, toBe32_length, toBe16_length, List.length_take,
          List.length_drop]
        omega
  · split at read
    · cases read
    · obtain ⟨v, _, eq⟩ := bind_eq_ok read
      cases eq
      exact ⟨trivial, by simp only [payload, toBe16_length]; omega⟩
  · cases read
    exact ⟨trivial, Nat.le_refl _⟩
  · cases read
    exact ⟨trivial, Nat.le_refl _⟩
  · cases read
    exact ⟨trivial, Nat.le_refl _⟩
  · cases read

theorem lengthField_of_accepted {b : Bytes} {f : BvllFrame} (read : decode b = .ok f) :
    f.IsEncoded ∧ 4 + f.payload.length ≤ lengthField b := by
  rcases decode_cases b with ⟨⟨e, refused⟩, _⟩ | ⟨function, high, low, rest, rfl⟩
  · cases refused.symm.trans read
  · have length : lengthField (bvllType :: function :: high :: low :: rest) =
        (ofBe16 high low).toNat := rfl
    by_cases longer : rest.length + 4 < (ofBe16 high low).toNat
    · obtain ⟨e, refused⟩ := decode_longer function high low rest longer
      cases refused.symm.trans read
    · by_cases below : (ofBe16 high low).toNat < 4
      · rw [decode_shorter function high low rest below] at read
        cases read
      · obtain ⟨octets, size, inside⟩ := decode_inside function high low rest (by omega) (by omega)
        rw [inside] at read
        obtain ⟨kind, fits⟩ := payload_of_decodePayload read
        exact ⟨kind, by omega⟩

theorem roundTrip :
    (∀ f : BvllFrame, f.IsEncoded → f.encode.length < 65536 → ∀ suffix,
      decode (f.encode ++ suffix) = .ok f) ∧
    ∀ b f, decode b = .ok f →
      f.IsEncoded ∧ f.encode.length ≤ lengthField b ∧ decode f.encode = .ok f := by
  refine ⟨fun f kind fits suffix => decode_encode kind fits suffix, ?_⟩
  intro b f read
  obtain ⟨kind, size⟩ := lengthField_of_accepted read
  have length : f.encode.length ≤ lengthField b := by rwa [encode_eq kind, framed_length]
  have limit : lengthField b < 65536 := by
    unfold lengthField
    split
    · exact UInt16.toNat_lt _
    · decide
  have again := decode_encode kind (Nat.lt_of_le_of_lt length limit) []
  rw [List.append_nil] at again
  exact ⟨kind, length, again⟩

end BvllFrame

def forwardedFrame : BvllFrame := .forwardedNpdu ⟨0xC0A8010A, 47808⟩ [0x01, 0x00]

theorem forwardedFrame_roundTrip :
    BvllFrame.decode (forwardedFrame.encode ++ [0xFF]) = .ok forwardedFrame ∧
      (BvllFrame.bvlcResult 7).encode.length ≤ 8 :=
  ⟨BvllFrame.roundTrip.1 forwardedFrame trivial (by decide) [0xFF],
    (BvllFrame.roundTrip.2 [0x81, 0x01, 0, 8, 0, 7, 0xAA, 0xBB] (.bvlcResult 7) rfl).2.1⟩

namespace BvllFrame

def minimumPayload (function : UInt8) : Option Nat :=
  match function.toNat with
  | 0x01 | 0x05 => some 2
  | 0x04 => some 6
  | 0x09 | 0x0A | 0x0B => some 0
  | _ => none

structure WellFormed (b : Bytes) : Prop where
  header : 4 ≤ b.length ∧ b[0]? = some bvllType
  above : 4 ≤ lengthField b
  within : lengthField b ≤ b.length
  payload : ∃ function minimum, b[1]? = some function ∧ minimumPayload function = some minimum ∧
    4 + minimum ≤ lengthField b

def Exact (b : Bytes) : Prop :=
  (WellFormed b → ∃ f, decode b = .ok f) ∧ (¬ WellFormed b → ∃ e, decode b = fail e)

theorem decodePayload_ok {function : UInt8} {minimum : Nat} {octets : Bytes}
    (known : minimumPayload function = some minimum) (enough : minimum ≤ octets.length) :
    ∃ f, decodePayload function (4 + octets.length) octets = .ok f := by
  unfold decodePayload
  unfold minimumPayload at known
  split at known
  · rename_i code
    cases known
    obtain ⟨v, word⟩ := leadingWord_ok (Nat.not_lt.mpr enough)
    simp only [code, if_neg (Nat.not_lt.mpr enough), word]
    exact ⟨_, rfl⟩
  · rename_i code
    cases known
    obtain ⟨v, word⟩ := leadingWord_ok (Nat.not_lt.mpr enough)
    simp only [code, if_neg (Nat.not_lt.mpr enough), word]
    exact ⟨_, rfl⟩
  · rename_i code
    cases known
    have long : ¬ 4 + octets.length < 10 := by omega
    have ip : (slice octets 0 4 : Result Bytes) = _ := slice_of_le (by omega) (by omega)
    have port : (slice octets 4 6 : Result Bytes) = _ := slice_of_le (by omega) (by omega)
    have others : (slice octets 6 octets.length : Result Bytes) = _ :=
      slice_of_le enough (Nat.le_refl _)
    have two : ¬ ((octets.drop 4).take (6 - 4)).length < 2 := by
      rw [List.length_take, List.length_drop]
      omega
    obtain ⟨v, word⟩ := leadingWord_ok two
    simp only [code, if_neg long, if_neg (Nat.not_lt.mpr enough), ip, port, others, word, ok_bind]
    exact ⟨_, rfl⟩
  · rename_i code
    simp only [code]
    exact ⟨_, rfl⟩
  · rename_i code
    simp only [code]
    exact ⟨_, rfl⟩
  · rename_i code
    simp only [code]
    exact ⟨_, rfl⟩
  · cases known

theorem decodePayload_refused {function : UInt8} {octets : Bytes}
    (short : ∀ minimum, minimumPayload function = some minimum → octets.length < minimum) :
    ∃ e, decodePayload function (4 + octets.length) octets = fail e := by
  unfold minimumPayload at short
  unfold decodePayload
  split at short <;> rename_i code
  · rw [code]
    exact ⟨_, if_pos (short 2 rfl)⟩
  · rw [code]
    exact ⟨_, if_pos (short 2 rfl)⟩
  · rw [code]
    have below : 4 + octets.length < 10 := Nat.add_lt_add_left (short 6 rfl) 4
    exact ⟨_, if_pos below⟩
  · exact absurd (short 0 rfl) (Nat.not_lt_zero _)
  · exact absurd (short 0 rfl) (Nat.not_lt_zero _)
  · exact absurd (short 0 rfl) (Nat.not_lt_zero _)
  · split
    all_goals first | contradiction | exact ⟨_, rfl⟩

/-- The decoder is exact on every datagram but those whose length field is below the
length of the header. -/
theorem decode_exact_iff (b : Bytes) :
    Exact b ↔ ¬ (4 ≤ b.length ∧ b[0]? = some bvllType ∧ lengthField b < 4) := by
  rcases decode_cases b with ⟨refused, noHeader⟩ | ⟨function, high, low, rest, rfl⟩
  · have exact_ : Exact b := ⟨fun formed => absurd formed.header noHeader, fun _ => refused⟩
    exact iff_of_true exact_ fun short => noHeader ⟨short.1, short.2.1⟩
  · have length : lengthField (bvllType :: function :: high :: low :: rest) =
        (ofBe16 high low).toNat := rfl
    by_cases below : (ofBe16 high low).toNat < 4
    · have crashed := decode_shorter function high low rest below
      have notFormed : ¬ WellFormed (bvllType :: function :: high :: low :: rest) :=
        fun formed => absurd formed.above (by omega)
      constructor
      · rintro ⟨_, refuses⟩
        obtain ⟨e, refused⟩ := refuses notFormed
        cases refused.symm.trans crashed
      · intro notShort
        exact absurd ⟨by simp, rfl, below⟩ notShort
    · apply iff_of_true _ fun short => below short.2.2
      by_cases longer : rest.length + 4 < (ofBe16 high low).toNat
      · refine ⟨fun formed => ?_, fun _ => decode_longer function high low rest longer⟩
        have within := formed.within
        simp only [length, List.length_cons] at within
        omega
      · obtain ⟨octets, size, inside⟩ := decode_inside function high low rest (by omega) (by omega)
        rw [Exact, inside]
        constructor
        · rintro ⟨_, _, _, code, minimum, here, known, enough⟩
          cases Option.some.inj here
          exact decodePayload_ok known (by omega)
        · intro notFormed
          apply decodePayload_refused
          intro minimum known
          apply Nat.lt_of_not_le
          intro enough
          exact notFormed ⟨⟨by simp, rfl⟩, by omega, by simp only [length, List.length_cons]; omega,
            function, minimum, rfl, known, by omega⟩

end BvllFrame

/-- A datagram that claims to be 0 octets long. -/
theorem zeroLength_not_exact : ¬ ∀ b, BvllFrame.Exact b := by
  intro claim
  have notFormed : ¬ BvllFrame.WellFormed [0x81, 0x0A, 0x00, 0x00] :=
    fun formed => absurd formed.above (by decide)
  obtain ⟨e, refused⟩ := (claim _).2 notFormed
  cases refused

end BacnetSim
