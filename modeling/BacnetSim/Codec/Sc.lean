import BacnetSim.Lib.BigEndian
import BacnetSim.Types.Basic

/-! BACnet/SC frames (`sc.rs`): two optional addresses that the control octet announces. -/
namespace BacnetSim
open Rust Octets

inductive ScFunction where
  | bvlcResult | encapsulatedNpdu | addressResolution | addressResolutionAck | advertisement
  | advertisementSolicitation | connectRequest | connectAccept | disconnectRequest
  | disconnectAck | heartbeat | heartbeatAck | securePath
  deriving DecidableEq, Repr

def ScFunction.code (f : ScFunction) : UInt8 := UInt8.ofNat (ScFunction.ctorIdx f)

structure ScControlFlags where
  origVaddrPresent : Bool := false
  destVaddrPresent : Bool := false
  destOptionsPresent : Bool := false
  dataOptionsPresent : Bool := false
  deriving DecidableEq, Repr

abbrev Vmac := Vector UInt8 6

structure ScFrame where
  function : UInt8
  control : ScControlFlags
  messageId : UInt16
  originatingVmac : Option Vmac
  destinationVmac : Option Vmac
  payload : Bytes
  deriving DecidableEq, Repr

namespace ScControlFlags

def octet (control : ScControlFlags) : UInt8 :=
  (if control.origVaddrPresent then 0x08 else 0) ||| (if control.destVaddrPresent then 0x04 else 0) |||
    (if control.destOptionsPresent then 0x02 else 0) ||| (if control.dataOptionsPresent then 0x01 else 0)

def ofOctet (ctrlByte : UInt8) : ScControlFlags where
  origVaddrPresent := ctrlByte &&& 0x08 != 0
  destVaddrPresent := ctrlByte &&& 0x04 != 0
  destOptionsPresent := ctrlByte &&& 0x02 != 0
  dataOptionsPresent := ctrlByte &&& 0x01 != 0

theorem ofOctet_octet (control : ScControlFlags) : ofOctet control.octet = control := by
  obtain ⟨orig, dest, destOptions, dataOptions⟩ := control
  revert orig dest destOptions dataOptions
  decide

theorem octet_ofOctet (ctrlByte : UInt8) : (ofOctet ctrlByte).octet = ctrlByte &&& 0x0F := by
  revert ctrlByte
  apply forall_octet
  decide +kernel

end ScControlFlags

namespace ScFrame

def encapsulatedNpdu (messageId : UInt16) (orig dest : Option Vmac) (npdu : Bytes) : ScFrame where
  function := ScFunction.code .encapsulatedNpdu
  control := { origVaddrPresent := orig.isSome, destVaddrPresent := dest.isSome }
  messageId := messageId
  originatingVmac := orig
  destinationVmac := dest
  payload := npdu

/-- An address is written when its flag is set and it is there. -/
def vmacOctets (present : Bool) (vmac : Option Vmac) : Bytes :=
  if present then
    match vmac with
    | some octets => octets.toList
    | none => []
  else []

def encode (f : ScFrame) : Bytes :=
  [f.function, f.control.octet] ++ toBe16 f.messageId ++
    vmacOctets f.control.origVaddrPresent f.originatingVmac ++
    vmacOctets f.control.destVaddrPresent f.destinationVmac ++ f.payload

def decodeVmac (present : Bool) (buf : Bytes) (pos : Nat) (which : String) :
    Result (Option Vmac × Nat) :=
  if present then
    if buf.length < pos + 6 then fail (.decodeError s!"SC frame: {which} vMAC truncated")
    else do
      let octets ← slice buf pos (pos + 6)
      let vmac ← copyFromSlice 6 octets
      .ok (some vmac, pos + 6)
  else .ok (none, pos)

def decode (buf : Bytes) : Result ScFrame :=
  if buf.length < 4 then fail (.decodeError "SC frame too short")
  else do
    let function ← index buf 0
    let ctrlByte ← index buf 1
    let high ← index buf 2
    let low ← index buf 3
    let messageId := ofBe16 high low
    let control := ScControlFlags.ofOctet ctrlByte
    let (originatingVmac, pos) ← decodeVmac control.origVaddrPresent buf 4 "originating"
    let (destinationVmac, pos) ← decodeVmac control.destVaddrPresent buf pos "destination"
    let payload ← slice buf pos buf.length
    .ok { function, control, messageId, originatingVmac, destinationVmac, payload }

def vmacSize (present : Bool) : Nat := if present then 6 else 0

theorem vmacOctets_length (vmac : Option Vmac) :
    (vmacOctets vmac.isSome vmac).length = vmacSize vmac.isSome := by
  cases vmac with
  | none => rfl
  | some octets => exact octets.length_toList

theorem decodeVmac_octets (vmac : Option Vmac) {buf rest : Bytes} {pos : Nat} (which : String)
    (at_ : Cursor buf pos (vmacOctets vmac.isSome vmac ++ rest)) :
    decodeVmac vmac.isSome buf pos which = .ok (vmac, pos + vmacSize vmac.isSome) ∧
      Cursor buf (pos + vmacSize vmac.isSome) rest := by
  cases vmac with
  | none => exact ⟨rfl, at_⟩
  | some octets =>
    have here : Cursor buf pos (octets.toList ++ rest) := at_
    have size : octets.toList.length = 6 := octets.length_toList
    have bound := here.length
    rw [List.length_append, size] at bound
    have enough : ¬ buf.length < pos + 6 := by omega
    have read : (slice buf pos (pos + octets.toList.length) : Result Bytes) = .ok octets.toList :=
      here.slice
    have behind : Cursor buf (pos + octets.toList.length) rest := here.advance
    simp only [size] at read behind
    refine ⟨?_, behind⟩
    simp only [decodeVmac, Option.isSome_some, if_true, if_neg enough, read, ok_bind,
      copyFromSlice_toList]
    rfl

theorem decodeVmac_cases (present : Bool) {buf rest : Bytes} {pos : Nat} (which : String)
    (at_ : Cursor buf pos rest) :
    (∃ e, decodeVmac present buf pos which = fail e) ∧ rest.length < vmacSize present ∨
      ∃ vmac rest', vmac.isSome = present ∧ rest = vmacOctets vmac.isSome vmac ++ rest' := by
  cases present with
  | false => exact .inr ⟨none, rest, rfl, rfl⟩
  | true =>
    have bound := at_.length
    by_cases short : rest.length < 6
    · have truncated : buf.length < pos + 6 := by omega
      exact .inl ⟨⟨_, if_pos truncated⟩, short⟩
    · have size : (rest.take 6).toArray.size = 6 := by
        rw [List.size_toArray, List.length_take]
        omega
      exact .inr ⟨some ⟨(rest.take 6).toArray, size⟩, rest.drop 6, rfl,
        (List.take_append_drop 6 rest).symm⟩

structure Announced (f : ScFrame) : Prop where
  orig : f.control.origVaddrPresent = f.originatingVmac.isSome
  dest : f.control.destVaddrPresent = f.destinationVmac.isSome

theorem encapsulatedNpdu_announced (messageId : UInt16) (orig dest : Option Vmac) (npdu : Bytes) :
    (encapsulatedNpdu messageId orig dest npdu).Announced := ⟨rfl, rfl⟩

def Complete (b : Bytes) : Prop :=
  ∃ ctrlByte, b[1]? = some ctrlByte ∧
    4 + vmacSize (ScControlFlags.ofOctet ctrlByte).origVaddrPresent +
      vmacSize (ScControlFlags.ofOctet ctrlByte).destVaddrPresent ≤ b.length

def clearReserved : Bytes → Bytes
  | function :: ctrlByte :: rest => function :: (ctrlByte &&& 0x0F) :: rest
  | b => b

theorem decode_header (function ctrlByte high low : UInt8) (rest : Bytes) :
    decode (function :: ctrlByte :: high :: low :: rest) =
      (decodeVmac (ScControlFlags.ofOctet ctrlByte).origVaddrPresent
        (function :: ctrlByte :: high :: low :: rest) 4 "originating" >>= fun orig =>
      decodeVmac (ScControlFlags.ofOctet ctrlByte).destVaddrPresent
        (function :: ctrlByte :: high :: low :: rest) orig.2 "destination" >>= fun dest =>
      slice (function :: ctrlByte :: high :: low :: rest) dest.2
        (function :: ctrlByte :: high :: low :: rest).length >>= fun payload =>
      .ok ⟨function, ScControlFlags.ofOctet ctrlByte, ofBe16 high low, orig.1, dest.1, payload⟩) := by
  have long : ¬ rest.length + 1 + 1 + 1 + 1 < 4 := by omega
  simp [decode, index, long]

section Parts
variable (function ctrlByte high low : UInt8) {orig dest : Option Vmac} (rest : Bytes)

theorem behind_header : Cursor (function :: ctrlByte :: high :: low :: rest) 4 rest :=
  ⟨[function, ctrlByte, high, low], rfl, rfl⟩

theorem decode_parts
    (origFlag : orig.isSome = (ScControlFlags.ofOctet ctrlByte).origVaddrPresent)
    (destFlag : dest.isSome = (ScControlFlags.ofOctet ctrlByte).destVaddrPresent) :
    decode (function :: ctrlByte :: high :: low ::
        (vmacOctets orig.isSome orig ++ (vmacOctets dest.isSome dest ++ rest))) =
      .ok ⟨function, ScControlFlags.ofOctet ctrlByte, ofBe16 high low, orig, dest, rest⟩ := by
  obtain ⟨first, behind⟩ := decodeVmac_octets orig "originating" (behind_header function ctrlByte
    high low (vmacOctets orig.isSome orig ++ (vmacOctets dest.isSome dest ++ rest)))
  obtain ⟨second, last⟩ := decodeVmac_octets dest "destination" behind
  simp only [decode_header, ← origFlag, ← destFlag, first, second, last.sliceRest, ok_bind]

end Parts

theorem decode_encode {f : ScFrame} (announced : f.Announced) : decode f.encode = .ok f := by
  obtain ⟨function, control, messageId, orig, dest, payload⟩ := f
  have origFlag : control.origVaddrPresent = orig.isSome := announced.orig
  have destFlag : control.destVaddrPresent = dest.isSome := announced.dest
  have flags : ScControlFlags.ofOctet control.octet = control := control.ofOctet_octet
  have read := decode_parts function control.octet (messageId >>> 8).toUInt8 messageId.toUInt8
    payload (origFlag.symm.trans (congrArg _ flags.symm)) (destFlag.symm.trans (congrArg _ flags.symm))
  rw [flags, ofBe16_toBe16] at read
  simp only [encode, origFlag, destFlag, List.append_assoc]
  exact read

theorem decode_cases (b : Bytes) :
    (∃ e, decode b = fail e) ∧ ¬ Complete b ∨
      ∃ f, decode b = .ok f ∧ Complete b ∧ f.Announced ∧ f.encode = clearReserved b := by
  by_cases short : b.length < 4
  · refine .inl ⟨⟨_, if_pos short⟩, ?_⟩
    rintro ⟨ctrlByte, _, enough⟩
    omega
  obtain ⟨function, ctrlByte, high, low, rest, rfl⟩ := exists_four (Nat.le_of_not_lt short)
  have start := behind_header function ctrlByte high low rest
  rcases decodeVmac_cases (ScControlFlags.ofOctet ctrlByte).origVaddrPresent "originating" start
    with ⟨⟨e, refused⟩, few⟩ | ⟨orig, rest, origFlag, rfl⟩
  · refine .inl ⟨⟨e, by rw [decode_header, refused, fail_bind]⟩, ?_⟩
    rintro ⟨octet, here, enough⟩
    cases Option.some.inj here
    simp only [List.length_cons] at enough
    omega
  obtain ⟨first, behind⟩ := decodeVmac_octets orig "originating" start
  rcases decodeVmac_cases (ScControlFlags.ofOctet ctrlByte).destVaddrPresent "destination" behind
    with ⟨⟨e, refused⟩, few⟩ | ⟨dest, rest, destFlag, rfl⟩
  · refine .inl ⟨⟨e, by rw [decode_header, ← origFlag, first, ok_bind, refused, fail_bind]⟩, ?_⟩
    rintro ⟨octet, here, enough⟩
    cases Option.some.inj here
    simp only [List.length_cons, List.length_append, vmacOctets_length, ← origFlag] at enough
    omega
  refine .inr ⟨_, decode_parts function ctrlByte high low rest origFlag destFlag, ⟨ctrlByte, rfl, ?_⟩,
    ⟨origFlag.symm, destFlag.symm⟩, ?_⟩
  · simp only [List.length_cons, List.length_append, vmacOctets_length, ← origFlag, ← destFlag]
    omega
  · simp only [encode, ← origFlag, ← destFlag, ScControlFlags.octet_ofOctet, toBe16_ofBe16,
      List.append_assoc, clearReserved]
    rfl

/-- Frames whose flags are right are read back. Of every octet string the decoder takes those
that are complete, and what it takes is what the frame is written as, but for the reserved
bits. -/
theorem bijective :
    (∀ messageId orig dest npdu, (encapsulatedNpdu messageId orig dest npdu).Announced) ∧
    (∀ f : ScFrame, f.Announced → decode f.encode = .ok f) ∧
    ∀ b, Safe (decode b) ∧ ((∃ f, decode b = .ok f) ↔ Complete b) ∧
      ∀ f, decode b = .ok f → f.Announced ∧ f.encode = clearReserved b := by
  refine ⟨encapsulatedNpdu_announced, fun f => decode_encode, fun b => ?_⟩
  rcases decode_cases b with ⟨⟨e, refused⟩, short⟩ | ⟨f, read, complete, announced, same⟩
  · rw [refused]
    refine ⟨safe_fail e, iff_of_false ?_ short, fun f taken => absurd taken (fail_ne_ok e f)⟩
    rintro ⟨f, taken⟩
    exact fail_ne_ok e f taken
  · rw [read]
    refine ⟨safe_ok f, iff_of_true ⟨f, rfl⟩ complete, ?_⟩
    intro g taken
    cases taken
    exact ⟨announced, same⟩

end ScFrame

theorem routed_bijective :
    ScFrame.decode (ScFrame.encapsulatedNpdu 7 (some (Vector.replicate 6 1)) none [0x01, 0x00]).encode =
        .ok (ScFrame.encapsulatedNpdu 7 (some (Vector.replicate 6 1)) none [0x01, 0x00]) ∧
      ∀ f, ScFrame.decode [0x01, 0xF0, 0, 7, 9] = .ok f → f.encode = [0x01, 0x00, 0, 7, 9] :=
  ⟨ScFrame.bijective.2.1 _ (ScFrame.bijective.1 7 _ none _),
    fun f taken => ((ScFrame.bijective.2.2 [0x01, 0xF0, 0, 7, 9]).2.2 f taken).2⟩

end BacnetSim
