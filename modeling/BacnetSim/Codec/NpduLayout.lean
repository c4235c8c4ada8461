import BacnetSim.Codec.Npdu
import BacnetSim.Lib.BigEndian

/-! The layout of network-layer headers, which only the decoder of `npdu.rs` describes in
full. What is read from a laid-out header, and what becomes of one that is cut short. -/
namespace BacnetSim
open Rust Octets

abbrev LaidOutAddress := { address : NpduAddress // address.mac.length ≤ 255 }

structure NpduHeader where
  networkMessage : Bool
  expectingReply : Bool
  priority : Fin 4
  reserved : Bool × Bool
  destination : Option (LaidOutAddress × UInt8)
  source : Option LaidOutAddress

namespace NpduHeader

def flag (set : Bool) (mask : UInt8) : UInt8 := if set then mask else 0

def controlOctet (h : NpduHeader) : UInt8 :=
  flag h.networkMessage 0x80 ||| flag h.reserved.1 0x40 ||| flag h.destination.isSome 0x20 |||
    flag h.reserved.2 0x10 ||| flag h.source.isSome 0x08 ||| flag h.expectingReply 0x04 |||
    UInt8.ofNat h.priority

def addressOctets (a : LaidOutAddress) : Bytes :=
  toBe16 a.val.network ++ UInt8.ofNat a.val.mac.length :: a.val.mac

def optionalOctets : Option LaidOutAddress → Bytes
  | none => []
  | some a => addressOctets a

def hopOctets (hopCount : Option UInt8) : Bytes := hopCount.toList

/-- The header: the destination's hop count stands behind both addresses. -/
def octets (h : NpduHeader) : Bytes :=
  [0x01, h.controlOctet] ++ (optionalOctets (h.destination.map Prod.fst) ++
    (optionalOctets h.source ++ hopOctets (h.destination.map Prod.snd)))

def npdu (h : NpduHeader) (apdu : Bytes) : Npdu where
  version := 0x01
  control :=
    { networkMessage := h.networkMessage
      destinationSpecifier := h.destination.isSome
      sourceSpecifier := h.source.isSome
      expectingReply := h.expectingReply
      priority := UInt8.ofNat h.priority }
  destination := h.destination.map fun d => d.1.val
  source := h.source.map Subtype.val
  hopCount := h.destination.map Prod.snd
  apdu := apdu

theorem controlOf_flags : ∀ (networkMessage high destination low source expectingReply : Bool)
    (priority : Fin 4),
    Npdu.controlOf (flag networkMessage 0x80 ||| flag high 0x40 ||| flag destination 0x20 |||
      flag low 0x10 ||| flag source 0x08 ||| flag expectingReply 0x04 ||| UInt8.ofNat priority) =
    ⟨networkMessage, destination, source, expectingReply, UInt8.ofNat priority⟩ := by
  decide +kernel

theorem controlOf_controlOctet (h : NpduHeader) (apdu : Bytes) :
    Npdu.controlOf h.controlOctet = (h.npdu apdu).control := controlOf_flags _ _ _ _ _ _ _

theorem flags_controlOf : ∀ ctrlByte : UInt8,
    flag (Npdu.controlOf ctrlByte).networkMessage 0x80 ||| flag (ctrlByte &&& 0x40 != 0) 0x40 |||
      flag (Npdu.controlOf ctrlByte).destinationSpecifier 0x20 ||| flag (ctrlByte &&& 0x10 != 0) 0x10 |||
      flag (Npdu.controlOf ctrlByte).sourceSpecifier 0x08 |||
      flag (Npdu.controlOf ctrlByte).expectingReply 0x04 |||
      UInt8.ofNat (ctrlByte.toNat % 4) = ctrlByte := by
  apply forall_octet
  decide +kernel

section Parts
variable {buf rest : Bytes} {pos : Nat} (tooShort : String)

theorem decodeAddress_octets (a : LaidOutAddress) (at_ : Cursor buf pos (addressOctets a ++ rest)) :
    Npdu.decodeAddress buf pos tooShort = .ok (a.val, pos + (addressOctets a).length) := by
  obtain ⟨⟨network, mac⟩, short⟩ := a
  have size : (UInt8.ofNat mac.length).toNat = mac.length := by
    rw [UInt8.toNat_ofNat']
    exact Nat.mod_eq_of_lt (Nat.lt_succ_of_le short)
  have parts : Cursor buf pos ((network >>> 8).toUInt8 :: network.toUInt8 ::
      UInt8.ofNat mac.length :: (mac ++ rest)) := by
    rw [addressOctets, List.append_assoc] at at_
    exact at_
  have enough : ¬ buf.length < pos + 3 := by
    have bound := parts.length
    simp only [List.length_cons] at bound
    omega
  have high : (index buf pos : Result UInt8) = .ok (network >>> 8).toUInt8 := parts.index (i := 0) rfl
  have low : (index buf (pos + 1) : Result UInt8) = .ok network.toUInt8 := parts.index rfl
  have len : (index buf (pos + 2) : Result UInt8) = .ok (UInt8.ofNat mac.length) := parts.index rfl
  have octets : (slice buf (pos + 3) (pos + 3 + mac.length) : Result Bytes) = .ok mac :=
    parts.next.next.next.slice
  have number : ofBe16 (network >>> 8).toUInt8 network.toUInt8 = network := ofBe16_toBe16 network
  have stop : pos + 3 + mac.length = pos + (addressOctets ⟨⟨network, mac⟩, short⟩).length := by
    simp only [addressOctets, List.length_append, toBe16_length, List.length_cons]
    omega
  rw [Npdu.decodeAddress, if_neg enough, high, ok_bind, low, ok_bind, len, ok_bind, size, octets,
    ok_bind, ← stop]
  exact congrArg (fun n => Except.ok (NpduAddress.mk n mac, pos + 3 + mac.length)) number

theorem decodeOptionalAddress_octets (a : Option LaidOutAddress)
    (at_ : Cursor buf pos (optionalOctets a ++ rest)) :
    Npdu.decodeOptionalAddress a.isSome buf pos tooShort =
      .ok (a.map Subtype.val, pos + (optionalOctets a).length) := by
  cases a with
  | none => rfl
  | some a =>
    have read := decodeAddress_octets tooShort a at_
    simp only [Npdu.decodeOptionalAddress, Option.isSome_some, if_true, read, ok_bind]
    rfl

theorem decodeHopCount_octets (hopCount : Option UInt8)
    (at_ : Cursor buf pos (hopOctets hopCount ++ rest)) :
    Npdu.decodeHopCount hopCount.isSome buf pos =
      .ok (hopCount, pos + (hopOctets hopCount).length) := by
  cases hopCount with
  | none => rfl
  | some hops =>
    have bound := at_.length
    have enough : ¬ buf.length ≤ pos := by
      simp only [hopOctets, Option.toList_some, List.length_append, List.length_cons] at bound
      omega
    have read : (index buf pos : Result UInt8) = .ok hops := at_.index (i := 0) rfl
    simp only [Npdu.decodeHopCount, Option.isSome_some, if_true, if_neg enough, read, ok_bind]
    rfl

end Parts

theorem decode_header (ctrlByte : UInt8) (rest : Bytes) :
    Npdu.decode (0x01 :: ctrlByte :: rest) =
      (Npdu.decodeOptionalAddress (Npdu.controlOf ctrlByte).destinationSpecifier
        (0x01 :: ctrlByte :: rest) 2 "NPDU too short for DNET" >>= fun destination =>
      Npdu.decodeOptionalAddress (Npdu.controlOf ctrlByte).sourceSpecifier
        (0x01 :: ctrlByte :: rest) destination.2 "NPDU too short for SNET" >>= fun source =>
      Npdu.decodeHopCount (Npdu.controlOf ctrlByte).destinationSpecifier
        (0x01 :: ctrlByte :: rest) source.2 >>= fun hopCount =>
      slice (0x01 :: ctrlByte :: rest) hopCount.2 (0x01 :: ctrlByte :: rest).length >>= fun apdu =>
      .ok ⟨0x01, Npdu.controlOf ctrlByte, destination.1, source.1, hopCount.1, apdu⟩) := by
  have long : ¬ rest.length + 1 + 1 < 2 := by omega
  simp [Npdu.decode, index, long]

theorem behind_control (ctrlByte : UInt8) (rest : Bytes) : Cursor (0x01 :: ctrlByte :: rest) 2 rest :=
  ⟨[0x01, ctrlByte], rfl, rfl⟩

theorem decode_octets (h : NpduHeader) (apdu : Bytes) :
    Npdu.decode (h.octets ++ apdu) = .ok (h.npdu apdu) := by
  have octets : h.octets ++ apdu = 0x01 :: h.controlOctet ::
      (optionalOctets (h.destination.map Prod.fst) ++ (optionalOctets h.source ++
        (hopOctets (h.destination.map Prod.snd) ++ apdu))) := by
    simp only [NpduHeader.octets, List.append_assoc]
    rfl
  have start := behind_control h.controlOctet (optionalOctets (h.destination.map Prod.fst) ++
    (optionalOctets h.source ++ (hopOctets (h.destination.map Prod.snd) ++ apdu)))
  have control := h.controlOf_controlOctet apdu
  have destination := decodeOptionalAddress_octets "NPDU too short for DNET" _ start
  have source := decodeOptionalAddress_octets "NPDU too short for SNET" _ start.advance
  have hopCount := decodeHopCount_octets _ start.advance.advance
  have last := start.advance.advance.advance.sliceRest (ε := BacnetError)
  rw [Option.isSome_map] at destination hopCount
  rw [octets, decode_header, control]
  simp only [npdu, destination, source, hopCount, last, ok_bind, Option.map_map]
  rfl

theorem decode_layout :
    (∀ (h : NpduHeader) (apdu : Bytes), Npdu.decode (h.octets ++ apdu) = .ok (h.npdu apdu)) ∧
    ∀ (expectingReply : Bool) (apdu : Bytes),
      ∃ n, Npdu.decode (Npdu.encodeLocal expectingReply apdu) = .ok n ∧
        n.destination = none ∧ n.source = none ∧ n.control.expectingReply = expectingReply ∧
        n.apdu = apdu :=
  ⟨decode_octets, fun expectingReply apdu =>
    ⟨_, Npdu.decode_encodeLocal expectingReply apdu, rfl, rfl, rfl, rfl⟩⟩

def MacMissing (rest : Bytes) : Prop :=
  ∃ high low len mac, rest = high :: low :: len :: mac ∧ mac.length < len.toNat

/-- An announced address lacks octets of its MAC address, and nothing before it is missing. -/
inductive MacCut : Bytes → Prop
  | destination {ctrlByte : UInt8} {rest : Bytes}
    (announced : (Npdu.controlOf ctrlByte).destinationSpecifier = true) (missing : MacMissing rest) :
    MacCut (0x01 :: ctrlByte :: rest)
  | source {ctrlByte : UInt8} {destination : Option LaidOutAddress} {rest : Bytes}
    (present : destination.isSome = (Npdu.controlOf ctrlByte).destinationSpecifier)
    (announced : (Npdu.controlOf ctrlByte).sourceSpecifier = true) (missing : MacMissing rest) :
    MacCut (0x01 :: ctrlByte :: (optionalOctets destination ++ rest))

def CutShort (b : Bytes) : Prop :=
  b.length < 2 ∨ ∃ h : NpduHeader, b <+: h.octets ∧ b.length < h.octets.length

def TotalOn (b : Bytes) : Prop :=
  Safe (Npdu.decode b) ∧ (CutShort b → ∃ e, Npdu.decode b = fail e)

section Cases
variable {buf rest : Bytes} {pos : Nat} (tooShort : String)

/-- `&buf[pos..pos + len]` is not checked. -/
theorem decodeOptionalAddress_missing (at_ : Cursor buf pos rest) (missing : MacMissing rest) :
    Npdu.decodeOptionalAddress true buf pos tooShort = .error .panicked := by
  obtain ⟨high, low, len, mac, rfl, short⟩ := missing
  have bound := at_.length
  simp only [List.length_cons] at bound
  have enough : ¬ buf.length < pos + 3 := by omega
  have first : (index buf pos : Result UInt8) = .ok high := at_.index (i := 0) rfl
  have second : (index buf (pos + 1) : Result UInt8) = .ok low := at_.index rfl
  have third : (index buf (pos + 2) : Result UInt8) = .ok len := at_.index rfl
  have outside : ¬ (pos + 3 ≤ pos + 3 + len.toNat ∧ pos + 3 + len.toNat ≤ buf.length) := by omega
  have read : (slice buf (pos + 3) (pos + 3 + len.toNat) : Result Bytes) = .error .panicked :=
    if_neg outside
  simp only [Npdu.decodeOptionalAddress, if_true, Npdu.decodeAddress, if_neg enough, first, second,
    third, read, ok_bind, error_bind]

theorem decodeOptionalAddress_cases (present : Bool) (at_ : Cursor buf pos rest) :
    (∃ e, Npdu.decodeOptionalAddress present buf pos tooShort = fail e) ∨
      (present = true ∧ MacMissing rest) ∨
      ∃ (a : Option LaidOutAddress) (rest' : Bytes),
        a.isSome = present ∧ rest = optionalOctets a ++ rest' := by
  cases present with
  | false => exact .inr (.inr ⟨none, rest, rfl, rfl⟩)
  | true =>
    match rest, at_ with
    | [], at_ | [_], at_ | [_, _], at_ =>
      have bound := at_.length
      simp only [List.length_cons, List.length_nil] at bound
      have short : buf.length < pos + 3 := by omega
      refine .inl ⟨.decodeError tooShort, ?_⟩
      simp only [Npdu.decodeOptionalAddress, if_true, Npdu.decodeAddress, if_pos short, fail_bind]
    | high :: low :: len :: mac, _ =>
      by_cases short : mac.length < len.toNat
      · exact .inr (.inl ⟨rfl, high, low, len, mac, rfl, short⟩)
      · have size : (mac.take len.toNat).length = len.toNat :=
          List.length_take_of_le (Nat.le_of_not_lt short)
        have fits : (mac.take len.toNat).length ≤ 255 := by
          rw [size]
          exact Nat.le_of_lt_succ len.toNat_lt
        refine .inr (.inr ⟨some ⟨⟨ofBe16 high low, mac.take len.toNat⟩, fits⟩, mac.drop len.toNat, rfl, ?_⟩)
        simp only [optionalOctets, addressOctets, toBe16_ofBe16, size, UInt8.ofNat_toNat,
          List.cons_append, List.nil_append, List.take_append_drop]

theorem decodeHopCount_cases (present : Bool) (at_ : Cursor buf pos rest) :
    (∃ e, Npdu.decodeHopCount present buf pos = fail e) ∨
      ∃ (hopCount : Option UInt8) (rest' : Bytes),
        hopCount.isSome = present ∧ rest = hopOctets hopCount ++ rest' := by
  cases present with
  | false => exact .inr ⟨none, rest, rfl, rfl⟩
  | true =>
    cases rest with
    | nil => exact .inl ⟨_, if_pos (Nat.le_of_eq at_.length)⟩
    | cons hops rest => exact .inr ⟨some hops, rest, rfl, rfl⟩

end Cases

theorem exists_zip {α β : Type} : ∀ (a : Option α) (b : Option β), a.isSome = b.isSome →
    ∃ ab : Option (α × β), ab.map Prod.fst = a ∧ ab.map Prod.snd = b
  | none, none, _ => ⟨none, rfl, rfl⟩
  | some a, some b, _ => ⟨some (a, b), rfl, rfl⟩

theorem exists_header {ctrlByte : UInt8} {destination source : Option LaidOutAddress}
    {hopCount : Option UInt8} (apdu : Bytes)
    (destinationFlag : destination.isSome = (Npdu.controlOf ctrlByte).destinationSpecifier)
    (sourceFlag : source.isSome = (Npdu.controlOf ctrlByte).sourceSpecifier)
    (hopFlag : hopCount.isSome = (Npdu.controlOf ctrlByte).destinationSpecifier) :
    ∃ h : NpduHeader, 0x01 :: ctrlByte :: (optionalOctets destination ++ (optionalOctets source ++
      (hopOctets hopCount ++ apdu))) = h.octets ++ apdu := by
  obtain ⟨both, rfl, rfl⟩ := exists_zip destination hopCount (destinationFlag.trans hopFlag.symm)
  have flags := flags_controlOf ctrlByte
  rw [← destinationFlag, ← sourceFlag, Option.isSome_map] at flags
  refine
    ⟨{ networkMessage := (Npdu.controlOf ctrlByte).networkMessage
       expectingReply := (Npdu.controlOf ctrlByte).expectingReply
       priority := ⟨ctrlByte.toNat % 4, Nat.mod_lt _ (by decide)⟩
       reserved := (ctrlByte &&& 0x40 != 0, ctrlByte &&& 0x10 != 0)
       destination := both
       source := source }, ?_⟩
  simp only [octets, controlOctet, flags, List.append_assoc]
  rfl

theorem decode_macCut {b : Bytes} (cut : MacCut b) : Npdu.decode b = .error .panicked := by
  cases cut with
  | destination announced missing =>
    rw [decode_header, announced,
      decodeOptionalAddress_missing _ (behind_control _ _) missing, error_bind]
  | @source ctrlByte destination rest present announced missing =>
    have start := behind_control ctrlByte (optionalOctets destination ++ rest)
    rw [decode_header, ← present, decodeOptionalAddress_octets _ _ start, ok_bind, announced,
      decodeOptionalAddress_missing _ start.advance missing, error_bind]

theorem decode_cases (b : Bytes) :
    (∃ e, Npdu.decode b = fail e) ∨ MacCut b ∨ ∃ (h : NpduHeader) (apdu : Bytes), b = h.octets ++ apdu := by
  match b with
  | [] | [_] => exact .inl ⟨_, rfl⟩
  | version :: ctrlByte :: rest =>
    by_cases known : version = 0x01
    · subst known
      rw [decode_header]
      have start := behind_control ctrlByte rest
      rcases decodeOptionalAddress_cases "NPDU too short for DNET" _ start
        with ⟨e, refused⟩ | ⟨announced, missing⟩ | ⟨destination, rest, destinationFlag, rfl⟩
      · exact .inl ⟨e, by rw [refused, fail_bind]⟩
      · exact .inr (.inl (.destination announced missing))
      rw [← destinationFlag, decodeOptionalAddress_octets _ _ start, ok_bind]
      rcases decodeOptionalAddress_cases "NPDU too short for SNET" _ start.advance
        with ⟨e, refused⟩ | ⟨announced, missing⟩ | ⟨source, rest, sourceFlag, rfl⟩
      · exact .inl ⟨e, by rw [refused, fail_bind]⟩
      · exact .inr (.inl (.source destinationFlag announced missing))
      rw [← sourceFlag, decodeOptionalAddress_octets _ _ start.advance, ok_bind]
      rcases decodeHopCount_cases destination.isSome start.advance.advance
        with ⟨e, refused⟩ | ⟨hopCount, apdu, hopFlag, rfl⟩
      · exact .inl ⟨e, by rw [refused, fail_bind]⟩
      · obtain ⟨h, same⟩ := exists_header apdu destinationFlag sourceFlag
          (hopFlag.trans destinationFlag)
        exact .inr (.inr ⟨h, apdu, same⟩)
    · have long : ¬ rest.length + 1 + 1 < 2 := by omega
      refine .inl ⟨.decodeError s!"unknown NPDU version {hex 2 version}", ?_⟩
      simp [Npdu.decode, index, long, known]

theorem not_cutShort (h : NpduHeader) (apdu : Bytes) : ¬ CutShort (h.octets ++ apdu) := by
  rintro (few | ⟨h', ⟨missing, whole⟩, short⟩)
  · simp only [octets, List.length_append, List.length_cons] at few
    omega
  · have first := decode_octets h' []
    rw [List.append_nil, ← whole, List.append_assoc, decode_octets] at first
    have same : apdu ++ missing = [] := congrArg Npdu.apdu (Except.ok.inj first)
    rw [(List.append_eq_nil_iff.mp same).2, List.append_nil] at whole
    rw [whole] at short
    exact Nat.lt_irrefl _ short

/-- The decoder is total on every datagram but those in which octets of a MAC address are
missing. -/
theorem decode_total_iff (b : Bytes) : TotalOn b ↔ ¬ MacCut b := by
  constructor
  · intro total cut
    exact total.1 (decode_macCut cut)
  · intro notCut
    rcases decode_cases b with ⟨e, refused⟩ | cut | ⟨h, apdu, rfl⟩
    · rw [TotalOn, refused]
      exact ⟨safe_fail e, fun _ => ⟨e, rfl⟩⟩
    · exact absurd cut notCut
    · rw [TotalOn, decode_octets]
      exact ⟨safe_ok _, fun short => absurd short (not_cutShort h apdu)⟩

theorem macOctets_missing : ¬ ∀ b, TotalOn b := by
  intro claim
  exact (claim [0x01, 0x20, 0x00, 0x01, 0x05]).1 rfl

end NpduHeader

end BacnetSim
