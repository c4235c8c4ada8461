import BacnetSim.Codec.PduRoundTrip
import BacnetSim.Stack.Sessions
import Mathlib.Data.List.Dedup

/-! Who-Is discovery, from the octets of the request to those of the I-Am frames that
answer it. -/
namespace BacnetSim
open Rust Octets Tags

def InLimits (low high : Option UInt32) (id : UInt32) : Prop :=
  ∀ lo ∈ low, ∀ hi ∈ high, lo ≤ id ∧ id ≤ hi

theorem inLimits_pair (lo hi id : UInt32) :
    InLimits (some lo) (some hi) id ↔ lo ≤ id ∧ id ≤ hi := by
  constructor
  · exact fun limits => limits lo rfl hi rfl
  · rintro both _ ⟨⟩ _ ⟨⟩
    exact both

theorem inLimits_none_left (high : Option UInt32) (id : UInt32) : InLimits none high id := by
  rintro _ ⟨⟩

theorem inLimits_none_right (low : Option UInt32) (id : UInt32) : InLimits low none id := by
  rintro _ _ _ ⟨⟩

instance (low high : Option UInt32) (id : UInt32) : Decidable (InLimits low high id) :=
  match low, high with
  | some lo, some hi => decidable_of_iff _ (inLimits_pair lo hi id).symm
  | none, high => .isTrue (inLimits_none_left high id)
  | some lo, none => .isTrue (inLimits_none_right (some lo) id)

theorem encode_whoIs (low high : Option UInt32) :
    ∃ low' high', (UnconfirmedRequest.whoIs ⟨low, high⟩).encode = whoIsOctets low' high' ∧
      ∀ id, InLimits low' high' id ↔ InLimits low high id := by
  cases low with
  | none =>
    refine ⟨none, none, rfl, fun id => ?_⟩
    exact iff_of_true (inLimits_none_left none id) (inLimits_none_left high id)
  | some lo =>
    cases high with
    | none =>
      refine ⟨none, none, rfl, fun id => ?_⟩
      exact iff_of_true (inLimits_none_left none id) (inLimits_none_right (some lo) id)
    | some hi => exact ⟨some lo, some hi, rfl, fun id => Iff.rfl⟩

theorem handleWhoIs_eq (low high : Option UInt32) (device : DeviceId) (maxApdu vendorId : UInt16) :
    handleWhoIs low high device maxApdu vendorId =
      if InLimits low high device.id then
        some (.iAm ⟨device.id, maxApdu, .noSegmentation, vendorId⟩)
      else none := by
  cases low with
  | none => exact (if_pos (inLimits_none_left high device.id)).symm
  | some lo =>
    cases high with
    | none => exact (if_pos (inLimits_none_right (some lo) device.id)).symm
    | some hi => simp [handleWhoIs, inLimits_pair]

def OutboundFrame.announced (frame : OutboundFrame) : Option (Destination × UInt32) :=
  match Npdu.decode frame.npdu with
  | .ok npdu =>
    match UnconfirmedRequest.decode npdu.apdu with
    | .ok (.iAm i) => some (frame.dst, i.deviceInstance)
    | _ => none
  | .error _ => none

/-- A broadcast and a unicast to `src` for each device within the limits. -/
def announcements (src : NetworkAddress) (low high : Option UInt32) (ids : List UInt32) :
    List (Option (Destination × UInt32)) :=
  (ids.filter (InLimits low high)).flatMap fun id =>
    [some (.broadcast 0, id), some (.unicast src, id)]

theorem announcements_within (src : NetworkAddress) {low high : Option UInt32} {id : UInt32}
    (within : InLimits low high id) :
    announcements src low high [id] = [some (.broadcast 0, id), some (.unicast src, id)] := by
  simp [announcements, within]

theorem announcements_beyond (src : NetworkAddress) {low high : Option UInt32} {id : UInt32}
    (beyond : ¬ InLimits low high id) : announcements src low high [id] = [] := by
  simp [announcements, beyond]

theorem announcements_cons (src : NetworkAddress) (low high : Option UInt32) (id : UInt32)
    (ids : List UInt32) :
    announcements src low high (id :: ids) =
      announcements src low high [id] ++ announcements src low high ids := by
  rw [announcements, ← List.singleton_append, List.filter_append, List.flatMap_append]
  rfl

theorem announcements_perm (src : NetworkAddress) (low high : Option UInt32) {ids ids' : List UInt32}
    (same : ids.Perm ids') :
    (announcements src low high ids).Perm (announcements src low high ids') :=
  (same.filter _).flatMap_right _

theorem announcements_congr (src : NetworkAddress) {low high low' high' : Option UInt32}
    (same : ∀ id, InLimits low' high' id ↔ InLimits low high id) (ids : List UInt32) :
    announcements src low' high' ids = announcements src low high ids := by
  have kept : ∀ id ∈ ids, decide (InLimits low' high' id) = decide (InLimits low high id) :=
    fun id _ => decide_eq_decide.mpr (same id)
  rw [announcements, List.filter_congr kept]
  rfl

def iAmFrames (src : NetworkAddress) : Option UnconfirmedRequest → List OutboundFrame
  | some iam =>
    [⟨.broadcast 0, Npdu.encodeLocal false iam.encode⟩,
      ⟨.unicast src, Npdu.encodeLocal false iam.encode⟩]
  | none => []

theorem announced_iAm (dst : Destination) {i : IAmRequest} (narrow : Is22Bit i.deviceInstance) :
    OutboundFrame.announced ⟨dst, Npdu.encodeLocal false (UnconfirmedRequest.iAm i).encode⟩ =
      some (dst, i.deviceInstance) := by
  simp only [OutboundFrame.announced, Npdu.decode_encodeLocal, Pdu.decode_encode_iAm narrow]

theorem announced_iAmFrames (src : NetworkAddress) (low high : Option UInt32) {dev : DeviceInfo}
    (narrow : Is22Bit dev.deviceId.id) :
    (iAmFrames src (handleWhoIs low high dev.deviceId dev.maxApdu dev.vendorId)).map
        OutboundFrame.announced =
      announcements src low high [dev.deviceId.id] := by
  rw [handleWhoIs_eq]
  by_cases within : InLimits low high dev.deviceId.id
  · have iAm : Is22Bit (IAmRequest.mk dev.deviceId.id dev.maxApdu .noSegmentation
      dev.vendorId).deviceInstance := narrow
    rw [if_pos within, announcements_within src within]
    simp only [iAmFrames, List.map_cons, List.map_nil, announced_iAm _ iAm]
  · rw [if_neg within, announcements_beyond src within]
    rfl

namespace ApduDispatcher
variable {Obj : Type}

/-- The loop over the registry, in its own order. -/
theorem handleUnconfirmed_whoIs (d : ApduDispatcher Obj)
    (narrow : ∀ dev ∈ d.devices.values, Is22Bit dev.deviceId.id) (low high : Option UInt32)
    (src : NetworkAddress) :
    (d.handleUnconfirmed (.whoIs ⟨low, high⟩) src).sent.map OutboundFrame.announced =
      announcements src low high (d.devices.values.map (·.deviceId.id)) := by
  have frames : (d.handleUnconfirmed (.whoIs ⟨low, high⟩) src).sent = d.devices.values.flatMap
      fun dev => iAmFrames src (handleWhoIs low high dev.deviceId dev.maxApdu dev.vendorId) := rfl
  rw [frames]
  revert narrow
  generalize d.devices.values = devices
  intro narrow
  induction devices with
  | nil => rfl
  | cons dev devices ih =>
    have first := announced_iAmFrames src low high (narrow dev List.mem_cons_self)
    have rest := ih fun dev mem => narrow dev (List.mem_cons_of_mem _ mem)
    rw [List.flatMap_cons, List.map_append, first, rest, List.map_cons]
    exact (announcements_cons src low high _ _).symm

variable [BacnetObject Obj] (hash : Hasher)

theorem handleFrame_unconfirmed (now : Clock) (d : ApduDispatcher Obj) (src : NetworkAddress)
    (expectingReply : Bool) {service : UInt8} {body : Bytes} {req : UnconfirmedRequest}
    (request : UnconfirmedRequest.decode (0x10 :: service :: body) = .ok req) :
    d.handleFrame hash now ⟨src, Npdu.encodeLocal expectingReply (0x10 :: service :: body)⟩ =
      d.handleUnconfirmed req src := by
  have type : ¬ ((0x10 : UInt8) &&& 0xF0 = 0x00) := by decide
  have unconfirmed : (0x10 : UInt8) &&& 0xF0 = 0x10 := by decide
  simp only [handleFrame, Npdu.decode_encodeLocal, Bool.false_eq_true, if_false, if_neg type,
    if_pos unconfirmed, request, onDecoded]

end ApduDispatcher

namespace System

theorem values_ids {devices : HashMap UInt32 DeviceInfo} (filed : Filed devices) :
    devices.values.map (·.deviceId.id) = devices.keys := by
  unfold HashMap.values
  rw [List.map_map]
  exact List.map_congr_left filed

theorem ids_perm {regs : List DeviceInfo} {devices : HashMap UInt32 DeviceInfo}
    (arranged : devices.entries.Perm (registry regs).entries) :
    (devices.values.map (·.deviceId.id)).Perm (regs.map (·.deviceId.id)).dedup := by
  have filed : Filed devices := fun entry mem => filed_registry regs entry (arranged.subset mem)
  have once : devices.keys.Nodup := devices.nodupKeys
  rw [values_ids filed, List.perm_ext_iff_of_nodup once (List.nodup_dedup _)]
  intro id
  have same : id ∈ devices.keys ↔ id ∈ (registry regs).keys := (arranged.map Sigma.fst).mem_iff
  rw [same, List.mem_dedup, ← AList.mem_keys, registry, ApduDispatcher.mem_registerAll]
  exact or_iff_right (AList.notMem_empty id)

end System

theorem handleFrame_whoIsOctets {Obj : Type} [BacnetObject Obj] (hash : Hasher) (now : Clock)
    {regs : List DeviceInfo} (narrow : ∀ info ∈ regs, Is22Bit info.deviceId.id)
    {d : ApduDispatcher Obj} (arranged : d.devices.entries.Perm (System.registry regs).entries)
    (src : NetworkAddress) (expectingReply : Bool) (low high : Option UInt32) :
    let handled := d.handleFrame hash now ⟨src, Npdu.encodeLocal expectingReply (whoIsOctets low high)⟩
    handled.result = .ok () ∧ handled.dispatcher = d ∧
      (handled.sent.map OutboundFrame.announced).Perm
        (announcements src low high (regs.map (·.deviceId.id)).dedup) := by
  have ids := System.ids_perm arranged
  have known : ∀ dev ∈ d.devices.values, Is22Bit dev.deviceId.id := by
    intro dev mem
    have listed := ids.subset (List.mem_map_of_mem mem)
    obtain ⟨info, registered, same⟩ := List.mem_map.mp (List.mem_dedup.mp listed)
    rw [← same]
    exact narrow info registered
  intro handled
  have whole : handled = d.handleUnconfirmed (.whoIs ⟨low, high⟩) src :=
    d.handleFrame_unconfirmed hash now src expectingReply (decode_whoIsOctets low high)
  rw [whole, d.handleUnconfirmed_whoIs known]
  exact ⟨rfl, rfl, announcements_perm src low high ids⟩

/-- What a Who-Is sends, as a receiver reads it: for each device registered and within the
limits a broadcast and a unicast to the source, and nothing else. The registry has its own
order, and the store and the sessions are whatever earlier frames left. With one limit
alone it makes no difference whether the request carries it. -/
theorem whoIs_discovers {Obj : Type} [BacnetObject Obj] (hash : Hasher) (now : Clock)
    {regs : List DeviceInfo} (narrow : ∀ info ∈ regs, Is22Bit info.deviceId.id)
    {d : ApduDispatcher Obj} (arranged : d.devices.entries.Perm (System.registry regs).entries)
    (src : NetworkAddress) (expectingReply : Bool) {low high : Option UInt32} {apdu : Bytes}
    (request : apdu = whoIsOctets low high ∨ apdu = (UnconfirmedRequest.whoIs ⟨low, high⟩).encode) :
    let handled := d.handleFrame hash now ⟨src, Npdu.encodeLocal expectingReply apdu⟩
    handled.result = .ok () ∧ handled.dispatcher = d ∧
      (handled.sent.map OutboundFrame.announced).Perm
        (announcements src low high (regs.map (·.deviceId.id)).dedup) := by
  rcases request with rfl | rfl
  · exact handleFrame_whoIsOctets hash now narrow arranged src expectingReply low high
  · obtain ⟨low', high', written, same⟩ := encode_whoIs low high
    rw [written, ← announcements_congr src same]
    exact handleFrame_whoIsOctets hash now narrow arranged src expectingReply low' high'

def twoDevices : ApduDispatcher DeviceObject :=
  twoRegistered.foldl ApduDispatcher.registerDevice (.new .new)

theorem second_device_discovered :
    ((twoDevices.handleFrame (fun _ _ => 0) (fun _ _ => ⟨⟨0⟩, ⟨0⟩⟩)
        ⟨client 9, Npdu.encodeLocal true (whoIsOctets (some 2) (some 70000))⟩).sent.map
      OutboundFrame.announced).Perm
      [some (.broadcast 0, 2), some (.unicast (client 9), 2)] := by
  have narrow : ∀ info ∈ twoRegistered, Is22Bit info.deviceId.id := by decide
  have answers : announcements (client 9) (some 2) (some 70000)
      (twoRegistered.map (·.deviceId.id)).dedup =
      [some (.broadcast 0, 2), some (.unicast (client 9), 2)] := by decide
  rw [← answers]
  exact (whoIs_discovers (fun _ _ => 0) (fun _ _ => ⟨⟨0⟩, ⟨0⟩⟩) narrow (d := twoDevices) (.refl _)
    (client 9) true (.inl rfl)).2.2

end BacnetSim
