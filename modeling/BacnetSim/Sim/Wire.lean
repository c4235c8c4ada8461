import BacnetSim.Sim.Inventory
import BacnetSim.Stack.Sessions

/-! Reading a configured device over the wire. -/
namespace BacnetSim
open Rust Octets Tags

def readDeviceRequest (sizes invokeId : UInt8) (id : UInt32) : Bytes :=
  [0x00, sizes, invokeId, 12] ++ (encodeCtxObjectId 0 ⟨.device, id⟩ ++
    encodeCtxU32 1 PropertyIdentifier.objectIdentifier.toU32)

def readDeviceIdFrame (src : NetworkAddress) (expectingReply : Bool) (sizes invokeId : UInt8)
    (id : UInt32) : InboundFrame :=
  ⟨src, Npdu.encodeLocal expectingReply (readDeviceRequest sizes invokeId id)⟩

def deviceIdReply (src : NetworkAddress) (invokeId : UInt8) (id : UInt32) (value : ObjectId) :
    OutboundFrame :=
  ⟨.unicast src, Npdu.encodeLocal false (ComplexAck.encode ⟨invokeId, .readProperty
    ⟨⟨.device, id⟩, .objectIdentifier, none, .objectId value⟩⟩)⟩

def readDevicePdu (sizes invokeId : UInt8) (id : UInt32) : ReadPropertyPdu where
  invokeId := invokeId
  flags := 0x00
  sizes := sizes
  object := (false, rawOfObjectId ⟨.device, id⟩)
  property := (false, uintContent PropertyIdentifier.objectIdentifier.toU32)
  arrayIndex := none

theorem readDevicePdu_octets (sizes invokeId : UInt8) (id : UInt32) :
    (readDevicePdu sizes invokeId id).octets = readDeviceRequest sizes invokeId id := by
  rw [readDeviceRequest, encodeCtxObjectId_eq, encodeCtxU32_eq]
  simp [ReadPropertyPdu.octets, ReadPropertyPdu.body, readDevicePdu]

theorem readDevicePdu_wellFormed (sizes invokeId : UInt8) (id : UInt32) :
    (readDevicePdu sizes invokeId id).WellFormed where
  confirmed := by simp [readDevicePdu]
  property := (uintContent_length _).2.2
  arrayIndex i mem := by cases mem

theorem readDevicePdu_request (sizes invokeId : UInt8) {id : UInt32} (narrow : Is22Bit id) :
    (readDevicePdu sizes invokeId id).request = ⟨⟨.device, id⟩, .objectIdentifier, none⟩ := by
  have known : ReadsBackId ⟨.device, id⟩ := ⟨(by decide : ObjectType.device.IsKnown), narrow⟩
  simp only [ReadPropertyPdu.request, ReadPropertyPdu.propertyNumber, ReadPropertyPdu.index,
    readDevicePdu, objectIdOfRaw_of_known known, ofBe32_uintContent]
  rfl

theorem readProperty_objectIdentifier (now : Now) (o : Object) (arrayIndex : Option UInt32) :
    BacnetObject.readProperty now o .objectIdentifier arrayIndex =
      .ok (.objectId (BacnetObject.objectId o)) := by
  cases o <;> rfl

theorem handleReadProperty_objectIdentifier (hash : Hasher) (now : Now) {store : ObjectStore Object}
    {device : DeviceId} {oid : ObjectId} {o : Object}
    (found : store.lookup hash device oid = some o) :
    handleReadProperty hash now ⟨oid, .objectIdentifier, none⟩ store device =
      .ok ⟨0, .readProperty ⟨oid, .objectIdentifier, none, .objectId (BacnetObject.objectId o)⟩⟩ := by
  have present : store.get hash device oid = some (shardKey hash device oid) := by
    rw [ObjectStore.get_eq, found]
    rfl
  simp only [handleReadProperty, present, okOr_some, ok_bind, ObjectRef.readProperty,
    ObjectStore.object_shardKey hash found, readProperty_objectIdentifier]
  rfl

theorem handleFrame_deviceId (hash : Hasher) (now : Clock) {d : ApduDispatcher Object} {id : UInt32}
    (narrow : Is22Bit id) (registered : id ∈ d.devices) {o : Object}
    (found : d.store.lookup hash ⟨id⟩ ⟨.device, id⟩ = some o) (src : NetworkAddress)
    (expectingReply : Bool) (sizes invokeId : UInt8) :
    (d.handleFrame hash now (readDeviceIdFrame src expectingReply sizes invokeId id)).sent =
      [deviceIdReply src invokeId id (BacnetObject.objectId o)] := by
  have header := Npdu.decode_encodeLocal expectingReply (readDeviceRequest sizes invokeId id)
  rw [ApduDispatcher.handleFrame_octets hash now d _ header rfl
    (readDevicePdu_wellFormed sizes invokeId id) (readDevicePdu_octets sizes invokeId id).symm]
  have service : (readDevicePdu sizes invokeId id).confirmedRequest.service =
      .readProperty ⟨⟨.device, id⟩, .objectIdentifier, none⟩ :=
    congrArg ConfirmedServiceRequest.readProperty (readDevicePdu_request sizes invokeId narrow)
  have primary : (readDevicePdu sizes invokeId id).confirmedRequest.service.primaryObject =
      some ⟨.device, id⟩ := by rw [service]; rfl
  have resolved : d.resolveDevice (readDevicePdu sizes invokeId id).confirmedRequest src =
      (.ok ⟨id⟩, { d with sourceDeviceMap := AList.insert src ⟨id⟩ d.sourceDeviceMap }) :=
    (d.resolveDevice_primary primary src).trans
      (ApduDispatcher.resolveTarget_registered d (show ObjectId.objectType ⟨.device, id⟩ = .device from rfl)
        registered src)
  have read := handleReadProperty_objectIdentifier hash (now 0 0) found
  change (d.handleConfirmed hash now _ src).sent = _
  simp only [ApduDispatcher.handleConfirmed, resolved, ApduDispatcher.serve, service, read, replyTo]
  rfl

section Configured
variable (lowercase : String → String) {now : Nat → Now} {hash : Hasher} {config : SimulatorConfig}
  {dispatcher : ApduDispatcher Object} {id : UInt32} {profile : ProfileConfig}

def SimulatorConfig.profileOf (config : SimulatorConfig) (id : UInt32) : Option ProfileConfig :=
  config.devices.reverse.findSome? fun group =>
    if id ∈ rangeInclusive group.idRange.1 group.idRange.2 then
      AList.lookup group.profile config.profiles
    else none

/-- The last object of a profile that is stored under the key of the Device object. -/
def shadowOf (profile : ProfileConfig) (id : UInt32) : Option ObjectId :=
  (profileIds lowercase profile).reverse.find? fun oid => objectKey oid = objectKey ⟨.device, id⟩

theorem profileOf_isSome {group : DeviceGroupConfig} (member : group ∈ config.devices)
    (within : id ∈ rangeInclusive group.idRange.1 group.idRange.2)
    (known : AList.lookup group.profile config.profiles = some profile) :
    ∃ last, config.profileOf id = some last := by
  rw [← Option.isSome_iff_exists, SimulatorConfig.profileOf, List.findSome?_isSome_iff]
  exact ⟨group, List.mem_reverse.mpr member, by rw [if_pos within, known]; rfl⟩

theorem configuredDevices_split (last : config.profileOf id = some profile) :
    ∃ before after, configuredDevices config = before ++ (id, profile) :: after ∧
      ∀ device ∈ after, device.1 ≠ id := by
  obtain ⟨later, group, earlier, groups, found, none_⟩ := List.findSome?_eq_some_iff.mp last
  obtain ⟨within, known⟩ : id ∈ rangeInclusive group.idRange.1 group.idRange.2 ∧
      AList.lookup group.profile config.profiles = some profile := by
    split at found
    · rename_i within
      exact ⟨within, found⟩
    · cases found
  obtain ⟨low, high, range⟩ := List.append_of_mem within
  have fresh : id ∉ high := by
    have nodup := rangeInclusive_nodup group.idRange.1 group.idRange.2
    rw [range] at nodup
    exact (List.nodup_cons.mp (List.nodup_append.mp nodup).2.1).1
  have own : groupDevices config group =
      low.map (·, profile) ++ (id, profile) :: high.map (·, profile) := by
    simp only [groupDevices, known, range, List.map_append, List.map_cons]
  have devices : config.devices = earlier.reverse ++ group :: later.reverse := by
    have reversed := congrArg List.reverse groups
    rwa [List.reverse_reverse, List.reverse_append, List.reverse_cons, List.append_assoc,
      List.singleton_append] at reversed
  refine ⟨earlier.reverse.flatMap (groupDevices config) ++ low.map (·, profile),
    high.map (·, profile) ++ later.reverse.flatMap (groupDevices config), ?_, ?_⟩
  · rw [configuredDevices, devices, List.flatMap_append, List.flatMap_cons, own]
    simp only [List.append_assoc, List.cons_append]
  · intro device mem same
    rcases List.mem_append.mp mem with inHigh | inLater
    · obtain ⟨id', there, rfl⟩ := List.mem_map.mp inHigh
      exact fresh (same ▸ there)
    · obtain ⟨group', there, built⟩ := List.mem_flatMap.mp inLater
      obtain ⟨known', within'⟩ := mem_groupDevices.mp (show (device.1, device.2) ∈ _ from built)
      have skipped := none_ group' (List.mem_reverse.mp there)
      rw [same] at within'
      rw [if_pos within', known'] at skipped
      cases skipped

variable {lowercase}

theorem find_deviceKey (hash : Hasher) (last : config.profileOf id = some profile) :
    (configuredKeys lowercase config).reverse.find?
        (fun key => shardKey hash key.1 key.2 = shardKey hash ⟨id⟩ ⟨.device, id⟩) =
      some (⟨id⟩, (shadowOf lowercase profile id).getD ⟨.device, id⟩) := by
  obtain ⟨before, after, devices, others⟩ := configuredDevices_split last
  have behind : (after.flatMap fun device =>
      (objectListOf lowercase device.2 device.1).map fun oid =>
        ((⟨device.1⟩, oid) : DeviceId × ObjectId)).reverse.find?
      (fun key => shardKey hash key.1 key.2 = shardKey hash ⟨id⟩ ⟨.device, id⟩) = none := by
    rw [List.find?_eq_none]
    intro key mem same
    obtain ⟨device, built, inList⟩ := List.mem_flatMap.mp (List.mem_reverse.mp mem)
    obtain ⟨oid, _, rfl⟩ := List.mem_map.mp inList
    rw [decide_eq_true_eq] at same
    exact others device built (DeviceId.mk.inj (shardKey_eq_iff.mp same).1)
  have own : ((profileIds lowercase profile).map fun oid =>
      ((⟨id⟩, oid) : DeviceId × ObjectId)).reverse.find?
      (fun key => shardKey hash key.1 key.2 = shardKey hash ⟨id⟩ ⟨.device, id⟩) =
      (shadowOf lowercase profile id).map fun oid => (⟨id⟩, oid) := by
    rw [← List.map_reverse, List.find?_map, shadowOf]
    simp only [Function.comp_def, shardKey_eq_iff, true_and]
  rw [configuredKeys, devices, List.flatMap_append, List.flatMap_cons, objectListOf_eq, List.map_cons,
    List.reverse_append, List.reverse_append, List.reverse_cons, List.find?_append, List.find?_append,
    List.find?_append, behind, own, Option.none_or]
  cases shadowOf lowercase profile id with
  | none => simp
  | some oid => rfl

theorem lookup_deviceId (last : config.profileOf id = some profile) :
    ∃ o, (buildSimulation lowercase now hash config dispatcher).store.lookup hash ⟨id⟩
        ⟨.device, id⟩ = some o ∧
      BacnetObject.objectId o = (shadowOf lowercase profile id).getD ⟨.device, id⟩ := by
  have keys : ((batchOf lowercase now config dispatcher).reverse.find? fun entry =>
      shardKey hash entry.1 (BacnetObject.objectId entry.2) =
        shardKey hash ⟨id⟩ ⟨.device, id⟩).map keyOf =
      some (⟨id⟩, (shadowOf lowercase profile id).getD ⟨.device, id⟩) := by
    have found : (configuredKeys lowercase config).reverse.find? _ = _ := find_deviceKey hash last
    have batch : (batchOf lowercase now config dispatcher).map keyOf = _ := batchOf_keys
    rw [← batch, ← List.map_reverse, List.find?_map] at found
    exact found
  obtain ⟨entry, found, key⟩ := Option.map_eq_some_iff.mp keys
  refine ⟨entry.2, ?_, (Prod.mk.inj key).2⟩
  rw [buildSimulation_eq, ObjectStore.lookup_bulkInsert, found]
  rfl

theorem low_bits_clear : ∀ c : Fin 9, (∀ i : Fin 3, (c : Nat).testBit i = false) →
    (c : Nat) = 0 ∨ (c : Nat) = 8 := by decide

/-- Instances are not masked in a key, so a long instance reaches into the type. For the
key of a Device only an Analog Input, type 0, can do so. -/
theorem objectKey_eq_device {oid : ObjectId} (narrow : Is22Bit id)
    (other : oid.objectType ≠ .device) :
    objectKey oid = objectKey ⟨.device, id⟩ ↔
      oid.objectType = .analogInput ∧ oid.instanceNumber.toNat = 2 ^ 25 + id.toNat := by
  have device : (objectKey ⟨.device, id⟩).toNat = 8 * 2 ^ 22 + id.toNat := objectKey_of_narrow narrow
  have small : id.toNat < 2 ^ 22 := narrow
  rw [← UInt64.toNat_inj, device, objectKey_toNat]
  constructor
  · intro same
    have bound : oid.objectType.code * 2 ^ 22 ≤ 8 * 2 ^ 22 + id.toNat := same ▸ Nat.left_le_or
    have types : oid.objectType.code ||| oid.instanceNumber.toNat >>> 22 = 8 := by
      have shifted := congrArg (· >>> 22) same
      simp only [Nat.shiftRight_or_distrib] at shifted
      rw [Nat.shiftRight_eq_div_pow, Nat.shiftRight_eq_div_pow (8 * 2 ^ 22 + id.toNat)] at shifted
      rw [Nat.mul_div_cancel _ (by decide)] at shifted
      omega
    have eight : ∀ i : Fin 3, Nat.testBit 8 i = false := by decide
    have clear : ∀ i : Fin 3, oid.objectType.code.testBit i = false := by
      intro i
      have bits := congrArg (·.testBit i) types
      simp only [Nat.testBit_or] at bits
      rw [eight, Bool.or_eq_false_iff] at bits
      exact bits.1
    rcases low_bits_clear ⟨oid.objectType.code, by omega⟩ clear with zero | eight
    · have type : oid.objectType = .analogInput := ObjectType.code_injective zero
      refine ⟨type, ?_⟩
      have code : oid.objectType.code = 0 := zero
      rw [code, Nat.zero_mul, Nat.zero_or] at same
      omega
    · exact absurd (ObjectType.code_injective (u := .device) eight) other
  · rintro ⟨type, number⟩
    have code : oid.objectType.code = 0 := by rw [type]; rfl
    rw [code, Nat.zero_mul, Nat.zero_or, number]
    omega

def ProfileConfig.ClearOf (lowercase : String → String) (profile : ProfileConfig) (id : UInt32) :
    Prop :=
  ∀ objCfg ∈ profile.objects, parseObjectType lowercase objCfg.objectType = some .analogInput →
    objCfg.count.toNat < 2 ^ 25 + id.toNat

instance (lowercase : String → String) (profile : ProfileConfig) (id : UInt32) :
    Decidable (profile.ClearOf lowercase id) := inferInstanceAs (Decidable (∀ _ ∈ _, _))

theorem shadowOf_of_clear (narrow : Is22Bit id) (clear : profile.ClearOf lowercase id) :
    shadowOf lowercase profile id = none := by
  apply List.find?_eq_none.mpr
  intro oid mem same
  rw [List.mem_reverse] at mem
  rw [decide_eq_true_eq, objectKey_eq_device narrow (profileIds_ne_device mem)] at same
  obtain ⟨objCfg, member, entry⟩ := mem_profileIds.mp mem
  obtain ⟨parsed, _, upper⟩ := mem_entryIds.mp entry
  rw [same.1] at parsed
  have bound := clear objCfg member parsed
  omega

theorem shadowOf_of_not_clear (narrow : Is22Bit id) (shadowed : ¬ profile.ClearOf lowercase id) :
    shadowOf lowercase profile id = some ⟨.analogInput, UInt32.ofNat (2 ^ 25 + id.toNat)⟩ := by
  simp only [ProfileConfig.ClearOf, not_forall, Nat.not_lt] at shadowed
  obtain ⟨objCfg, member, parsed, long⟩ := shadowed
  have top := objCfg.count.toNat_lt
  have number : (UInt32.ofNat (2 ^ 25 + id.toNat)).toNat = 2 ^ 25 + id.toNat := by
    rw [UInt32.toNat_ofNat', Nat.mod_eq_of_lt (by omega)]
  have built : (⟨.analogInput, UInt32.ofNat (2 ^ 25 + id.toNat)⟩ : ObjectId) ∈
      profileIds lowercase profile := by
    refine mem_profileIds.mpr ⟨objCfg, member, mem_entryIds.mpr ⟨parsed, ?_⟩⟩
    rw [number]
    omega
  have key := (objectKey_eq_device narrow (profileIds_ne_device built)).mpr ⟨rfl, number⟩
  cases found : shadowOf lowercase profile id with
  | none =>
    have differs := List.find?_eq_none.mp found _ (List.mem_reverse.mpr built)
    exact absurd (decide_eq_true key) differs
  | some oid =>
    have mem := List.mem_reverse.mp (List.mem_of_find?_eq_some found)
    have same := List.find?_some found
    rw [decide_eq_true_eq, objectKey_eq_device narrow (profileIds_ne_device mem)] at same
    obtain ⟨type, n⟩ := oid
    obtain ⟨rfl, numbered⟩ := same
    have numbers : n = UInt32.ofNat (2 ^ 25 + id.toNat) :=
      UInt32.toNat_inj.mp (numbered.trans number.symm)
    rw [numbers]

/-- A configured device with a 22-bit id answers with the id of what is stored last under
its key. -/
theorem configured_device_reply {group : DeviceGroupConfig} (member : group ∈ config.devices)
    (within : id ∈ rangeInclusive group.idRange.1 group.idRange.2)
    (known : AList.lookup group.profile config.profiles = some profile) (narrow : Is22Bit id)
    (clock : Clock) (src : NetworkAddress) (expectingReply : Bool) (sizes invokeId : UInt8) :
    ∃ last, config.profileOf id = some last ∧
      ((buildSimulation lowercase now hash config dispatcher).handleFrame hash clock
          (readDeviceIdFrame src expectingReply sizes invokeId id)).sent =
        [deviceIdReply src invokeId id ((shadowOf lowercase last id).getD ⟨.device, id⟩)] := by
  obtain ⟨last, building⟩ := profileOf_isSome member within known
  obtain ⟨o, found, answer⟩ : ∃ o, (buildSimulation lowercase now hash config dispatcher).store.lookup
      hash ⟨id⟩ ⟨.device, id⟩ = some o ∧ _ := lookup_deviceId building
  have registered : id ∈ (buildSimulation lowercase now hash config dispatcher).devices := by
    rw [buildSimulation_eq, registered_iff]
    exact .inr (List.mem_map_of_mem (mem_configuredDevices.mpr ⟨group, member, known, within⟩))
  refine ⟨last, building, ?_⟩
  rw [← answer]
  exact handleFrame_deviceId hash clock narrow registered found src expectingReply sizes invokeId

/-- When an Analog Input is stored in its place, that is what answers. -/
theorem shadowed_device_answers {group : DeviceGroupConfig} (member : group ∈ config.devices)
    (within : id ∈ rangeInclusive group.idRange.1 group.idRange.2)
    (known : AList.lookup group.profile config.profiles = some profile) (narrow : Is22Bit id)
    (shadowed : ∀ last, config.profileOf id = some last → ¬ last.ClearOf lowercase id) (clock : Clock)
    (src : NetworkAddress) (expectingReply : Bool) (sizes invokeId : UInt8) :
    ((buildSimulation lowercase now hash config dispatcher).handleFrame hash clock
        (readDeviceIdFrame src expectingReply sizes invokeId id)).sent =
      [deviceIdReply src invokeId id ⟨.analogInput, UInt32.ofNat (2 ^ 25 + id.toNat)⟩] := by
  obtain ⟨last, building, reply⟩ : ∃ last, config.profileOf id = some last ∧
      ((buildSimulation lowercase now hash config dispatcher).handleFrame hash clock
        (readDeviceIdFrame src expectingReply sizes invokeId id)).sent = _ :=
    configured_device_reply member within known narrow clock src expectingReply sizes invokeId
  rw [reply, shadowOf_of_not_clear narrow (shadowed last building), Option.getD_some]

theorem configured_device_answers {group : DeviceGroupConfig} (member : group ∈ config.devices)
    (within : id ∈ rangeInclusive group.idRange.1 group.idRange.2)
    (known : AList.lookup group.profile config.profiles = some profile) (narrow : Is22Bit id)
    (clear : ∀ last, config.profileOf id = some last → last.ClearOf lowercase id) (clock : Clock)
    (src : NetworkAddress) (expectingReply : Bool) (sizes invokeId : UInt8) :
    ((buildSimulation lowercase now hash config dispatcher).handleFrame hash clock
        (readDeviceIdFrame src expectingReply sizes invokeId id)).sent =
      [deviceIdReply src invokeId id ⟨.device, id⟩] := by
  obtain ⟨last, building, reply⟩ : ∃ last, config.profileOf id = some last ∧
      ((buildSimulation lowercase now hash config dispatcher).handleFrame hash clock
        (readDeviceIdFrame src expectingReply sizes invokeId id)).sent = _ :=
    configured_device_reply member within known narrow clock src expectingReply sizes invokeId
  rw [reply, shadowOf_of_clear narrow (clear last building), Option.getD_none]

end Configured

theorem office_device_answers :
    (builtOffice.handleFrame (fun _ _ => 0) (fun _ _ => ⟨⟨0⟩, ⟨0⟩⟩)
        (readDeviceIdFrame someClient true 4 9 2)).sent =
      [deviceIdReply someClient 9 2 ⟨.device, 2⟩] := by
  refine configured_device_answers List.mem_cons_self (by decide) (AList.lookup_insert _) (by decide)
    (fun last building => ?_) _ _ _ _ _
  have office_last : officeConfig.profileOf 2 = some office := rfl
  obtain rfl := Option.some.inj (office_last.symm.trans building)
  decide

def wideConfig : SimulatorConfig := oneGroup 0x400000 0x400000 "bare" ⟨[]⟩

/-- The wire carries its id as 0, which is not registered. -/
theorem wide_device_unanswered :
    ¬ ∀ (config : SimulatorConfig) (group : DeviceGroupConfig) (device : UInt32)
      (profile : ProfileConfig), group ∈ config.devices →
      device ∈ rangeInclusive group.idRange.1 group.idRange.2 →
      AList.lookup group.profile config.profiles = some profile →
      ((buildSimulation id (fun _ => ⟨⟨0⟩, ⟨0⟩⟩) (fun _ _ => 0) config (.new .new)).handleFrame
          (fun _ _ => 0) (fun _ _ => ⟨⟨0⟩, ⟨0⟩⟩) (readDeviceIdFrame someClient true 4 9 device)).sent =
        [deviceIdReply someClient 9 device ⟨.device, device⟩] := by
  intro claim
  have answered := claim wideConfig ⟨(0x400000, 0x400000), "bare"⟩ 0x400000 ⟨[]⟩ List.mem_cons_self
    (by decide) (AList.lookup_insert _)
  cases answered

end BacnetSim
