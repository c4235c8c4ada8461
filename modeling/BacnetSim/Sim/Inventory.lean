import BacnetSim.Sim.Builder

/-! What a built store holds, and the object lists that say so. -/
namespace BacnetSim
open Rust

/-- Ids and counts in the documented range of an instance number. -/
structure SimulatorConfig.Narrow (config : SimulatorConfig) : Prop where
  ids : ∀ group ∈ config.devices, ∀ id ∈ rangeInclusive group.idRange.1 group.idRange.2, Is22Bit id
  counts : ∀ name profile, AList.lookup name config.profiles = some profile →
    ∀ objCfg ∈ profile.objects, Is22Bit objCfg.count

section Inventory
variable {lowercase : String → String} {now : Nat → Now} {hash : Hasher} {config : SimulatorConfig}
  {dispatcher : ApduDispatcher Object}

theorem parseObjectType_ne_device {s : String} {t : ObjectType}
    (parsed : parseObjectType lowercase s = some t) : t ≠ .device := by
  unfold parseObjectType at parsed
  split at parsed <;> cases parsed <;> decide

theorem mem_entryIds {objCfg : ObjectConfig} {oid : ObjectId} :
    oid ∈ entryIds lowercase objCfg ↔
      parseObjectType lowercase objCfg.objectType = some oid.objectType ∧
        1 ≤ oid.instanceNumber.toNat ∧ oid.instanceNumber.toNat ≤ objCfg.count.toNat := by
  unfold entryIds
  cases parseObjectType lowercase objCfg.objectType with
  | none => simp
  | some t =>
    simp only [List.mem_map, mem_rangeInclusive, Option.some.injEq]
    constructor
    · rintro ⟨i, within, rfl⟩
      exact ⟨rfl, within⟩
    · rintro ⟨rfl, within⟩
      exact ⟨oid.instanceNumber, within, rfl⟩

theorem mem_profileIds {profile : ProfileConfig} {oid : ObjectId} :
    oid ∈ profileIds lowercase profile ↔
      ∃ objCfg ∈ profile.objects, oid ∈ entryIds lowercase objCfg := List.mem_flatMap

theorem profileIds_ne_device {profile : ProfileConfig} {oid : ObjectId}
    (mem : oid ∈ profileIds lowercase profile) : oid.objectType ≠ .device := by
  obtain ⟨objCfg, _, entry⟩ := mem_profileIds.mp mem
  exact parseObjectType_ne_device (mem_entryIds.mp entry).1

theorem ids_deviceOutlines (device : UInt32 × ProfileConfig) :
    (deviceOutlines lowercase device).map (fun v => (v.1, v.2.1)) =
      (objectListOf lowercase device.2 device.1).map fun oid => (⟨device.1⟩, oid) := by
  rw [objectListOf_eq]
  simp [deviceOutlines]

theorem batchOf_keys :
    (batchOf lowercase now config dispatcher).map keyOf = configuredKeys lowercase config := by
  have keys := congrArg (List.map fun v : Outline => (v.1, v.2.1))
    (batchOf_outlines lowercase now config dispatcher)
  rw [List.map_map, List.map_flatMap] at keys
  exact keys.trans (List.flatMap_congr fun device _ => ids_deviceOutlines device)

theorem mem_configuredKeys {id : UInt32} {oid : ObjectId} :
    (⟨id⟩, oid) ∈ configuredKeys lowercase config ↔
      ∃ profile, (id, profile) ∈ configuredDevices config ∧
        oid ∈ objectListOf lowercase profile id := by
  rw [configuredKeys, List.mem_flatMap]
  constructor
  · rintro ⟨⟨id', profile⟩, configured, mem⟩
    obtain ⟨listed, inList, same⟩ := List.mem_map.mp mem
    cases same
    exact ⟨profile, configured, inList⟩
  · rintro ⟨profile, configured, inList⟩
    exact ⟨(id, profile), configured, List.mem_map_of_mem inList⟩

theorem keyOf_mem {entry : DeviceId × Object}
    (mem : entry ∈ batchOf lowercase now config dispatcher) :
    keyOf entry ∈ configuredKeys lowercase config := by
  rw [← batchOf_keys]
  exact List.mem_map_of_mem mem

theorem mem_batchOf {entry : DeviceId × Object}
    (mem : entry ∈ batchOf lowercase now config dispatcher) :
    ∃ device ∈ configuredDevices config, outline entry ∈ deviceOutlines lowercase device := by
  have built := List.mem_map_of_mem (f := outline) mem
  rw [batchOf_outlines] at built
  exact List.mem_flatMap.mp built

theorem outline_device {device : UInt32 × ProfileConfig} {entry : DeviceId × Object}
    {dev : DeviceObject} (is : entry.2 = .device dev)
    (mem : outline entry ∈ deviceOutlines lowercase device) :
    entry.1 = ⟨device.1⟩ ∧ dev.objectList = objectListOf lowercase device.2 device.1 := by
  obtain ⟨id, o⟩ := entry
  cases is
  rcases List.mem_cons.mp mem with first | rest
  · obtain ⟨ids, others⟩ := Prod.mk.inj first
    exact ⟨ids, Option.some.inj (Prod.mk.inj others).2⟩
  · obtain ⟨oid, _, same⟩ := List.mem_map.mp rest
    cases (Prod.mk.inj (Prod.mk.inj same).2).2

theorem device_of_outline {device : UInt32 × ProfileConfig} {entry : DeviceId × Object}
    (mem : outline entry ∈ deviceOutlines lowercase device)
    (type : (BacnetObject.objectId entry.2).objectType = .device) :
    ∃ dev, entry.2 = .device dev := by
  rcases List.mem_cons.mp mem with first | rest
  · obtain ⟨id, o⟩ := entry
    have listed := (Prod.mk.inj (Prod.mk.inj first).2).2
    cases o with
    | device dev => exact ⟨dev, rfl⟩
    | _ => cases listed
  · obtain ⟨oid, listed, same⟩ := List.mem_map.mp rest
    have oids := (Prod.mk.inj (Prod.mk.inj same).2).1
    rw [← oids] at type
    exact absurd type (profileIds_ne_device listed)

theorem narrow_of_configured (narrow : config.Narrow) {id : UInt32} {profile : ProfileConfig}
    (configured : (id, profile) ∈ configuredDevices config) {oid : ObjectId}
    (listed : oid ∈ objectListOf lowercase profile id) : Is22Bit oid.instanceNumber := by
  obtain ⟨group, mem, known, within⟩ := mem_configuredDevices.mp configured
  rw [objectListOf_eq] at listed
  rcases List.mem_cons.mp listed with rfl | inProfile
  · exact narrow.ids group mem id within
  · obtain ⟨objCfg, member, entry⟩ := mem_profileIds.mp inProfile
    exact Nat.lt_of_le_of_lt (mem_entryIds.mp entry).2.2
      (narrow.counts _ profile known objCfg member)

theorem narrow_of_batchOf (narrow : config.Narrow) {entry : DeviceId × Object}
    (mem : entry ∈ batchOf lowercase now config dispatcher) :
    Is22Bit (BacnetObject.objectId entry.2).instanceNumber := by
  obtain ⟨profile, configured, listed⟩ := mem_configuredKeys.mp (keyOf_mem mem)
  exact narrow_of_configured narrow configured listed

theorem entry_of_lookup (empty : dispatcher.store = .new) {device : DeviceId} {oid : ObjectId}
    {o : Object}
    (found : (buildSimulation lowercase now hash config dispatcher).store.lookup hash device oid =
      some o) :
    ∃ entry ∈ batchOf lowercase now config dispatcher, entry.2 = o ∧ entry.1 = device ∧
      objectKey (BacnetObject.objectId entry.2) = objectKey oid := by
  rw [buildSimulation_eq, ObjectStore.lookup_bulkInsert, empty, ObjectStore.lookup_new,
    Option.or_none, Option.map_eq_some_iff] at found
  obtain ⟨entry, last, rfl⟩ := found
  have same := List.find?_some last
  rw [decide_eq_true_eq] at same
  obtain ⟨devices, keys⟩ := shardKey_eq_iff.mp same
  exact ⟨entry, List.mem_reverse.mp (List.mem_of_find?_eq_some last), rfl, devices, keys⟩

theorem objectList_of_lookup (empty : dispatcher.store = .new) {device : DeviceId} {oid : ObjectId}
    {dev : DeviceObject}
    (found : (buildSimulation lowercase now hash config dispatcher).store.lookup hash device oid =
      some (.device dev)) :
    ∃ profile, (device.id, profile) ∈ configuredDevices config ∧
      dev.objectList = objectListOf lowercase profile device.id := by
  obtain ⟨entry, mem, is, rfl, _⟩ := entry_of_lookup empty found
  obtain ⟨⟨id, profile⟩, configured, outlined⟩ := mem_batchOf mem
  obtain ⟨ids, list⟩ := outline_device is outlined
  rw [ids]
  exact ⟨profile, configured, list⟩

theorem lookup_isSome_iff (empty : dispatcher.store = .new) (narrow : config.Narrow) {id : UInt32}
    {oid : ObjectId} (within : Is22Bit oid.instanceNumber) :
    ((buildSimulation lowercase now hash config dispatcher).store.lookup hash ⟨id⟩ oid).isSome ↔
      ∃ profile, (id, profile) ∈ configuredDevices config ∧
        oid ∈ objectListOf lowercase profile id := by
  rw [← mem_configuredKeys]
  constructor
  · intro stored
    obtain ⟨o, found⟩ := Option.isSome_iff_exists.mp stored
    obtain ⟨entry, mem, _, devices, keys⟩ := entry_of_lookup empty found
    have ids := objectKey_injective (narrow_of_batchOf narrow mem) within keys
    rw [← devices, ← ids]
    exact keyOf_mem mem
  · intro mem
    have keys : (batchOf lowercase now config dispatcher).map keyOf = _ := batchOf_keys
    rw [← keys] at mem
    obtain ⟨entry, inBatch, same⟩ := List.mem_map.mp mem
    obtain ⟨devices, ids⟩ := Prod.mk.inj same
    rw [buildSimulation_eq, ObjectStore.lookup_bulkInsert, empty, ObjectStore.lookup_new,
      Option.or_none, Option.isSome_map, List.find?_isSome]
    refine ⟨entry, List.mem_reverse.mpr inBatch, ?_⟩
    rw [decide_eq_true_eq, devices, ids]

theorem lookup_device (empty : dispatcher.store = .new) (narrow : config.Narrow) {id : UInt32}
    {profile : ProfileConfig} (configured : (id, profile) ∈ configuredDevices config) :
    ∃ dev, (buildSimulation lowercase now hash config dispatcher).store.lookup hash ⟨id⟩
      ⟨.device, id⟩ = some (.device dev) := by
  have listed : ⟨.device, id⟩ ∈ objectListOf lowercase profile id := by
    rw [objectListOf_eq]
    exact List.mem_cons_self
  have within := narrow_of_configured narrow configured listed
  have stored : ((buildSimulation lowercase now hash config dispatcher).store.lookup hash ⟨id⟩
      ⟨.device, id⟩).isSome :=
    (lookup_isSome_iff empty narrow within).mpr ⟨profile, configured, listed⟩
  obtain ⟨o, found⟩ := Option.isSome_iff_exists.mp stored
  obtain ⟨entry, mem, rfl, _, keys⟩ := entry_of_lookup empty found
  have ids := objectKey_injective (narrow_of_batchOf narrow mem) within keys
  obtain ⟨_, _, outlined⟩ := mem_batchOf mem
  obtain ⟨dev, is⟩ := device_of_outline outlined (congrArg ObjectId.objectType ids)
  exact ⟨dev, by rw [found, is]⟩

/-- The object list of a device that one group configures names exactly the ids that
lookups find for it. -/
theorem objectList_matches_store (empty : dispatcher.store = .new) (narrow : config.Narrow)
    {id : UInt32} {group : DeviceGroupConfig} {profile : ProfileConfig}
    (only : config.devices.filter (fun group =>
      id ∈ rangeInclusive group.idRange.1 group.idRange.2) = [group])
    (known : AList.lookup group.profile config.profiles = some profile) :
    let store := (buildSimulation lowercase now hash config dispatcher).store
    ∃ r dev, store.get hash ⟨id⟩ ⟨.device, id⟩ = some r ∧ r.object store = .ok (.device dev) ∧
      ∀ oid, Is22Bit oid.instanceNumber →
        (oid ∈ dev.objectList ↔ (store.get hash ⟨id⟩ oid).isSome) := by
  intro store
  have mem : group ∈ config.devices.filter _ := only ▸ List.mem_singleton_self group
  obtain ⟨member, within⟩ := List.mem_filter.mp mem
  have configured : (id, profile) ∈ configuredDevices config :=
    mem_configuredDevices.mpr ⟨group, member, known, of_decide_eq_true within⟩
  have unique : ∀ {other}, (id, other) ∈ configuredDevices config → other = profile := by
    intro other elsewhere
    obtain ⟨group', member', known', within'⟩ := mem_configuredDevices.mp elsewhere
    have same : group' ∈ [group] := only ▸ List.mem_filter.mpr ⟨member', decide_eq_true within'⟩
    rw [List.mem_singleton.mp same, known] at known'
    exact (Option.some.inj known').symm
  obtain ⟨dev, found⟩ : ∃ dev, store.lookup hash ⟨id⟩ ⟨.device, id⟩ = some (.device dev) :=
    lookup_device empty narrow configured
  obtain ⟨profile', configured', list⟩ := objectList_of_lookup empty found
  rw [unique configured'] at list
  have present : store.get hash ⟨id⟩ ⟨.device, id⟩ = some (shardKey hash ⟨id⟩ ⟨.device, id⟩) := by
    rw [ObjectStore.get_eq, found]
    rfl
  refine ⟨_, dev, present, ObjectStore.object_shardKey hash found, ?_⟩
  intro oid narrowOid
  have stored : (store.lookup hash ⟨id⟩ oid).isSome ↔ _ := lookup_isSome_iff empty narrow narrowOid
  rw [ObjectStore.isSome_get, stored, list]
  constructor
  · intro listed
    exact ⟨profile, configured, listed⟩
  · rintro ⟨other, elsewhere, listed⟩
    rwa [unique elsewhere] at listed

end Inventory

def oneGroup (lo hi : UInt32) (name : String) (profile : ProfileConfig) : SimulatorConfig :=
  ⟨[⟨(lo, hi), name⟩], AList.insert name profile ∅⟩

theorem oneGroup_narrow {lo hi : UInt32} {name : String} {profile : ProfileConfig} (ids : Is22Bit hi)
    (counts : ∀ objCfg ∈ profile.objects, Is22Bit objCfg.count) :
    (oneGroup lo hi name profile).Narrow where
  ids group member id within := by
    obtain rfl := List.mem_singleton.mp member
    exact Nat.lt_of_le_of_lt (mem_rangeInclusive.mp within).2 ids
  counts name' profile' known := by
    by_cases same : name' = name
    · subst same
      obtain rfl := Option.some.inj ((AList.lookup_insert ∅).symm.trans known)
      exact counts
    · cases (AList.lookup_insert_ne same).symm.trans known

def office : ProfileConfig :=
  ⟨[⟨"analog_input", 2, "AI", some "celsius"⟩, ⟨"binary value", 1, "BV", none⟩]⟩

def officeConfig : SimulatorConfig := oneGroup 1 2 "office" office

theorem officeConfig_narrow : officeConfig.Narrow := oneGroup_narrow (by decide) (by decide)

def builtOffice : ApduDispatcher Object :=
  buildSimulation id (fun _ => ⟨⟨0⟩, ⟨0⟩⟩) (fun _ _ => 0) officeConfig (.new .new)

theorem office_listed : ∃ r dev, builtOffice.store.get (fun _ _ => 0) ⟨2⟩ ⟨.device, 2⟩ = some r ∧
    r.object builtOffice.store = .ok (.device dev) ∧ ∀ oid, Is22Bit oid.instanceNumber →
      (oid ∈ dev.objectList ↔ (builtOffice.store.get (fun _ _ => 0) ⟨2⟩ oid).isSome) :=
  objectList_matches_store rfl officeConfig_narrow rfl
    (AList.lookup_insert _)

end BacnetSim
