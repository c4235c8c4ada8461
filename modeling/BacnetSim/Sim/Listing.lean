import BacnetSim.Object.AllProperties
import BacnetSim.Sim.Startup

/-! The management API lists what it serves: the list of a device's objects, its count, and the
routes of the objects agree, in every run of a simulator. -/
namespace BacnetSim
open Rust Ieee754 Transitions

/-- `str::to_lowercase` of text in ASCII. -/
def LowersAscii (lowercase : String → String) : Prop :=
  ∀ s : String, (∀ c ∈ s.toList, c.toNat < 128) → lowercase s = s.toLower

namespace Rest

/-- The types that a path can name. -/
def routed : List ObjectType :=
  [.analogInput, .analogOutput, .analogValue, .binaryInput, .binaryOutput, .binaryValue, .device,
    .multiStateInput, .multiStateOutput, .multiStateValue, .notificationClass, .schedule, .trendLog]

theorem routed_names : routed.map ObjectType.debugName =
    ["AnalogInput", "AnalogOutput", "AnalogValue", "BinaryInput", "BinaryOutput", "BinaryValue",
      "Device", "MultiStateInput", "MultiStateOutput", "MultiStateValue", "NotificationClass",
      "Schedule", "TrendLog"] := rfl

theorem debugName_ascii {t : ObjectType} (mem : t ∈ routed) : ∀ c ∈ t.debugName.toList, c.toNat < 128 := by
  have all : ∀ s ∈ routed.map ObjectType.debugName, ∀ c ∈ s.toList, c.toNat < 128 := by
    rw [routed_names]
    simp
  exact all t.debugName (List.mem_map_of_mem mem)

theorem pathName_debugName {lowercase : String → String} (lowers : LowersAscii lowercase)
    {t : ObjectType} (mem : t ∈ routed) :
    pathName lowercase t.debugName = pathName String.toLower t.debugName := by
  rw [pathName, lowers _ (debugName_ascii mem), pathName]

theorem parseObjectType_lower : ∀ t ∈ routed, parseObjectType String.toLower t.debugName = .ok t := by
  decide +kernel

theorem parseObjectType_debugName {lowercase : String → String} (lowers : LowersAscii lowercase)
    {t : ObjectType} (mem : t ∈ routed) : parseObjectType lowercase t.debugName = .ok t := by
  rw [← parseObjectType_lower t mem, parseObjectType, parseObjectType, pathName_debugName lowers mem]

end Rest

theorem debugName_unknown (v : UInt32) {s : String} (named : s.toList.head? ≠ some 'U') :
    (PropertyIdentifier.unknown v).debugName ≠ s := by
  intro same
  have text : "Unknown(" ++ toString v ++ ")" = s := same
  rw [← text] at named
  simp [String.toList_append] at named

theorem debugName_objectIdentifier {p : PropertyIdentifier}
    (same : p.debugName = PropertyIdentifier.objectIdentifier.debugName) : p = .objectIdentifier := by
  cases p with
  | unknown v => exact absurd same (debugName_unknown v (by decide))
  | objectIdentifier => rfl
  | _ =>
    revert same
    decide +kernel

namespace Rest
variable {N : Type} [JsonNumber N]

def shown (m : HashMap String (Json N)) (entry : PropertyIdentifier × PropertyValue) :
    HashMap String (Json N) := AList.insert entry.1.debugName (propertyToJson entry.2) m

theorem lookup_unlisted {entries : PropertyList} {p : PropertyIdentifier}
    (absent : p ∉ entries.map Prod.fst)
    (own : ∀ q : PropertyIdentifier, q.debugName = p.debugName → q = p) (m : HashMap String (Json N)) :
    AList.lookup p.debugName (entries.foldl shown m) = AList.lookup p.debugName m := by
  induction entries generalizing m with
  | nil => rfl
  | cons entry rest ih =>
    rw [List.map_cons, List.mem_cons, not_or] at absent
    rw [List.foldl_cons, ih absent.2, shown]
    exact AList.lookup_insert_ne fun same => absent.1 (own entry.1 same.symm).symm

theorem lookup_shown {entries : PropertyList} {p : PropertyIdentifier} {v : PropertyValue}
    (once : (entries.map Prod.fst).Nodup) (mem : (p, v) ∈ entries)
    (own : ∀ q : PropertyIdentifier, q.debugName = p.debugName → q = p) (m : HashMap String (Json N)) :
    AList.lookup p.debugName (entries.foldl shown m) = some (propertyToJson v) := by
  induction entries generalizing m with
  | nil => cases mem
  | cons entry entries ih =>
    rw [List.map_cons, List.nodup_cons] at once
    rw [List.foldl_cons]
    rcases List.mem_cons.mp mem with rfl | mem
    · rw [lookup_unlisted once.1 own]
      exact AList.lookup_insert m
    · exact ih once.2 mem _

variable (hash : Hasher) {text : ApiText N} {api : AppState Object} {devId inst : UInt32} {objType : String}
  {t : ObjectType}

theorem getObject_found {o : Object} (named : parseObjectType text.lowercase objType = .ok t)
    (found : api.store.lookup hash ⟨devId⟩ ⟨t, inst⟩ = some o) :
    api.getObject hash text devId objType inst =
      .ok ⟨objType, inst, (BacnetObject.allProperties o).foldl shown ∅⟩ := by
  have there := ObjectStore.object_shardKey hash found
  have present := ObjectStore.get_of_lookup hash found
  have all : (shardKey hash ⟨devId⟩ ⟨t, inst⟩).allProperties api.store = .ok (BacnetObject.allProperties o) := by
    rw [ObjectRef.allProperties, there, ok_bind]
  simp only [AppState.getObject, named, ok_bind, present, okOr_some, all]
  rfl

theorem getObject_absent (named : parseObjectType text.lowercase objType = .ok t)
    (absent : api.store.lookup hash ⟨devId⟩ ⟨t, inst⟩ = none) :
    api.getObject hash text devId objType inst =
      fail ⟨.notFound, s!"Object {objType}/{inst} on device {devId} not found"⟩ := by
  have missing : api.store.get hash ⟨devId⟩ ⟨t, inst⟩ = none := by
    rw [ObjectStore.get_eq, absent]
    rfl
  simp only [AppState.getObject, named, ok_bind, missing, okOr_none, fail_bind]

end Rest

def listItem (oid : ObjectId) : Rest.ObjectListItem := ⟨oid.objectType.debugName, oid.instanceNumber⟩

def Rest.ObjectListItem.identity {N : Type} [JsonNumber N] (item : Rest.ObjectListItem) : Json N :=
  .object [("type", .string item.objectType), ("instance", .number (JsonNumber.ofU32 item.inst))]

theorem Rest.getObject_identity {N : Type} [JsonNumber N] (hash : Hasher) {text : ApiText N}
    {s : AppState Object} {devId inst : UInt32} {objType : String} {t : ObjectType} {o : Object}
    (named : parseObjectType text.lowercase objType = .ok t)
    (found : s.store.lookup hash ⟨devId⟩ ⟨t, inst⟩ = some o) :
    ∃ detail, s.getObject hash text devId objType inst = .ok detail ∧
      AList.lookup PropertyIdentifier.objectIdentifier.debugName detail.properties =
        some (listItem (BacnetObject.objectId o)).identity := by
  refine ⟨_, getObject_found hash named found, ?_⟩
  have tables := o.tabulated ⟨⟨0⟩, ⟨0⟩⟩
  have known : (PropertyIdentifier.objectIdentifier, PropertyValue.objectId (BacnetObject.objectId o)) ∈
      BacnetObject.allProperties o := by
    cases o <;> exact List.mem_cons_self
  exact lookup_shown tables.nodup known (fun _ => debugName_objectIdentifier) ∅

namespace Rest.AppState
variable (hash : Hasher) (now : Now) (api : AppState Object)

theorem readDevice_ok (dev : DeviceId) (p : PropertyIdentifier) (i : Option UInt32) :
    ∃ v, api.readDevice hash now dev p i = .ok v := by
  unfold readDevice
  cases found : api.store.get hash dev ⟨.device, dev.id⟩ with
  | none => exact ⟨none, rfl⟩
  | some r =>
    obtain ⟨o, _, there⟩ := object_of_get found
    simp only [ObjectRef.readProperty, there, ok_bind]
    cases BacnetObject.readProperty now o p i with
    | ok v => exact ⟨some v, rfl⟩
    | error e => exact ⟨none, rfl⟩

theorem countObjectsForDevice_ok (dev : DeviceId) :
    ∃ count, api.countObjectsForDevice hash now dev = .ok count := by
  obtain ⟨v, read⟩ := api.readDevice_ok hash now dev .objectList (some 0)
  simp only [countObjectsForDevice, read, ok_bind]
  split
  · exact ⟨_, rfl⟩
  · exact ⟨0, rfl⟩

theorem listDevices_each : ∃ count : UInt32 → Nat,
    api.listDevices hash now = .ok (api.deviceIds.map fun id => ⟨id, count id⟩) ∧
      ∀ id ∈ api.deviceIds, api.getDevice hash now id = .ok ⟨id, count id⟩ := by
  choose count counted using fun id : UInt32 => api.countObjectsForDevice_ok hash now ⟨id⟩
  refine ⟨count, ?_, fun id known => ?_⟩
  · refine mapM_map fun id _ => ?_
    rw [counted, ok_bind]
  · rw [getDevice, if_pos known, counted, ok_bind]

end Rest.AppState

namespace Simulator
variable {M R N : Type} (hash : Hasher)

/-- A registered device whose Device object lists the objects that are stored for it. -/
structure Lists (s : Simulator M R) (id : UInt32) (oids : List ObjectId) : Prop where
  registered : id ∈ s.deviceIds
  narrow : ∀ oid ∈ oids, Is22Bit oid.instanceNumber
  device : ∃ dev, s.store.lookup hash ⟨id⟩ ⟨.device, id⟩ = some (.device dev) ∧ dev.objectList = oids
  stored : ∀ oid ∈ oids, (s.store.lookup hash ⟨id⟩ oid).isSome
  named : ∀ oid o, s.store.lookup hash ⟨id⟩ oid = some o →
    BacnetObject.objectId o ∈ oids ∧ objectKey (BacnetObject.objectId o) = objectKey oid

variable {hash} {s s' : Simulator M R} {id : UInt32} {oids : List ObjectId}

theorem Lists.named_own (lists : Lists hash s id oids) {oid : ObjectId} {o : Object} (mem : oid ∈ oids)
    (found : s.store.lookup hash ⟨id⟩ oid = some o) : BacnetObject.objectId o = oid := by
  obtain ⟨listed, keys⟩ := lists.named oid o found
  exact objectKey_injective (lists.narrow _ listed) (lists.narrow oid mem) keys

theorem Keeps.lookup (hash : Hasher) (keeps : Keeps s s') (device : DeviceId) (oid : ObjectId) :
    (s'.store.lookup hash device oid).map plate = (s.store.lookup hash device oid).map plate :=
  keeps.plates (shardKey hash device oid)

theorem Lists.kept (lists : Lists hash s id oids) (keeps : Keeps s s') : Lists hash s' id oids where
  registered := keeps.deviceIds ▸ lists.registered
  narrow := lists.narrow
  device := by
    obtain ⟨dev, found, list⟩ := lists.device
    have same := keeps.lookup hash ⟨id⟩ ⟨.device, id⟩
    rw [found, Option.map_some] at same
    obtain ⟨o, there, plates⟩ := Option.map_eq_some_iff.mp same
    have device : o.device? = some dev := congrArg (·.2.2) plates
    cases o with
    | device dev' =>
      obtain rfl := Option.some.inj device
      exact ⟨_, there, list⟩
    | _ => cases device
  stored oid mem := by
    rw [← Option.isSome_map, keeps.lookup hash, Option.isSome_map]
    exact lists.stored oid mem
  named oid o found := by
    have same := keeps.lookup hash ⟨id⟩ oid
    rw [found, Option.map_some] at same
    obtain ⟨o', was, plates⟩ := Option.map_eq_some_iff.mp same.symm
    have names : BacnetObject.objectId o' = BacnetObject.objectId o := congrArg (·.1.2) plates
    exact names ▸ lists.named oid o' was

theorem lists_of_batch {batch : Batch} (registered : id ∈ s.deviceIds)
    (store : s.store = ObjectStore.new.bulkInsert hash batch) (narrow : ∀ oid ∈ oids, Is22Bit oid.instanceNumber)
    (own : ∀ entry ∈ batch, entry.1 = ⟨id⟩ → BacnetObject.objectId entry.2 ∈ oids)
    (all : ∀ oid ∈ oids, ∃ entry ∈ batch, entry.1 = ⟨id⟩ ∧ BacnetObject.objectId entry.2 = oid)
    (listed : ⟨.device, id⟩ ∈ oids)
    (device : ∀ entry ∈ batch, entry.1 = ⟨id⟩ → BacnetObject.objectId entry.2 = ⟨.device, id⟩ →
      ∃ dev, entry.2 = .device dev ∧ dev.objectList = oids) : Lists hash s id oids := by
  have found_in : ∀ oid o, s.store.lookup hash ⟨id⟩ oid = some o →
      ∃ entry ∈ batch, entry.1 = ⟨id⟩ ∧ entry.2 = o ∧ objectKey (BacnetObject.objectId o) = objectKey oid := by
    intro oid o found
    rw [store, ObjectStore.lookup_bulkInsert, ObjectStore.lookup_new, Option.or_none,
      Option.map_eq_some_iff] at found
    obtain ⟨entry, last, rfl⟩ := found
    have same := List.find?_some last
    rw [decide_eq_true_eq] at same
    obtain ⟨devices, keys⟩ := shardKey_eq_iff.mp same
    exact ⟨entry, List.mem_reverse.mp (List.mem_of_find?_eq_some last), devices, rfl, keys⟩
  have stored : ∀ oid ∈ oids, (s.store.lookup hash ⟨id⟩ oid).isSome := by
    intro oid mem
    obtain ⟨entry, inBatch, devices, ids⟩ := all oid mem
    rw [store, ObjectStore.lookup_bulkInsert, ObjectStore.lookup_new, Option.or_none, Option.isSome_map,
      List.find?_isSome]
    refine ⟨entry, List.mem_reverse.mpr inBatch, ?_⟩
    rw [decide_eq_true_eq, devices, ids]
  have named : ∀ oid o, s.store.lookup hash ⟨id⟩ oid = some o →
      BacnetObject.objectId o ∈ oids ∧ objectKey (BacnetObject.objectId o) = objectKey oid := by
    intro oid o found
    obtain ⟨entry, inBatch, devices, rfl, keys⟩ := found_in oid o found
    exact ⟨own entry inBatch devices, keys⟩
  refine ⟨registered, narrow, ?_, stored, named⟩
  obtain ⟨o, found⟩ := Option.isSome_iff_exists.mp (stored _ listed)
  obtain ⟨entry, inBatch, devices, rfl, keys⟩ := found_in _ o found
  have ids := objectKey_injective (narrow _ (named _ _ found).1) (narrow _ listed) keys
  obtain ⟨dev, is, list⟩ := device entry inBatch devices ids
  exact ⟨dev, is ▸ found, list⟩

variable [JsonNumber N] (now : Now) (text : ApiText N)

theorem Lists.readDevice (lists : Lists hash s id oids) (i : Option UInt32) :
    s.api.readDevice hash now ⟨id⟩ .objectList i =
      match DeviceObject.readArray (oids.map .objectId) i with
      | .ok v => .ok (some v)
      | .error _ => .ok none := by
  obtain ⟨dev, found, rfl⟩ := lists.device
  have there := ObjectStore.object_shardKey hash found
  have present : s.store.get hash ⟨id⟩ ⟨.device, id⟩ = some (shardKey hash ⟨id⟩ ⟨.device, id⟩) :=
    ObjectStore.get_of_lookup hash found
  simp only [Rest.AppState.readDevice, api, present, ObjectRef.readProperty, there, ok_bind]
  rw [show BacnetObject.readProperty now (Object.device dev) .objectList i =
    DeviceObject.readArray (dev.objectList.map .objectId) i from rfl]
  cases DeviceObject.readArray (dev.objectList.map .objectId) i <;> rfl

theorem Lists.listObjects (lists : Lists hash s id oids) :
    s.api.listObjects hash now id = .ok (oids.map listItem) := by
  have read := lists.readDevice now none
  rw [Rest.AppState.listObjects, if_pos (show id ∈ s.api.deviceIds from lists.registered),
    Rest.AppState.collectObjects, read]
  simp only [DeviceObject.readArray, ok_bind, List.filterMap_map]
  exact congrArg Except.ok (List.filterMap_eq_map' ▸ rfl)

theorem Lists.getDevice (lists : Lists hash s id oids) :
    s.api.getDevice hash now id = .ok ⟨id, oids.length % 2 ^ 32⟩ := by
  have read := lists.readDevice now (some 0)
  rw [Rest.AppState.getDevice, if_pos (show id ∈ s.api.deviceIds from lists.registered),
    Rest.AppState.countObjectsForDevice, read]
  simp [DeviceObject.readArray]

/-- The list of the devices, the list of a device's objects, its count, and the routes of the
objects agree. What is listed is served under its listed name; and whatever is served is an object
of the list, the one of that name where the instance number has 22 bits. -/
structure Agrees (hash : Hasher) (now : Now) (text : ApiText N) (api : Rest.AppState Object)
    (id : UInt32) (items : List Rest.ObjectListItem) : Prop where
  devices : ∃ devices, api.listDevices hash now = .ok devices ∧
    devices.filter (·.id = id) = [⟨id, items.length % 2 ^ 32⟩]
  count : api.getDevice hash now id = .ok ⟨id, items.length % 2 ^ 32⟩
  list : api.listObjects hash now id = .ok items
  served : ∀ item ∈ items, ∃ detail, api.getObject hash text id item.objectType item.inst = .ok detail ∧
    AList.lookup PropertyIdentifier.objectIdentifier.debugName detail.properties = some item.identity
  only : ∀ objType inst detail, api.getObject hash text id objType inst = .ok detail →
    ∃ t oid, Rest.parseObjectType text.lowercase objType = .ok t ∧ listItem oid ∈ items ∧
      objectKey oid = objectKey ⟨t, inst⟩ ∧ (Is22Bit inst → oid = ⟨t, inst⟩) ∧
      AList.lookup PropertyIdentifier.objectIdentifier.debugName detail.properties =
        some (listItem oid).identity

variable {now text}

theorem Lists.agrees (lists : Lists hash s id oids) (once : s.deviceIds.Nodup)
    (lowers : LowersAscii text.lowercase) (routed : ∀ oid ∈ oids, oid.objectType ∈ Rest.routed) :
    Agrees hash now text s.api id (oids.map listItem) where
  devices := by
    obtain ⟨count, listed, each⟩ := s.api.listDevices_each hash now
    have own := lists.getDevice now
    rw [each id lists.registered] at own
    refine ⟨_, listed, ?_⟩
    rw [List.length_map, ← Except.ok.inj own, List.filter_map]
    change (s.deviceIds.filter (· = id)).map _ = _
    rw [List.filter_eq id, List.count_eq_one_of_mem once lists.registered]
    rfl
  count := by
    rw [List.length_map]
    exact lists.getDevice now
  list := lists.listObjects now
  served item mem := by
    obtain ⟨oid, listed, rfl⟩ := List.mem_map.mp mem
    obtain ⟨o, found⟩ := Option.isSome_iff_exists.mp (lists.stored oid listed)
    obtain ⟨detail, served, shown⟩ := Rest.getObject_identity hash (s := s.api)
      (Rest.parseObjectType_debugName lowers (routed oid listed)) found
    rw [lists.named_own listed found] at shown
    exact ⟨detail, served, shown⟩
  only objType inst detail served := by
    obtain ⟨t, named, _⟩ := bind_eq_ok served
    cases found : s.store.lookup hash ⟨id⟩ ⟨t, inst⟩ with
    | none =>
      rw [Rest.getObject_absent hash named found] at served
      cases served
    | some o =>
      obtain ⟨detail', again, shown⟩ := Rest.getObject_identity hash (s := s.api) named found
      cases served.symm.trans again
      obtain ⟨listed, keys⟩ := lists.named _ o found
      exact ⟨t, _, named, List.mem_map_of_mem listed, keys,
        fun narrow => objectKey_injective (lists.narrow _ listed) narrow keys, shown⟩

end Simulator

namespace Simulator
variable {M R N : Type} {lowercase : String → String} {built : Nat → Now} {hash : Hasher}
  {config : SimulatorConfig} {period : Duration} {started : Instant} {id : UInt32}

theorem mem_registerDevice {api : Rest.AppState Object} {other : UInt32} :
    id ∈ (api.registerDevice other).deviceIds ↔ id ∈ api.deviceIds ∨ id = other := by
  unfold Rest.AppState.registerDevice
  split
  · rename_i known
    exact ⟨.inl, fun mem => mem.elim (fun mem => mem) fun same => same ▸ known⟩
  · exact List.mem_append.trans (or_congr_right List.mem_singleton)

theorem mem_registerAll {api : Rest.AppState Object} {range : List UInt32} :
    id ∈ (range.foldl Rest.AppState.registerDevice api).deviceIds ↔ id ∈ api.deviceIds ∨ id ∈ range := by
  induction range generalizing api with
  | nil => simp
  | cons other range ih =>
    rw [List.foldl_cons, ih, mem_registerDevice, List.mem_cons, or_assoc]

theorem mem_registerIds {api : Rest.AppState Object} : id ∈ (registerIds config api).deviceIds ↔
    id ∈ api.deviceIds ∨ ∃ group ∈ config.devices, id ∈ rangeInclusive group.idRange.1 group.idRange.2 := by
  unfold registerIds
  induction config.devices generalizing api with
  | nil => simp
  | cons group groups ih =>
    rw [List.foldl_cons, ih, mem_registerAll, or_assoc]
    simp

theorem registerDevice_once {api : Rest.AppState Object} (once : api.deviceIds.Nodup) (other : UInt32) :
    (api.registerDevice other).deviceIds.Nodup := by
  unfold Rest.AppState.registerDevice
  split
  · exact once
  · rename_i new
    exact List.nodup_append.mpr ⟨once, List.nodup_singleton other, by
      rintro id mem _ last rfl
      exact new (List.mem_singleton.mp last ▸ mem)⟩

theorem registerIds_once {api : Rest.AppState Object} (once : api.deviceIds.Nodup) :
    (registerIds config api).deviceIds.Nodup := by
  refine List.foldlRecOn config.devices (motive := fun api : Rest.AppState Object => api.deviceIds.Nodup) _
    once fun api once group _ => ?_
  exact List.foldlRecOn _ (motive := fun api : Rest.AppState Object => api.deviceIds.Nodup) _ once
    fun api once id _ => registerDevice_once once id

theorem configured_lists (narrow : config.Narrow) {group : DeviceGroupConfig} {profile : ProfileConfig}
    (only : config.devices.filter (fun group =>
      id ∈ rangeInclusive group.idRange.1 group.idRange.2) = [group])
    (known : AList.lookup group.profile config.profiles = some profile) :
    Lists hash (configured lowercase built hash config period started : Simulator M R) id
      (objectListOf lowercase profile id) := by
  obtain ⟨member, within⟩ := List.mem_filter.mp
    (show group ∈ config.devices.filter _ from only ▸ List.mem_singleton_self group)
  have configured_ : (id, profile) ∈ configuredDevices config :=
    mem_configuredDevices.mpr ⟨group, member, known, of_decide_eq_true within⟩
  have unique : ∀ other, (id, other) ∈ configuredDevices config → other = profile := by
    intro other elsewhere
    obtain ⟨group', member', known', within'⟩ := mem_configuredDevices.mp elsewhere
    have same : group' ∈ [group] := only ▸ List.mem_filter.mpr ⟨member', decide_eq_true within'⟩
    rw [List.mem_singleton.mp same, known] at known'
    exact (Option.some.inj known').symm
  have listed : ⟨.device, id⟩ ∈ objectListOf lowercase profile id := by
    rw [objectListOf_eq]
    exact List.mem_cons_self
  refine lists_of_batch (mem_registerIds.mpr (.inr ⟨group, member, of_decide_eq_true within⟩))
    (congrArg ApduDispatcher.store (buildSimulation_eq lowercase built hash config (.new .new)))
    (fun oid mem => narrow_of_configured narrow configured_ mem) ?_ ?_ listed ?_
  · rintro ⟨device, o⟩ mem rfl
    obtain ⟨other, elsewhere, inList⟩ := mem_configuredKeys.mp (keyOf_mem mem)
    exact unique other elsewhere ▸ inList
  · intro oid mem
    have keyed : (⟨id⟩, oid) ∈ configuredKeys lowercase config :=
      mem_configuredKeys.mpr ⟨profile, configured_, mem⟩
    rw [← batchOf_keys] at keyed
    obtain ⟨entry, inBatch, same⟩ := List.mem_map.mp keyed
    exact ⟨entry, inBatch, (Prod.mk.inj same).1, (Prod.mk.inj same).2⟩
  · rintro ⟨device, o⟩ mem rfl ids
    obtain ⟨⟨other, profile'⟩, elsewhere, outlined⟩ := mem_batchOf mem
    obtain ⟨dev, is⟩ := device_of_outline outlined (congrArg ObjectId.objectType ids)
    obtain ⟨same, list⟩ := outline_device is outlined
    cases same
    exact ⟨dev, is, unique profile' elsewhere ▸ list⟩

theorem parseObjectType_routed {s : String} {t : ObjectType}
    (parsed : parseObjectType lowercase s = some t) : t ∈ Rest.routed := by
  unfold parseObjectType at parsed
  split at parsed <;> cases parsed <;> decide

theorem objectListOf_routed {profile : ProfileConfig} {oid : ObjectId}
    (listed : oid ∈ objectListOf lowercase profile id) : oid.objectType ∈ Rest.routed := by
  rw [objectListOf_eq] at listed
  rcases List.mem_cons.mp listed with rfl | inProfile
  · exact (by decide : ObjectType.device ∈ Rest.routed)
  · obtain ⟨objCfg, _, entry⟩ := mem_profileIds.mp inProfile
    exact parseObjectType_routed (mem_entryIds.mp entry).1

theorem mem_demoIds {oid : ObjectId} (mem : oid ∈ demoIds id) : oid = ⟨.device, id⟩ ∨
    ∃ i ∈ rangeInclusive 1 8, oid = ⟨.analogInput, i⟩ ∨ oid = ⟨.binaryInput, i⟩ := by
  rcases List.mem_cons.mp mem with same | mem
  · exact .inl same
  · rcases List.mem_append.mp mem with mem | mem
    · obtain ⟨i, range, rfl⟩ := List.mem_map.mp mem
      exact .inr ⟨i, range, .inl rfl⟩
    · obtain ⟨i, range, rfl⟩ := List.mem_map.mp mem
      refine .inr ⟨i, mem_rangeInclusive.mpr ?_, .inr rfl⟩
      obtain ⟨low, high⟩ := mem_rangeInclusive.mp range
      exact ⟨low, high.trans (by decide)⟩

theorem demoIds_narrow (narrow : Is22Bit id) {oid : ObjectId} (mem : oid ∈ demoIds id) :
    Is22Bit oid.instanceNumber := by
  rcases mem_demoIds mem with rfl | ⟨i, range, rfl | rfl⟩
  · exact narrow
  · exact lt_of_le_of_lt (mem_rangeInclusive.mp range).2 (by decide)
  · exact lt_of_le_of_lt (mem_rangeInclusive.mp range).2 (by decide)

theorem demoIds_routed {oid : ObjectId} (mem : oid ∈ demoIds id) : oid.objectType ∈ Rest.routed := by
  rcases mem_demoIds mem with rfl | ⟨i, _, rfl | rfl⟩
  · exact (by decide : ObjectType.device ∈ Rest.routed)
  · exact (by decide : ObjectType.analogInput ∈ Rest.routed)
  · exact (by decide : ObjectType.binaryInput ∈ Rest.routed)

theorem demo_lists {now : ObjectId → Now} (narrow : Is22Bit id) :
    Lists hash (demo now hash id period started : Simulator M R) id (demoIds id) := by
  have named : (demoObjects now id).map BacnetObject.objectId = demoIds id := rfl
  have store : (demo now hash id period started : Simulator M R).store =
      ObjectStore.new.bulkInsert hash ((demoObjects now id).map fun o => (⟨id⟩, o)) := by
    change demoStore now hash id = _
    rw [demoStore_eq, ObjectStore.bulkInsert_eq_foldl]
  refine lists_of_batch List.mem_cons_self store ?_ ?_ ?_ List.mem_cons_self ?_
  · intro oid mem
    exact demoIds_narrow narrow mem
  · intro entry mem _
    obtain ⟨o, inside, rfl⟩ := List.mem_map.mp mem
    exact named ▸ List.mem_map_of_mem inside
  · intro oid mem
    rw [← named] at mem
    obtain ⟨o, inside, rfl⟩ := List.mem_map.mp mem
    exact ⟨_, List.mem_map_of_mem inside, rfl, rfl⟩
  · intro entry mem _ ids
    obtain ⟨o, inside, rfl⟩ := List.mem_map.mp mem
    rcases List.mem_cons.mp inside with rfl | inside
    · exact ⟨_, rfl, rfl⟩
    · have type := congrArg ObjectId.objectType ids
      rcases List.mem_append.mp inside with inside | inside
      · obtain ⟨i, _, rfl⟩ := List.mem_map.mp inside
        cases type
      · obtain ⟨i, _, rfl⟩ := List.mem_map.mp inside
        cases type

variable [ValueModel M R] [JsonNumber N] {arith : RealArith} {text : ApiText N} {s : Simulator M R}
  {past : List (Event N)}

/-- In every run from a configuration, what the management API lists of a device that one group
configures is the device and the objects of its profile, and it serves just these. -/
theorem configured_agrees (narrow : config.Narrow) {group : DeviceGroupConfig} {profile : ProfileConfig}
    (only : config.devices.filter (fun group =>
      id ∈ rangeInclusive group.idRange.1 group.idRange.2) = [group])
    (known : AList.lookup group.profile config.profiles = some profile)
    (lowers : LowersAscii text.lowercase)
    (run : reached (next hash arith text) (configured lowercase built hash config period started) past =
      some s) (now : Now) :
    Agrees hash now text s.api id ((objectListOf lowercase profile id).map listItem) := by
  have kept := reached_keeps run
  have once : s.deviceIds.Nodup := kept.deviceIds ▸ registerIds_once List.nodup_nil
  exact ((configured_lists narrow only known).kept kept).agrees once lowers fun _ => objectListOf_routed

theorem office_agrees : Agrees (fun _ _ => 0) midnight serdeText officeEnd.api 2
    ((objectListOf (fun s => s) office 2).map listItem) := by
  have only : officeConfig.devices.filter (fun group =>
      (2 : UInt32) ∈ rangeInclusive group.idRange.1 group.idRange.2) = [⟨(1, 2), "office"⟩] := rfl
  exact configured_agrees officeConfig_narrow only (AList.lookup_insert _) (fun _ _ => rfl)
    officeRun_reached midnight

theorem demo_agrees {built : ObjectId → Now} (narrow : Is22Bit id) (lowers : LowersAscii text.lowercase)
    (run : reached (next hash arith text) (demo built hash id period started) past = some s) (now : Now) :
    Agrees hash now text s.api id ((demoIds id).map listItem) := by
  have kept := reached_keeps run
  have once : s.deviceIds.Nodup := kept.deviceIds ▸ List.nodup_singleton id
  exact ((demo_lists narrow).kept kept).agrees once lowers fun _ => demoIds_routed

end Simulator

end BacnetSim
