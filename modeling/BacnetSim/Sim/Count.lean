import BacnetSim.Object.StoreMap
import BacnetSim.Sim.Inventory

/-! How many objects a built store holds. -/
namespace BacnetSim
open Rust

section Count
variable (lowercase : String → String) (now : Nat → Now) (hash : Hasher)

/-- What the entries of a profile ask for, those with an unrecognised type left out. -/
def ProfileConfig.objectCount (profile : ProfileConfig) : Nat :=
  (profile.objects.map fun objCfg =>
    if (parseObjectType lowercase objCfg.objectType).isSome then objCfg.count.toNat else 0).sum

/-- The sum over the groups with a known profile and over the ids in their range of a
Device object and the objects of the profile. -/
def SimulatorConfig.objectCount (config : SimulatorConfig) : Nat :=
  (config.devices.map fun group =>
    match AList.lookup group.profile config.profiles with
    | some profile => ((rangeInclusive group.idRange.1 group.idRange.2).map fun _ =>
        1 + profile.objectCount lowercase).sum
    | none => 0).sum

def ProfileConfig.types (profile : ProfileConfig) : List ObjectType :=
  (profile.objects.filter fun objCfg => 0 < objCfg.count).filterMap fun objCfg =>
    parseObjectType lowercase objCfg.objectType

def SimulatorConfig.TypesDistinct (config : SimulatorConfig) : Prop :=
  ∀ group ∈ config.devices, ∀ profile, AList.lookup group.profile config.profiles = some profile →
    rangeInclusive group.idRange.1 group.idRange.2 ≠ [] → (profile.types lowercase).Nodup

def SimulatorConfig.RangesDisjoint (config : SimulatorConfig) : Prop :=
  config.devices.Pairwise fun g g' =>
    (rangeInclusive g.idRange.1 g.idRange.2).Disjoint (rangeInclusive g'.idRange.1 g'.idRange.2)

variable {lowercase now hash} {config : SimulatorConfig} {dispatcher : ApduDispatcher Object}

theorem length_profileIds (profile : ProfileConfig) :
    (profileIds lowercase profile).length = profile.objectCount lowercase := by
  rw [profileIds, List.length_flatMap, ProfileConfig.objectCount]
  congr 1
  apply List.map_congr_left
  intro objCfg _
  unfold entryIds
  cases parseObjectType lowercase objCfg.objectType with
  | none => rfl
  | some t =>
    rw [List.length_map, rangeInclusive_length]
    exact Nat.add_sub_cancel ..

theorem length_keys :
    (configuredKeys lowercase config).length = config.objectCount lowercase := by
  rw [configuredKeys, configuredDevices, List.flatMap_assoc, List.length_flatMap, SimulatorConfig.objectCount]
  congr 1
  apply List.map_congr_left
  intro group _
  unfold groupDevices
  cases AList.lookup group.profile config.profiles with
  | none => rfl
  | some profile =>
    simp only [List.length_flatMap, List.map_map]
    congr 1
    apply List.map_congr_left
    intro id _
    simp only [Function.comp_apply, List.length_map, objectListOf_eq, List.length_cons,
      length_profileIds]
    omega

theorem nodup_entryIds (objCfg : ObjectConfig) : (entryIds lowercase objCfg).Nodup := by
  unfold entryIds
  cases parseObjectType lowercase objCfg.objectType with
  | none => exact List.nodup_nil
  | some t => exact (rangeInclusive_nodup _ _).map fun i j same => (ObjectId.mk.inj same).2

/-- Instances are numbered from 1 in every entry, so two entries share an object exactly
when both ask for objects and of one type. -/
theorem disjoint_entryIds_iff (a b : ObjectConfig) :
    (entryIds lowercase a).Disjoint (entryIds lowercase b) ↔
      (0 < a.count → 0 < b.count →
        ∀ t, parseObjectType lowercase a.objectType = some t →
        ∀ u, parseObjectType lowercase b.objectType = some u → t ≠ u) := by
  constructor
  · rintro apart positive positive' t parsed _ parsed' rfl
    have first : ∀ {c : ObjectConfig}, 0 < c.count →
        parseObjectType lowercase c.objectType = some t → ⟨t, 1⟩ ∈ entryIds lowercase c :=
      fun some_ known => mem_entryIds.mpr ⟨known, Nat.le_refl 1, some_⟩
    exact apart (first positive parsed) (first positive' parsed')
  · intro differ oid inA inB
    obtain ⟨parsed, low, high⟩ := mem_entryIds.mp inA
    obtain ⟨parsed', _, high'⟩ := mem_entryIds.mp inB
    exact differ (Nat.lt_of_lt_of_le low high) (Nat.lt_of_lt_of_le low high') _ parsed _ parsed' rfl

theorem nodup_profileIds_iff (profile : ProfileConfig) :
    (profileIds lowercase profile).Nodup ↔ (profile.types lowercase).Nodup := by
  rw [profileIds, List.nodup_flatMap, and_iff_right fun objCfg _ => nodup_entryIds objCfg,
    ProfileConfig.types, List.Nodup, List.pairwise_filterMap, List.pairwise_filter]
  apply List.Pairwise.iff
  intro a b
  simpa only [decide_eq_true_eq] using disjoint_entryIds_iff a b

theorem nodup_objectListOf_iff (profile : ProfileConfig) (id : UInt32) :
    (objectListOf lowercase profile id).Nodup ↔ (profile.types lowercase).Nodup := by
  rw [objectListOf_eq, List.nodup_cons, nodup_profileIds_iff]
  exact and_iff_right fun mem => profileIds_ne_device mem rfl

theorem nodup_configuredIds (disjoint : config.RangesDisjoint) :
    ((configuredDevices config).map (·.1)).Nodup := by
  have ids : ∀ group, ((groupDevices config group).map (·.1)).Sublist
      (rangeInclusive group.idRange.1 group.idRange.2) := by
    intro group
    unfold groupDevices
    cases AList.lookup group.profile config.profiles with
    | none => exact List.nil_sublist _
    | some profile => simp only [List.map_map, Function.comp_def, List.map_id', List.Sublist.refl]
  rw [configuredDevices, List.map_flatMap, List.nodup_flatMap]
  constructor
  · intro group _
    exact (rangeInclusive_nodup _ _).sublist (ids group)
  · apply disjoint.imp
    intro _ _ apart id inA inB
    exact apart ((ids _).subset inA) ((ids _).subset inB)

theorem nodup_keys_iff (disjoint : config.RangesDisjoint) :
    (configuredKeys lowercase config).Nodup ↔ config.TypesDistinct lowercase := by
  rw [configuredKeys, List.nodup_flatMap, and_iff_left]
  · have each : ∀ device : UInt32 × ProfileConfig,
        ((objectListOf lowercase device.2 device.1).map fun oid =>
          ((⟨device.1⟩, oid) : DeviceId × ObjectId)).Nodup ↔ (device.2.types lowercase).Nodup := by
      intro device
      rw [List.nodup_map_iff fun oid oid' same => (Prod.mk.inj same).2, nodup_objectListOf_iff]
    constructor
    · intro nodup group member profile known nonempty
      obtain ⟨id, within⟩ := List.exists_mem_of_ne_nil _ nonempty
      exact (each (id, profile)).mp
        (nodup (id, profile) (mem_configuredDevices.mpr ⟨group, member, known, within⟩))
    · rintro distinct ⟨id, profile⟩ configured
      obtain ⟨group, member, known, within⟩ := mem_configuredDevices.mp configured
      exact (each (id, profile)).mpr
        (distinct group member profile known (List.ne_nil_of_mem within))
  · apply (List.pairwise_map.mp (nodup_configuredIds disjoint)).imp
    intro _ _ different key inA inB
    obtain ⟨_, _, rfl⟩ := List.mem_map.mp inA
    obtain ⟨_, _, same⟩ := List.mem_map.mp inB
    exact different (DeviceId.mk.inj (Prod.mk.inj same).1).symm

theorem count_built (empty : dispatcher.store = .new) (narrow : config.Narrow) :
    (buildSimulation lowercase now hash config dispatcher).store.count =
      (configuredKeys lowercase config).dedup.length := by
  rw [buildSimulation_eq, empty,
    count_bulkInsert_new hash fun entry mem => narrow_of_batchOf narrow mem]
  exact congrArg (fun keys => keys.dedup.length) batchOf_keys

/-- Every configured object is stored, and no object list repeats one, exactly when no two
entries of a profile that is built ask for objects of the same type. -/
theorem objects_kept_iff (empty : dispatcher.store = .new) (narrow : config.Narrow)
    (disjoint : config.RangesDisjoint) :
    let store := (buildSimulation lowercase now hash config dispatcher).store
    (store.count = config.objectCount lowercase ∧
        ∀ device oid dev, store.lookup hash device oid = some (.device dev) →
          dev.objectList.Nodup) ↔
      config.TypesDistinct lowercase := by
  intro store
  rw [count_built empty narrow, ← length_keys]
  constructor
  · rintro ⟨full, _⟩
    have unchanged := (List.dedup_sublist _).eq_of_length full
    exact (nodup_keys_iff disjoint).mp (List.dedup_eq_self.mp unchanged)
  · intro distinct
    have nodup := (nodup_keys_iff disjoint).mpr distinct
    refine ⟨congrArg List.length (List.dedup_eq_self.mpr nodup), ?_⟩
    intro device oid dev found
    obtain ⟨profile, configured, list⟩ := objectList_of_lookup empty found
    obtain ⟨group, member, known, within⟩ := mem_configuredDevices.mp configured
    rw [list, nodup_objectListOf_iff]
    exact distinct group member profile known (List.ne_nil_of_mem within)

end Count

theorem office_kept : builtOffice.store.count = 8 ∧
    ∀ device oid dev, builtOffice.store.lookup (fun _ _ => 0) device oid = some (.device dev) →
      dev.objectList.Nodup := by
  have distinct : officeConfig.TypesDistinct id := by
    intro group member profile known _
    obtain rfl := List.mem_singleton.mp member
    cases (AList.lookup_insert (∅ : HashMap String ProfileConfig)).symm.trans known
    decide
  have empty : (ApduDispatcher.new .new : ApduDispatcher Object).store = .new := rfl
  exact (objects_kept_iff empty officeConfig_narrow (List.pairwise_singleton _ _)).mpr distinct

def twinConfig : SimulatorConfig :=
  oneGroup 1 1 "twin" ⟨[⟨"analog_input", 1, "A", none⟩, ⟨"analog_input", 1, "B", none⟩]⟩

theorem twinConfig_narrow : twinConfig.Narrow := oneGroup_narrow (by decide) (by decide)

theorem twin_lost :
    ¬ ∀ config : SimulatorConfig, config.Narrow → config.RangesDisjoint →
      let store :=
        (buildSimulation id (fun _ => ⟨⟨0⟩, ⟨0⟩⟩) (fun _ _ => 0) config (.new .new)).store
      store.count = config.objectCount id ∧
        ∀ device oid dev, store.lookup (fun _ _ => 0) device oid = some (.device dev) →
          dev.objectList.Nodup := by
  intro claim
  obtain ⟨count, _⟩ := claim twinConfig twinConfig_narrow (List.pairwise_singleton _ _)
  rw [count_built rfl twinConfig_narrow] at count
  exact absurd count (by decide)

end BacnetSim
