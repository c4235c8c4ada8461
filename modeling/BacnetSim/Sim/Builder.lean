import BacnetSim.Object.Object
import BacnetSim.Sim.Config
import BacnetSim.Stack.Dispatcher

/-! Building a simulation from its configuration (`simulation_builder.rs`), and what it
puts in the store. `now n` is the clock when the batch holds `n` objects. -/
namespace BacnetSim
open Rust

abbrev Batch := List (DeviceId × Object)

section Build
variable (lowercase : String → String) (now : Nat → Now)

/-- One turn of the inner loop of `add_profile_objects`. -/
def addObject (devId : DeviceId) (objCfg : ObjectConfig) (batch : Batch) (i : UInt32) : Batch :=
  let name := objCfg.namePrefix ++ "-" ++ paddedNumber i
  let units := parseUnits lowercase objCfg.units
  let now := now batch.length
  match normalize lowercase objCfg.objectType with
  | "analoginput" | "analog_input" =>
    batch ++ [(devId, .analogInput (.new now devId i name units))]
  | "analogoutput" | "analog_output" =>
    batch ++ [(devId, .analogOutput (.new now devId i name units))]
  | "analogvalue" | "analog_value" =>
    batch ++ [(devId, .analogValue (.new now devId i name units))]
  | "binaryinput" | "binary_input" => batch ++ [(devId, .binaryInput (.new now devId i name))]
  | "binaryoutput" | "binary_output" => batch ++ [(devId, .binaryOutput (.new now devId i name))]
  | "binaryvalue" | "binary_value" => batch ++ [(devId, .binaryValue (.new now devId i name))]
  | "multistateinput" | "multistate_input" | "msi" =>
    batch ++ [(devId, .multiStateInput (.new now devId i name 4))]
  | _ => batch

def addProfileObjects (devId : DeviceId) (profile : ProfileConfig) (batch : Batch) : Batch :=
  profile.objects.foldl
    (fun batch objCfg =>
      (rangeInclusive 1 objCfg.count).foldl (addObject lowercase now devId objCfg) batch)
    batch

def objectListOf (profile : ProfileConfig) (deviceInstance : UInt32) : List ObjectId :=
  profile.objects.foldl
    (fun list objCfg =>
      match parseObjectType lowercase objCfg.objectType with
      | some objType => list ++ (rangeInclusive 1 objCfg.count).map fun i => ⟨objType, i⟩
      | none => list)
    [⟨.device, deviceInstance⟩]

def buildDevice (profile : ProfileConfig) (built : Batch × ApduDispatcher Object)
    (deviceInstance : UInt32) : Batch × ApduDispatcher Object :=
  let (batch, dispatcher) := built
  let devId : DeviceId := ⟨deviceInstance⟩
  let devObj : DeviceObject :=
    { DeviceObject.new devId s!"device-{deviceInstance}" with
      objectList := objectListOf lowercase profile deviceInstance }
  let batch := batch ++ [(devId, .device devObj)]
  let batch := addProfileObjects lowercase now devId profile batch
  (batch, dispatcher.registerDevice (.new deviceInstance))

def buildGroup (config : SimulatorConfig) (built : Batch × ApduDispatcher Object)
    (group : DeviceGroupConfig) : Batch × ApduDispatcher Object :=
  match AList.lookup group.profile config.profiles with
  | none => built
  | some profile =>
    (rangeInclusive group.idRange.1 group.idRange.2).foldl (buildDevice lowercase now profile) built

/-- The store handed over is the dispatcher's own. -/
def buildSimulation (hash : Hasher) (config : SimulatorConfig) (dispatcher : ApduDispatcher Object) :
    ApduDispatcher Object :=
  let (batch, dispatcher) :=
    config.devices.foldl (buildGroup lowercase now config) ([], dispatcher)
  { dispatcher with store := dispatcher.store.bulkInsert hash batch }

def entryIds (objCfg : ObjectConfig) : List ObjectId :=
  match parseObjectType lowercase objCfg.objectType with
  | some objType => (rangeInclusive 1 objCfg.count).map fun i => ⟨objType, i⟩
  | none => []

def profileIds (profile : ProfileConfig) : List ObjectId :=
  profile.objects.flatMap (entryIds lowercase)

def groupDevices (config : SimulatorConfig) (group : DeviceGroupConfig) :
    List (UInt32 × ProfileConfig) :=
  match AList.lookup group.profile config.profiles with
  | some profile => (rangeInclusive group.idRange.1 group.idRange.2).map fun id => (id, profile)
  | none => []

def configuredDevices (config : SimulatorConfig) : List (UInt32 × ProfileConfig) :=
  config.devices.flatMap (groupDevices config)

/-- An entry of a batch without clock readings and texts: its device, its id, and the list
of a Device object. -/
abbrev Outline := DeviceId × ObjectId × Option (List ObjectId)

def keyOf (entry : DeviceId × Object) : DeviceId × ObjectId :=
  (entry.1, BacnetObject.objectId entry.2)

def outline (entry : DeviceId × Object) : Outline :=
  (entry.1, BacnetObject.objectId entry.2,
    match entry.2 with
    | .device o => some o.objectList
    | _ => none)

def deviceOutlines (device : UInt32 × ProfileConfig) : List Outline :=
  (⟨device.1⟩, ⟨.device, device.1⟩, some (objectListOf lowercase device.2 device.1)) ::
    (profileIds lowercase device.2).map fun oid => (⟨device.1⟩, oid, none)

def configuredKeys (config : SimulatorConfig) : List (DeviceId × ObjectId) :=
  (configuredDevices config).flatMap fun device =>
    (objectListOf lowercase device.2 device.1).map fun oid => (⟨device.1⟩, oid)

/-- The two tables of type names agree. -/
theorem addObject_outlines (devId : DeviceId) (objCfg : ObjectConfig) (batch : Batch) (i : UInt32) :
    (addObject lowercase now devId objCfg batch i).map outline =
      batch.map outline ++
        match parseObjectType lowercase objCfg.objectType with
        | some objType => [(devId, ⟨objType, i⟩, none)]
        | none => [] := by
  unfold addObject parseObjectType
  generalize normalize lowercase objCfg.objectType = name
  split <;> simp only [outline, List.map_append, List.map_cons, List.map_nil, List.append_nil] <;> rfl

theorem addProfileObjects_outlines (devId : DeviceId) (profile : ProfileConfig) (batch : Batch) :
    (addProfileObjects lowercase now devId profile batch).map outline =
      batch.map outline ++ (profileIds lowercase profile).map fun oid => (devId, oid, none) := by
  have turn : ∀ (batch : Batch) (objCfg : ObjectConfig),
      ((rangeInclusive 1 objCfg.count).foldl (addObject lowercase now devId objCfg) batch).map outline =
        batch.map outline ++ (entryIds lowercase objCfg).map fun oid => (devId, oid, none) := by
    intro batch objCfg
    unfold entryIds
    rw [foldl_emits (List.map outline) (addObject_outlines lowercase now devId objCfg)]
    cases parseObjectType lowercase objCfg.objectType with
    | some objType => simp only [List.map_map, Function.comp_def, ← List.map_eq_flatMap]
    | none => simp
  rw [profileIds, List.map_flatMap]
  exact foldl_emits (List.map outline) turn batch profile.objects

theorem objectListOf_eq (profile : ProfileConfig) (deviceInstance : UInt32) :
    objectListOf lowercase profile deviceInstance =
      ⟨.device, deviceInstance⟩ :: profileIds lowercase profile := by
  apply foldl_emits id _ [(⟨.device, deviceInstance⟩ : ObjectId)] profile.objects
  intro list objCfg
  unfold entryIds
  cases parseObjectType lowercase objCfg.objectType with
  | some objType => rfl
  | none => exact (List.append_nil list).symm

theorem buildDevice_outlines (profile : ProfileConfig) (built : Batch × ApduDispatcher Object)
    (deviceInstance : UInt32) :
    (buildDevice lowercase now profile built deviceInstance).1.map outline =
      built.1.map outline ++ deviceOutlines lowercase (deviceInstance, profile) := by
  simp only [buildDevice, addProfileObjects_outlines, List.map_append, List.append_assoc]
  rfl

theorem buildGroup_outlines (config : SimulatorConfig) (built : Batch × ApduDispatcher Object)
    (group : DeviceGroupConfig) :
    (buildGroup lowercase now config built group).1.map outline =
      built.1.map outline ++ (groupDevices config group).flatMap (deviceOutlines lowercase) := by
  unfold buildGroup groupDevices
  cases AList.lookup group.profile config.profiles with
  | none => simp
  | some profile =>
    simp only
    rw [foldl_emits (fun built : Batch × ApduDispatcher Object => built.1.map outline)
      (buildDevice_outlines lowercase now profile), List.flatMap_map]

def batchOf (config : SimulatorConfig) (dispatcher : ApduDispatcher Object) : Batch :=
  (config.devices.foldl (buildGroup lowercase now config) ([], dispatcher)).1

theorem batchOf_outlines (config : SimulatorConfig) (dispatcher : ApduDispatcher Object) :
    (batchOf lowercase now config dispatcher).map outline =
      (configuredDevices config).flatMap (deviceOutlines lowercase) := by
  rw [batchOf, foldl_emits (fun built : Batch × ApduDispatcher Object => built.1.map outline)
    (buildGroup_outlines lowercase now config), configuredDevices, List.flatMap_assoc]
  rfl

def registrations (config : SimulatorConfig) : List DeviceInfo :=
  (configuredDevices config).map fun device => .new device.1

theorem buildGroup_dispatcher (config : SimulatorConfig) (built : Batch × ApduDispatcher Object)
    (group : DeviceGroupConfig) :
    (buildGroup lowercase now config built group).2 =
      ((groupDevices config group).map fun device => DeviceInfo.new device.1).foldl
        ApduDispatcher.registerDevice built.2 := by
  unfold buildGroup groupDevices
  cases AList.lookup group.profile config.profiles with
  | none => rfl
  | some profile =>
    simp only [List.map_map, List.foldl_map, Function.comp_def]
    exact (List.foldl_hom Prod.snd fun built id => rfl).symm

theorem build_dispatcher (config : SimulatorConfig) (dispatcher : ApduDispatcher Object) :
    (config.devices.foldl (buildGroup lowercase now config) ([], dispatcher)).2 =
      (registrations config).foldl ApduDispatcher.registerDevice dispatcher := by
  rw [registrations, configuredDevices, List.map_flatMap, List.foldl_flatMap]
  exact (List.foldl_hom Prod.snd fun built group =>
    (buildGroup_dispatcher lowercase now config built group).symm).symm

theorem buildSimulation_eq (hash : Hasher) (config : SimulatorConfig)
    (dispatcher : ApduDispatcher Object) :
    buildSimulation lowercase now hash config dispatcher =
      ⟨ApduDispatcher.registerAll dispatcher.devices (registrations config),
        dispatcher.store.bulkInsert hash (batchOf lowercase now config dispatcher),
        dispatcher.sourceDeviceMap⟩ := by
  have registered := build_dispatcher lowercase now config dispatcher
  rw [ApduDispatcher.foldl_registerDevice] at registered
  simp only [buildSimulation, registered, batchOf]

theorem registered_iff (config : SimulatorConfig) (dispatcher : ApduDispatcher Object)
    (id : UInt32) :
    id ∈ ApduDispatcher.registerAll dispatcher.devices (registrations config) ↔
      id ∈ dispatcher.devices ∨ id ∈ (configuredDevices config).map (·.1) := by
  rw [ApduDispatcher.mem_registerAll, registrations, List.map_map]
  rfl

theorem mem_groupDevices {config : SimulatorConfig} {group : DeviceGroupConfig} {id : UInt32}
    {profile : ProfileConfig} :
    (id, profile) ∈ groupDevices config group ↔
      AList.lookup group.profile config.profiles = some profile ∧
        id ∈ rangeInclusive group.idRange.1 group.idRange.2 := by
  unfold groupDevices
  cases AList.lookup group.profile config.profiles with
  | none => simp
  | some known =>
    simp only [List.mem_map, Prod.mk.injEq, Option.some.injEq]
    constructor
    · rintro ⟨id', within, rfl, rfl⟩
      exact ⟨rfl, within⟩
    · rintro ⟨rfl, within⟩
      exact ⟨id, within, rfl, rfl⟩

theorem mem_configuredDevices {config : SimulatorConfig} {id : UInt32} {profile : ProfileConfig} :
    (id, profile) ∈ configuredDevices config ↔
      ∃ group ∈ config.devices, AList.lookup group.profile config.profiles = some profile ∧
        id ∈ rangeInclusive group.idRange.1 group.idRange.2 := by
  simp only [configuredDevices, List.mem_flatMap, mem_groupDevices]

end Build

end BacnetSim
