import BacnetSim.Sim.Answers
import BacnetSim.Sim.Listing

/-! A client that walks through a configured device over the wire, whatever else happens. -/
namespace BacnetSim
open Rust Ieee754 Transitions

theorem serve_found {hash : Hasher} (now : Clock) {d : ApduDispatcher Object} {req : ConfirmedRequest}
    {r : ReadPropertyRequest} {device : DeviceId} {o : Object} {v : PropertyValue}
    (service : req.service = .readProperty r) (found : d.store.lookup hash device r.objectId = some o)
    (read : BacnetObject.readProperty (now 0 0) o r.propertyId r.arrayIndex = .ok v) :
    (d.serve hash now req device).1 = .ok (ComplexAck.encode
      ⟨req.invokeId, .readProperty ⟨r.objectId, r.propertyId, r.arrayIndex, v⟩⟩) := by
  have present : d.store.get hash device r.objectId = some (shardKey hash device r.objectId) :=
    ObjectStore.get_of_lookup hash found
  have handled : handleReadProperty hash (now 0 0) r d.store device =
      .ok ⟨0, .readProperty ⟨r.objectId, r.propertyId, r.arrayIndex, v⟩⟩ := by
    simp only [handleReadProperty, present, okOr_some, ok_bind, ObjectRef.readProperty,
      ObjectStore.object_shardKey hash found, read]
    rfl
  simp only [ApduDispatcher.serve, service, handled, replyTo]

namespace Simulator
variable {M R N : Type}

/-- The requests of a walk, and the values that they ask for: the length of the object list, its
entries, and the identifier of each object that is listed. -/
inductive Walk (id : UInt32) (oids : List ObjectId) : ReadPropertyRequest → PropertyValue → Prop
  | count : Walk id oids ⟨⟨.device, id⟩, .objectList, some 0⟩ (.unsigned (UInt32.ofNat oids.length))
  | entry {i : UInt32} {oid : ObjectId} (counted : i ≠ 0) (listed : oids[i.toNat - 1]? = some oid) :
    Walk id oids ⟨⟨.device, id⟩, .objectList, some i⟩ (.objectId oid)
  | identify {oid : ObjectId} (listed : oid ∈ oids) : Walk id oids ⟨oid, .objectIdentifier, none⟩ (.objectId oid)

section Served
variable {hash : Hasher} {s : Simulator M R} {id : UInt32} {oids : List ObjectId}

theorem Lists.serve_walk (lists : Lists hash s id oids) (now : Clock) {req : ConfirmedRequest}
    {r : ReadPropertyRequest} {value : PropertyValue} (walk : Walk id oids r value)
    (service : req.service = .readProperty r) :
    (s.dispatcher.serve hash now req ⟨id⟩).1 = .ok (ComplexAck.encode
      ⟨req.invokeId, .readProperty ⟨r.objectId, r.propertyId, r.arrayIndex, value⟩⟩) := by
  obtain ⟨dev, found, rfl⟩ := lists.device
  cases walk with
  | count =>
    refine serve_found now service found ?_
    change DeviceObject.readArray _ (some 0) = _
    rw [DeviceObject.readArray, if_pos rfl, List.length_map]
  | @entry i oid counted listed =>
    refine serve_found now service found ?_
    change DeviceObject.readArray _ (some i) = _
    rw [DeviceObject.readArray, if_neg counted, List.getElem?_map, listed]
    rfl
  | @identify oid listed =>
    obtain ⟨o, there⟩ := Option.isSome_iff_exists.mp (lists.stored oid listed)
    refine serve_found now service there ?_
    rw [readProperty_objectIdentifier, lists.named_own listed there]

theorem Walk.device (own : ∀ oid ∈ oids, oid.objectType = .device → oid = ⟨.device, id⟩)
    {r : ReadPropertyRequest} {value : PropertyValue} (walk : Walk id oids r value)
    (type : r.objectId.objectType = .device) : r.objectId = ⟨.device, id⟩ := by
  cases walk with
  | count => rfl
  | entry counted listed => rfl
  | identify listed => exact own _ listed type

theorem Walk.resolves (registered : id ∈ s.devices)
    (own : ∀ oid ∈ oids, oid.objectType = .device → oid = ⟨.device, id⟩) {r : ReadPropertyRequest}
    {value : PropertyValue} (walk : Walk id oids r value) {req : ConfirmedRequest}
    (service : req.service = .readProperty r) {src : NetworkAddress}
    (session : r.objectId.objectType = .device ∨ AList.lookup src s.sourceDeviceMap = some ⟨id⟩) :
    (s.dispatcher.resolveDevice req src).1 = .ok ⟨id⟩ := by
  have primary : req.service.primaryObject = some r.objectId := by rw [service]; rfl
  rw [s.dispatcher.resolveDevice_primary primary]
  by_cases type : r.objectId.objectType = .device
  · have known : r.objectId.instanceNumber ∈ s.dispatcher.devices := by
      rw [walk.device own type]
      exact registered
    rw [ApduDispatcher.resolveTarget_registered _ type known, walk.device own type]
  · have held : AList.lookup src s.dispatcher.sourceDeviceMap = some ⟨id⟩ := session.resolve_left type
    rw [ApduDispatcher.resolveTarget_other _ type, held]
    rfl

end Served

section Runs
variable {hash : Hasher} {id : UInt32} {oids : List ObjectId} [ValueModel M R] [JsonNumber N]
  {arith : RealArith} {text : ApiText N} {start s : Simulator M R} {past : List (Event N)} {task : Nat}
  {frame : InboundFrame} {req : ConfirmedRequest} {r : ReadPropertyRequest} {value : PropertyValue}

theorem Lists.told (fresh : start.Fresh) (lists : Lists hash start id oids) (registered : id ∈ start.devices)
    (own : ∀ oid ∈ oids, oid.objectType = .device → oid = ⟨.device, id⟩)
    (run : reached (next hash arith text) start past = some s) (walk : Walk id oids r value)
    (heard : (framesOf past)[task]? = some frame) (asked : frame.confirmedRequest = some req)
    (service : req.service = .readProperty r)
    (session : r.objectId.objectType = .device ∨ ∀ (now : Clock) (before : Simulator M R),
      Took (next hash arith text) start past (.start task now) before →
        AList.lookup frame.src before.sourceDeviceMap = some ⟨id⟩)
    (ended : s.tasks[task]? = some .ended) :
    ⟨.unicast frame.src, Npdu.encodeLocal false (ComplexAck.encode
      ⟨req.invokeId, .readProperty ⟨r.objectId, r.propertyId, r.arrayIndex, value⟩⟩)⟩ ∈ s.outbound := by
  -- Whenever the task started, its request got the device.
  have resolves : ∀ {now : Clock} {before : Simulator M R},
      Took (next hash arith text) start past (.start task now) before →
        (before.dispatcher.resolveDevice req frame.src).1 = .ok ⟨id⟩ := by
    intro now before took
    have ⟨earlier, _, ran⟩ := took
    refine walk.resolves ((reached_keeps ran).devices ▸ registered) own service ?_
    exact session.imp_right fun held => held now before took
  obtain ⟨log, accounts⟩ := reached_accounts fresh.tasks fresh.outbound run
  rw [accounts.outbound]
  suffices given : _ ∈ Ledger.share log task from List.mem_map_of_mem (Ledger.mem_share.mp given)
  have owes := accounts.balanced.shares task _ ended frame heard
  generalize Ledger.share log task = given at owes
  cases owes with
  | sending answers =>
    rw [List.append_nil] at answers
    obtain ⟨now, before, ⟨earlier, _, ran⟩, rfl⟩ :=
      answers.of_single asked (fun specs => by rw [service]; nofun) resolves
    rw [(lists.kept (reached_keeps ran)).serve_walk now walk service]
    exact List.mem_singleton_self _

end Runs

section Configured
variable {lowercase : String → String} {built : Nat → Now} {hash : Hasher} {config : SimulatorConfig}
  {period : Duration} {started : Instant} {id : UInt32} {profile : ProfileConfig}

theorem configured_registered (configured_ : (id, profile) ∈ configuredDevices config) :
    id ∈ (configured lowercase built hash config period started : Simulator M R).devices := by
  change id ∈ (buildSimulation lowercase built hash config (.new .new)).devices
  rw [buildSimulation_eq, registered_iff]
  exact .inr (List.mem_map_of_mem configured_)

theorem objectListOf_own : ∀ oid ∈ objectListOf lowercase profile id,
    oid.objectType = .device → oid = ⟨.device, id⟩ := by
  intro oid listed type
  rw [objectListOf_eq] at listed
  rcases List.mem_cons.mp listed with same | inProfile
  · exact same
  · exact absurd type (profileIds_ne_device inProfile)

theorem demoIds_own : ∀ oid ∈ demoIds id, oid.objectType = .device → oid = ⟨.device, id⟩ := by
  intro oid listed type
  rcases mem_demoIds listed with same | ⟨i, _, rfl | rfl⟩
  · exact same
  · cases type
  · cases type

variable [ValueModel M R] [JsonNumber N] {arith : RealArith} {text : ApiText N} {s : Simulator M R}
  {past : List (Event N)} {task : Nat} {frame : InboundFrame} {req : ConfirmedRequest}
  {r : ReadPropertyRequest} {value : PropertyValue}

/-- In every run from a configuration, a client that walks through a device that one group
configures is told its objects: each of its requests whose task has ended was answered, with the
list as it was configured, and with the identifier of each object for that object. A request for
another object than the Device needs the client's session. -/
theorem walk_answered (narrow : config.Narrow) {group : DeviceGroupConfig}
    (only : config.devices.filter (fun group =>
      id ∈ rangeInclusive group.idRange.1 group.idRange.2) = [group])
    (known : AList.lookup group.profile config.profiles = some profile)
    (run : reached (next hash arith text) (configured lowercase built hash config period started) past =
      some s) (walk : Walk id (objectListOf lowercase profile id) r value)
    (heard : (framesOf past)[task]? = some frame) (asked : frame.confirmedRequest = some req)
    (service : req.service = .readProperty r)
    (session : r.objectId.objectType = .device ∨ ∀ (now : Clock) (before : Simulator M R),
      Took (next hash arith text) (configured lowercase built hash config period started) past
        (.start task now) before → AList.lookup frame.src before.sourceDeviceMap = some ⟨id⟩)
    (ended : s.tasks[task]? = some .ended) :
    ⟨.unicast frame.src, Npdu.encodeLocal false (ComplexAck.encode
      ⟨req.invokeId, .readProperty ⟨r.objectId, r.propertyId, r.arrayIndex, value⟩⟩)⟩ ∈ s.outbound := by
  obtain ⟨member, within⟩ := List.mem_filter.mp
    (show group ∈ config.devices.filter _ from only ▸ List.mem_singleton_self group)
  have configured_ : (id, profile) ∈ configuredDevices config :=
    mem_configuredDevices.mpr ⟨group, member, known, of_decide_eq_true within⟩
  exact (configured_lists narrow only known).told configured_fresh (configured_registered configured_)
    objectListOf_own run walk heard asked service session ended

def pending? : FrameTask → Option (List OutboundFrame)
  | .sending rest => some rest
  | _ => none

theorem sending_of_pending {t : Option FrameTask} {rest : List OutboundFrame}
    (pending : t.bind pending? = some rest) : t = some (.sending rest) := by
  obtain ⟨t, rfl, is⟩ := Option.bind_eq_some_iff.mp pending
  cases t with
  | sending rest' =>
    cases is
    rfl
  | _ => cases is

theorem office_walk_answered : deviceIdReply someClient 9 2 ⟨.device, 2⟩ ∈ officeEnd.outbound := by
  have only : officeConfig.devices.filter (fun group =>
      (2 : UInt32) ∈ rangeInclusive group.idRange.1 group.idRange.2) = [⟨(1, 2), "office"⟩] := rfl
  have heard : (framesOf officeRun)[0]? = some (readDeviceIdFrame someClient true 4 9 2) := by
    decide +kernel
  have asked : (readDeviceIdFrame someClient true 4 9 2).confirmedRequest =
      some (readDevicePdu 4 9 2).confirmedRequest := rfl
  have ended : officeEnd.tasks[0]? = some .ended := sending_of_pending (by decide +kernel)
  have walk : Walk 2 (objectListOf (fun s => s) office 2) ⟨⟨.device, 2⟩, .objectIdentifier, none⟩
      (.objectId ⟨.device, 2⟩) := .identify (by decide)
  exact walk_answered officeConfig_narrow only (AList.lookup_insert _) officeRun_reached walk heard asked
    rfl (.inl rfl) ended

theorem demo_walk_answered {built : ObjectId → Now} (narrow : Is22Bit id)
    (run : reached (next hash arith text) (demo built hash id period started) past = some s)
    (walk : Walk id (demoIds id) r value) (heard : (framesOf past)[task]? = some frame)
    (asked : frame.confirmedRequest = some req) (service : req.service = .readProperty r)
    (session : r.objectId.objectType = .device ∨ ∀ (now : Clock) (before : Simulator M R),
      Took (next hash arith text) (demo built hash id period started) past (.start task now) before →
        AList.lookup frame.src before.sourceDeviceMap = some ⟨id⟩)
    (ended : s.tasks[task]? = some .ended) :
    ⟨.unicast frame.src, Npdu.encodeLocal false (ComplexAck.encode
      ⟨req.invokeId, .readProperty ⟨r.objectId, r.propertyId, r.arrayIndex, value⟩⟩)⟩ ∈ s.outbound :=
  have registered : id ∈ (demo built hash id period started : Simulator M R).devices :=
    (AList.mem_insert _).mpr (.inl rfl)
  (demo_lists narrow).told demo_fresh registered demoIds_own run walk heard asked service session ended

end Configured

end Simulator

end BacnetSim
