import BacnetSim.Engine.Interleaved
import BacnetSim.Engine.Readback
import BacnetSim.Engine.ScheduleEngine
import BacnetSim.Sim.Builder
import BacnetSim.Sim.Rest
import BacnetSim.Transport.Ip

/-! The whole simulator (`main.rs`): what the transport, the tasks of the dispatcher, the tick
loop, the management API, scenarios and schedules do to one store, in any order of their steps. -/
namespace BacnetSim
open Rust Ieee754 Transitions

namespace Scenario
variable {Obj : Type} [BacnetObject Obj] (hash : Hasher) (now : Now)

def force (store : ObjectStore Obj) (dev : DeviceId) (oid : ObjectId) (value : PropertyValue) :
    ObjectStore Obj :=
  match store.get hash dev oid with
  | some r =>
    match r.forceWriteProperty now store .presentValue value with
    | .ok (_, store) => store
    | .error _ => store
  | none => store

/-- The object that a script names; an unknown type number means `unnamed`. -/
def objectNamed (unnamed : ObjectType) (objectType inst : Int64) : ObjectId :=
  ⟨(ObjectType.fromU16 objectType.toUInt64.toUInt16).getD unnamed, inst.toUInt64.toUInt32⟩

def deviceNamed (deviceId : Int64) : DeviceId := ⟨deviceId.toUInt64.toUInt32⟩

def setAnalog (store : ObjectStore Obj) (deviceId objectType inst : Int64) (value : F64) :
    ObjectStore Obj :=
  force hash now store (deviceNamed deviceId) (objectNamed .analogInput objectType inst)
    (.real (F32.ofF64 value))

def setBinary (store : ObjectStore Obj) (deviceId objectType inst : Int64) (value : Bool) :
    ObjectStore Obj :=
  force hash now store (deviceNamed deviceId) (objectNamed .binaryInput objectType inst)
    (.boolean value)

end Scenario

/-- How far a task of the dispatcher has got with its frame. A ReadPropertyMultiple carries the
results of the specs that it has read. -/
inductive FrameTask where
  | received (frame : InboundFrame)
  | resolved (src : NetworkAddress) (req : ConfirmedRequest) (device : DeviceId)
  | reading (src : NetworkAddress) (invokeId : UInt8) (device : DeviceId)
    (results : List ObjectPropertyResult) (rest : List ReadAccessSpec)
  | sending (rest : List OutboundFrame)

abbrev FrameTask.ended : FrameTask := .sending []

structure Ticking (M R : Type) where
  clock : TickClock
  sweep : Sweep M R
  rest : List (Fin numShards)

structure Simulator (M R : Type) where
  devices : HashMap UInt32 DeviceInfo
  sourceDeviceMap : HashMap NetworkAddress DeviceId
  loop : TickLoop Object M R
  ticking : Option (Ticking M R)
  /-- The turn of the schedule engine that has its value and has still to write it. -/
  driving : Option (ScheduleTurn × PropertyValue)
  deviceIds : List UInt32
  /-- The receive loop has not panicked. -/
  receiving : Bool
  tasks : List FrameTask
  outbound : List OutboundFrame

inductive Event (N : Type) where
  | datagram (src : SocketAddr) (octets : Bytes)
  | start (task : Nat) (now : Clock)
  | serve (task : Nat) (now : Clock)
  | read (task : Nat) (now : Nat → Now)
  | send (task : Nat)
  | tick (clock : TickClock)
  | sweep
  | put (now : Now) (devId : UInt32) (objType : String) (inst : UInt32) (prop : String)
    (value : Json N)
  | setAnalog (now : Now) (deviceId objectType inst : Int64) (value : F64)
  | setBinary (now : Now) (deviceId objectType inst : Int64) (value : Bool)
  | look (turn : ScheduleTurn)
  | drive

namespace Simulator
variable {M R N : Type}

def store (s : Simulator M R) : ObjectStore Object := s.loop.engine.store

def withStore (s : Simulator M R) (store : ObjectStore Object) : Simulator M R :=
  { s with loop := s.loop.withStore store }

def dispatcher (s : Simulator M R) : ApduDispatcher Object := ⟨s.devices, s.store, s.sourceDeviceMap⟩

def api (s : Simulator M R) : Rest.AppState Object := ⟨s.store, s.deviceIds⟩

variable [ValueModel M R] [JsonNumber N] (hash : Hasher) (arith : RealArith) (text : ApiText N)

def reply (src : NetworkAddress) : Result Bytes → List OutboundFrame
  | .ok apdu => [⟨.unicast src, Npdu.encodeLocal false apdu⟩]
  | .error _ => []

def setTask (s : Simulator M R) (task : Nat) (t : FrameTask) : Simulator M R :=
  { s with tasks := s.tasks.set task t }

/-- A task takes its frame: it resolves the device of a confirmed request, or has the answers to
another one. -/
def begin (s : Simulator M R) (task : Nat) (now : Clock) (frame : InboundFrame) : Simulator M R :=
  match frame.confirmedRequest with
  | some req =>
    let (result, d) := s.dispatcher.resolveDevice req frame.src
    { s with sourceDeviceMap := d.sourceDeviceMap }.setTask task
      (match result with
      | .ok device => .resolved frame.src req device
      | .error _ => .ended)
  | none => s.setTask task (.sending (s.dispatcher.handleFrame hash now frame).sent)

/-- A task serves its request. A ReadPropertyMultiple reads the objects one after the other. -/
def serve (s : Simulator M R) (task : Nat) (now : Clock) (src : NetworkAddress)
    (req : ConfirmedRequest) (device : DeviceId) : Simulator M R :=
  match req.service with
  | .readPropertyMultiple specs => s.setTask task (.reading src req.invokeId device [] specs)
  | _ =>
    let (answer, d) := s.dispatcher.serve hash now req device
    (s.withStore d.store).setTask task (.sending (reply src answer))

def read (s : Simulator M R) (task : Nat) (now : Nat → Now) (src : NetworkAddress) (invokeId : UInt8)
    (device : DeviceId) (results : List ObjectPropertyResult) : List ReadAccessSpec → Simulator M R
  | [] =>
    let ack : ComplexAck := { invokeId, service := .readPropertyMultiple results }
    s.setTask task (.sending (reply src (.ok ack.encode)))
  | spec :: rest =>
    match handleSpec hash now spec s.store device with
    | .ok result => s.setTask task (.reading src invokeId device (results ++ [result]) rest)
    | .error _ => s.setTask task .ended

def sweep (s : Simulator M R) (t : Ticking M R) : Simulator M R :=
  match t.rest with
  | i :: rest =>
    let (sweep, shards) := Shards.visitShards (TickLoop.update arith s.loop.period t.clock)
      (t.sweep, s.store.shards) [i]
    { s.withStore ⟨shards⟩ with ticking := some ⟨t.clock, sweep, rest⟩ }
  | [] =>
    { s with
      loop := (s.loop.finish arith t.clock (t.sweep, s.store.shards)).2
      ticking := none }

/-- One step of one party, under the lock of one shard at most. No step adds or removes an object,
so what a call looks up is still there when it takes the lock again. -/
def next (s : Simulator M R) : Event N → Option (Simulator M R)
  | .datagram src octets =>
    if s.receiving then
      match BacnetIpTransport.receive src octets with
      | .ok (some frame) => some { s with tasks := s.tasks ++ [.received frame] }
      | .ok none => some s
      | .error _ => some { s with receiving := false }
    else none
  | .start task now =>
    match s.tasks[task]? with
    | some (.received frame) => some (s.begin hash task now frame)
    | _ => none
  | .serve task now =>
    match s.tasks[task]? with
    | some (.resolved src req device) => some (s.serve hash task now src req device)
    | _ => none
  | .read task now =>
    match s.tasks[task]? with
    | some (.reading src invokeId device results rest) =>
      some (s.read hash task now src invokeId device results rest)
    | _ => none
  | .send task =>
    match s.tasks[task]? with
    | some (.sending (frame :: rest)) =>
      some { s.setTask task (.sending rest) with outbound := s.outbound ++ [frame] }
    | _ => none
  | .tick clock =>
    match s.ticking with
    | none =>
      some { s with ticking := some ⟨clock, ⟨s.loop.engine.models, []⟩, List.finRange numShards⟩ }
    | some _ => none
  | .sweep => s.ticking.map (s.sweep arith)
  | .put now devId objType inst prop value =>
    some (s.withStore (s.api.writeProperty hash now text devId objType inst prop value).2.store)
  | .setAnalog now deviceId objectType inst value =>
    some (s.withStore (Scenario.setAnalog hash now s.store deviceId objectType inst value))
  | .setBinary now deviceId objectType inst value =>
    some (s.withStore (Scenario.setBinary hash now s.store deviceId objectType inst value))
  | .look turn =>
    match s.driving with
    | none => some { s with driving := (ScheduleEngine.value hash s.store turn).map (turn, ·) }
    | some _ => none
  | .drive => s.driving.map fun d =>
    { s.withStore (ScheduleEngine.give hash s.store d.1 d.2) with driving := none }

end Simulator

namespace Simulator
variable {M R : Type}

/-- The tasks that `main` spawns, before any of them has done anything. -/
def ofParts (d : ApduDispatcher Object) (deviceIds : List UInt32) (period : Duration)
    (started : Instant) : Simulator M R where
  devices := d.devices
  sourceDeviceMap := d.sourceDeviceMap
  loop := ⟨SimEngine.new d.store, period, started⟩
  ticking := none
  driving := none
  deviceIds
  receiving := true
  tasks := []
  outbound := []

/-- All ids of all groups, whatever their profiles. -/
def registerIds (config : SimulatorConfig) (api : Rest.AppState Object) : Rest.AppState Object :=
  config.devices.foldl
    (fun api group =>
      (rangeInclusive group.idRange.1 group.idRange.2).foldl Rest.AppState.registerDevice api)
    api

/-- Started from a configuration file. `build_simulation` gives no object a value model. -/
def configured (lowercase : String → String) (now : Nat → Now) (hash : Hasher)
    (config : SimulatorConfig) (period : Duration) (started : Instant) : Simulator M R :=
  ofParts (buildSimulation lowercase now hash config (.new .new))
    (registerIds config (.new .new)).deviceIds period started

def demoIds (deviceId : UInt32) : List ObjectId :=
  ⟨.device, deviceId⟩ :: ((rangeInclusive 1 8).map (⟨.analogInput, ·⟩) ++
    (rangeInclusive 1 4).map (⟨.binaryInput, ·⟩))

/-- `format!("{i:02}")`. -/
def twoDigits (i : UInt32) : String :=
  let digits := toString i.toNat
  "".pushn '0' (2 - digits.length) ++ digits

def demoObjects (now : ObjectId → Now) (deviceId : UInt32) : List Object :=
  .device { DeviceObject.new ⟨deviceId⟩ "bacnet-sim-device" with objectList := demoIds deviceId } ::
    ((rangeInclusive 1 8).map (fun i => .analogInput (.new (now ⟨.analogInput, i⟩) ⟨deviceId⟩ i
        ("AI-" ++ twoDigits i) .degreesCelsius)) ++
      (rangeInclusive 1 4).map fun i => .binaryInput (.new (now ⟨.binaryInput, i⟩) ⟨deviceId⟩ i
        ("BI-" ++ twoDigits i)))

def demoStore (now : ObjectId → Now) (hash : Hasher) (deviceId : UInt32) : ObjectStore Object :=
  (demoObjects now deviceId).foldl (fun store o => store.insert hash ⟨deviceId⟩ o) .new

/-- Started without one: a single device. -/
def demo (now : ObjectId → Now) (hash : Hasher) (deviceId : UInt32) (period : Duration)
    (started : Instant) : Simulator M R :=
  ofParts ((ApduDispatcher.new (demoStore now hash deviceId)).registerDevice (.new deviceId))
    ((Rest.AppState.new (demoStore now hash deviceId)).registerDevice deviceId).deviceIds period started

end Simulator

def Object.device? : Object → Option DeviceObject
  | device o => some o
  | _ => none

def Object.isTimed : Object → Bool
  | schedule _ | trendLog _ => true
  | _ => false

/-- What no step may change: what an object is called, whether it is timed, and all of a Device
object. -/
def plate (o : Object) : (DeviceId × ObjectId) × Bool × Option DeviceObject :=
  (ids o, o.isTimed, o.device?)

theorem plate_eq {o o' : Object} (names : ids o' = ids o) (timed : o'.isTimed = o.isTimed)
    (device : o'.device? = o.device?) : plate o' = plate o := by
  rw [plate, names, timed, device, plate]

theorem plate_write (now : Now) (o : Object) (p : PropertyIdentifier) (i : Option UInt32)
    (v : PropertyValue) (pri : Option UInt8) :
    plate (BacnetObject.writeProperty now o p i v pri).2 = plate o := by
  refine plate_eq (Object.keepsIds.writes now o p i v pri) ?_ ?_
  · cases o <;> rfl
  · cases o <;> rfl

theorem plate_force (now : Now) (o : Object) (p : PropertyIdentifier) (v : PropertyValue) :
    plate (BacnetObject.forceWriteProperty now o p v).2 = plate o :=
  forced_keeps (fun o p v => plate_write now o p none v none) o p v

theorem plate_tick (now : Now) (o : Object) (system : SystemTime) (period : Duration) :
    plate (BacnetObject.tick now o system period) = plate o := by
  refine plate_eq (Object.keepsIds.ticks now o system period) ?_ ?_
  · cases o <;> rfl
  · cases o <;> rfl

/-- From one store to another only the objects at some places changed, and no object is another. -/
structure Alters (touched : ObjectRef → Prop) (store store' : ObjectStore Object) : Prop where
  others : ∀ r, ¬ touched r → store'.at r = store.at r
  plates : ∀ r, (store'.at r).map plate = (store.at r).map plate

theorem at_of_object {store : ObjectStore Object} {r : ObjectRef} {o : Object}
    (there : r.object store = .ok o) : store.at r = some o := by
  unfold ObjectRef.object at there
  unfold ObjectStore.at
  cases found : store.shards.lookup r.shard r.key with
  | some o' =>
    rw [found] at there
    cases there
    rfl
  | none =>
    rw [found] at there
    cases there

theorem ref_of_get {hash : Hasher} {store : ObjectStore Object} {device : DeviceId} {oid : ObjectId}
    {r : ObjectRef} (found : store.get hash device oid = some r) : r = shardKey hash device oid := by
  rw [ObjectStore.get_eq] at found
  split at found
  · exact (Option.some.inj found).symm
  · cases found

namespace Alters
variable {touched touched' : ObjectRef → Prop} {store : ObjectStore Object} {r : ObjectRef}

theorem refl (store : ObjectStore Object) : Alters touched store store := ⟨fun _ _ => rfl, fun _ => rfl⟩

theorem mono {store' : ObjectStore Object} (alters : Alters touched store store')
    (wider : ∀ r, touched r → touched' r) : Alters touched' store store' :=
  ⟨fun r free => alters.others r fun hit => free (wider r hit), alters.plates⟩

theorem put {o o' : Object} (found : store.at r = some o) (same : plate o' = plate o) :
    Alters (· = r) store (r.put store o') := by
  constructor
  · intro r' other
    rw [ScheduleEngine.at_put, Function.update_of_ne other]
  · intro r'
    rw [ScheduleEngine.at_put]
    by_cases here : r' = r
    · subst here
      rw [Function.update_self, found, Option.map_some, Option.map_some, same]
    · rw [Function.update_of_ne here]

theorem write {now : Now} {p : PropertyIdentifier} {i : Option UInt32} {v : PropertyValue}
    {pri : Option UInt8} {answer : Except BacnetError Unit × ObjectStore Object}
    (written : r.writeProperty now store p i v pri = .ok answer) : Alters (· = r) store answer.2 := by
  obtain ⟨o, there, left⟩ := bind_eq_ok written
  cases left
  exact put (at_of_object there) (plate_write now o p i v pri)

theorem force {now : Now} {p : PropertyIdentifier} {v : PropertyValue}
    {answer : Except BacnetError Unit × ObjectStore Object}
    (forced : r.forceWriteProperty now store p v = .ok answer) : Alters (· = r) store answer.2 := by
  obtain ⟨o, there, left⟩ := bind_eq_ok forced
  cases left
  exact put (at_of_object there) (plate_force now o p v)

variable (hash : Hasher)

theorem serve (now : Clock) (d : ApduDispatcher Object) (req : ConfirmedRequest) (device : DeviceId) :
    Alters (fun r => ∃ w, req.service = .writeProperty w ∧ r = shardKey hash device w.objectId)
      d.store (d.serve hash now req device).2.store := by
  cases service : req.service with
  | readProperty r =>
    simp only [ApduDispatcher.serve, service]
    exact refl d.store
  | readPropertyMultiple specs =>
    simp only [ApduDispatcher.serve, service]
    exact refl d.store
  | subscribeCov sub =>
    simp only [ApduDispatcher.serve, service]
    exact refl d.store
  | writeProperty w =>
    simp only [ApduDispatcher.serve, service, handleWriteProperty]
    cases found : d.store.get hash device w.objectId with
    | none => exact refl d.store
    | some r =>
      cases written : r.writeProperty (now 0 0) d.store w.propertyId w.arrayIndex w.value w.priority with
      | error f =>
        simp only [written]
        exact refl d.store
      | ok answer =>
        simp only [written]
        exact (write written).mono fun r' here => ⟨w, rfl, here.trans (ref_of_get found)⟩

theorem put_request {N : Type} [JsonNumber N] (now : Now) (text : ApiText N) (s : Rest.AppState Object)
    (devId : UInt32) (objType : String) (inst : UInt32) (prop : String) (value : Json N) :
    Alters (fun r => ∃ t, Rest.parseObjectType text.lowercase objType = .ok t ∧
        r = shardKey hash ⟨devId⟩ ⟨t, inst⟩)
      s.store (s.writeProperty hash now text devId objType inst prop value).2.store := by
  simp only [Rest.AppState.writeProperty]
  split
  · exact refl s.store
  · rename_i r pid pv parsed
    obtain ⟨t, type, parsed⟩ := bind_eq_ok parsed
    obtain ⟨p, _, parsed⟩ := bind_eq_ok parsed
    obtain ⟨r', found, parsed⟩ := bind_eq_ok parsed
    have here : r' = r := by
      cases converted : jsonToPropertyValue text value with
      | ok pv =>
        rw [converted] at parsed
        cases parsed
        rfl
      | error e =>
        rw [converted] at parsed
        cases parsed
    have place := ref_of_get (okOr_eq_ok found)
    rw [here] at place
    cases forced : r.forceWriteProperty now s.store pid pv with
    | error f => exact refl s.store
    | ok answer =>
      obtain ⟨result, store⟩ := answer
      have altered : Alters (· = r) s.store store := force forced
      cases result with
      | ok u => exact altered.mono fun r' same => ⟨t, type, same.trans place⟩
      | error e => exact altered.mono fun r' same => ⟨t, type, same.trans place⟩

theorem scenario (now : Now) (store : ObjectStore Object) (dev : DeviceId) (oid : ObjectId)
    (value : PropertyValue) :
    Alters (· = shardKey hash dev oid) store (Scenario.force hash now store dev oid value) := by
  unfold Scenario.force
  cases found : store.get hash dev oid with
  | none => exact refl store
  | some r =>
    cases forced : r.forceWriteProperty now store .presentValue value with
    | error f =>
      simp only [forced]
      exact refl store
    | ok answer =>
      simp only [forced]
      exact (force forced).mono fun r' same => same.trans (ref_of_get found)

theorem give (store : ObjectStore Object) (turn : ScheduleTurn) (pv : PropertyValue) :
    Alters (· = turn.target hash) store (ScheduleEngine.give hash store turn pv) := by
  unfold ScheduleEngine.give
  cases found : store.get hash turn.out.targetDevice turn.out.targetObject with
  | none => exact refl store
  | some r =>
    cases written : r.writeProperty turn.writing store turn.out.targetProperty none pv none with
    | error f =>
      simp only [written]
      exact refl store
    | ok answer =>
      simp only [written]
      exact (write written).mono fun r' same => same.trans (ref_of_get found)

end Alters

theorem tick_untimed {o : Object} (untimed : o.isTimed = false) (now : Now) (system : SystemTime)
    (period : Duration) : BacnetObject.tick now o system period = o := by
  cases o with
  | schedule o => cases untimed
  | trendLog o => cases untimed
  | _ => rfl

namespace TickLoop
variable {M R : Type} [ValueModel M R] (arith : RealArith) (clock : TickClock)

def Moves (models : HashMap StoreKey (ModelEntry M R)) (store : ObjectStore Object) (r : ObjectRef) : Prop :=
  r.key ∈ models ∨ ∃ o, store.at r = some o ∧ o.isTimed = true

variable {arith clock} {period : Duration} {c : Sweep M R} {i : Fin numShards} {k : StoreKey} {o : Object}

theorem update_plate : plate (update arith period clock c i k o).2 = plate o := by
  cases modelled : AList.lookup k c.models with
  | none =>
    rw [update_unmodelled arith modelled]
    exact plate_tick _ _ _ _
  | some entry =>
    rw [update_modelled arith Object.keepsIds modelled]
    exact (plate_tick _ _ _ _).trans (plate_force _ _ _ _)

theorem update_still (unmodelled : k ∉ c.models) (untimed : o.isTimed = false) :
    (update arith period clock c i k o).2 = o := by
  rw [update_unmodelled arith (AList.lookup_eq_none.mpr unmodelled)]
  exact tick_untimed untimed _ _ _

theorem update_models {k' : StoreKey} : k' ∈ (update arith period clock c i k o).1.models ↔ k' ∈ c.models := by
  cases modelled : AList.lookup k c.models with
  | none => rw [update_unmodelled arith modelled]
  | some entry =>
    rw [update_modelled arith Object.keepsIds modelled, AList.mem_insert]
    constructor
    · rintro (rfl | mem)
      · exact AList.lookup_isSome.mp (by rw [modelled]; rfl)
      · exact mem
    · exact .inr

variable (arith period clock) (shards : Shards numShards StoreKey Object) (is : List (Fin numShards))

theorem visited_keeps (c : Sweep M R) :
    (∀ k, k ∈ (Shards.visitShards (update arith period clock) (c, shards) is).1.models ↔ k ∈ c.models) ∧
      Alters (Moves c.models ⟨shards⟩) ⟨shards⟩
        ⟨(Shards.visitShards (update arith period clock) (c, shards) is).2⟩ := by
  obtain ⟨models, each⟩ := Shards.visitShards_relates
    (I := fun c' : Sweep M R => ∀ k, k ∈ c'.models ↔ k ∈ c.models)
    (R := fun _ k o o' => plate o' = plate o ∧ (k ∉ c.models → o.isTimed = false → o' = o))
    (fun o => ⟨rfl, fun _ _ => rfl⟩)
    (by
      rintro i k o o' o'' ⟨plates, still⟩ ⟨plates', still'⟩
      refine ⟨plates'.trans plates, fun unmodelled untimed => ?_⟩
      have untimed' : o'.isTimed = false := (congrArg (·.2.1) plates).trans untimed
      exact (still' unmodelled untimed').trans (still unmodelled untimed))
    (fun held k => update_models.trans (held k))
    (fun held => ⟨update_plate, fun unmodelled untimed =>
      update_still (fun mem => unmodelled ((held _).mp mem)) untimed⟩)
    (c, shards) (fun _ => Iff.rfl) is
  refine ⟨models, ⟨fun r free => ?_, fun r => ?_⟩⟩
  · rw [Moves, not_or] at free
    have related : Option.Rel _ (ObjectStore.at ⟨shards⟩ r) (ObjectStore.at ⟨_⟩ r) := each r.shard r.key
    generalize ObjectStore.at ⟨(Shards.visitShards _ _ _).2⟩ r = after at related ⊢
    cases before : ObjectStore.at ⟨shards⟩ r with
    | none =>
      rw [before] at related
      cases related
      rfl
    | some o =>
      rw [before] at related
      cases related with
      | some same =>
        have untimed : o.isTimed = false :=
          Bool.eq_false_iff.mpr fun timed => free.2 ⟨o, before, timed⟩
        exact congrArg some (same.2 free.1 untimed)
  · have related : Option.Rel _ (ObjectStore.at ⟨shards⟩ r) (ObjectStore.at ⟨_⟩ r) := each r.shard r.key
    generalize ObjectStore.at ⟨(Shards.visitShards _ _ _).2⟩ r = after at related ⊢
    generalize ObjectStore.at ⟨shards⟩ r = before at related ⊢
    cases related with
    | none => rfl
    | some same => exact congrArg some same.1

end TickLoop

end BacnetSim
