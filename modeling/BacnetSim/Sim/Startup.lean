import BacnetSim.Sim.Inventory
import BacnetSim.Sim.Steps
import BacnetSim.Sim.Wire
import BacnetSim.Stack.Discovery

/-! The two ways in which the simulator starts (`main.rs`), and what holds of it from then on. -/
namespace BacnetSim
open Rust Ieee754 Transitions

theorem at_insertions (hash : Hasher) {objects : List (DeviceId × Object)} {store : ObjectStore Object}
    {r : ObjectRef} {o : Object}
    (found : (objects.foldl (fun store entry => store.insert hash entry.1 entry.2) store).at r = some o) :
    (∃ entry ∈ objects, entry.2 = o ∧ r = shardKey hash entry.1 (BacnetObject.objectId entry.2)) ∨
      store.at r = some o := by
  induction objects generalizing store with
  | nil => exact .inr found
  | cons entry objects ih =>
    rcases ih found with ⟨later, mem, same, here⟩ | before
    · exact .inl ⟨later, List.mem_cons_of_mem entry mem, same, here⟩
    · change (store.insert hash entry.1 entry.2).at r = some o at before
      rw [ObjectStore.insert_eq_put, ScheduleEngine.at_put] at before
      by_cases here : r = shardKey hash entry.1 (BacnetObject.objectId entry.2)
      · rw [here, Function.update_self] at before
        exact .inl ⟨entry, List.mem_cons_self, Option.some.inj before, here⟩
      · rw [Function.update_of_ne here] at before
        exact .inr before

theorem at_new (r : ObjectRef) : (ObjectStore.new : ObjectStore Object).at r = none :=
  Shards.lookup_empty r.shard r.key

section Batches
variable {lowercase : String → String} {now : Nat → Now} {config : SimulatorConfig}

def Untimed (batch : Batch) : Prop := ∀ entry ∈ batch, entry.2.isTimed = false

theorem Untimed.append {batch : Batch} (untimed : Untimed batch) {device : DeviceId} {o : Object}
    (new : o.isTimed = false) : Untimed (batch ++ [(device, o)]) := by
  intro entry mem
  rcases List.mem_append.mp mem with old | added
  · exact untimed entry old
  · rw [List.mem_singleton.mp added]
    exact new

theorem addObject_untimed (devId : DeviceId) (objCfg : ObjectConfig) {batch : Batch} (i : UInt32)
    (untimed : Untimed batch) : Untimed (addObject lowercase now devId objCfg batch i) := by
  unfold addObject
  split
  all_goals first | exact untimed.append rfl | exact untimed

theorem batchOf_untimed (dispatcher : ApduDispatcher Object) :
    Untimed (batchOf lowercase now config dispatcher) := by
  have none_ : Untimed ([] : Batch) := fun entry mem => by cases mem
  refine List.foldlRecOn config.devices (motive := fun built : Batch × ApduDispatcher Object =>
    Untimed built.1) _ none_ fun built untimed group _ => ?_
  unfold buildGroup
  cases AList.lookup group.profile config.profiles with
  | none => exact untimed
  | some profile =>
    refine List.foldlRecOn (rangeInclusive group.idRange.1 group.idRange.2)
      (motive := fun built : Batch × ApduDispatcher Object => Untimed built.1) _ untimed
      fun built untimed id _ => ?_
    refine List.foldlRecOn profile.objects (motive := Untimed) _ (untimed.append rfl)
      fun batch untimed objCfg _ => ?_
    exact List.foldlRecOn (rangeInclusive 1 objCfg.count) (motive := Untimed) _ untimed
      fun batch untimed i _ => addObject_untimed _ objCfg i untimed

end Batches

namespace Simulator
variable {M R N : Type}

/-- A simulator that has had no client yet, between two ticks and with no schedule under way. -/
structure Fresh (s : Simulator M R) : Prop where
  tasks : s.tasks = []
  outbound : s.outbound = []
  sessions : s.sourceDeviceMap = ∅
  idle : s.ticking = none
  undriven : s.driving = none
  registered : ∀ info ∈ s.devices.values, info.deviceId.id ∈ s.devices

/-- No model and no timed object: ticks have nothing to do. -/
structure Still (s : Simulator M R) : Prop where
  unmodelled : ∀ k, k ∉ s.loop.engine.models
  untimed : ∀ r o, s.store.at r = some o → o.isTimed = false
  ticking : ∀ t, s.ticking = some t → (∀ k, k ∉ t.sweep.models) ∧ t.sweep.changed = []

section Parts
variable {d : ApduDispatcher Object} {deviceIds : List UInt32} {period : Duration} {started : Instant}

theorem ofParts_fresh (sessions : d.sourceDeviceMap = ∅) (filed : System.Filed d.devices) :
    (ofParts d deviceIds period started : Simulator M R).Fresh where
  tasks := rfl
  outbound := rfl
  sessions := sessions
  idle := rfl
  undriven := rfl
  registered info mem := by
    have listed := List.mem_map_of_mem (f := fun info : DeviceInfo => info.deviceId.id) mem
    exact AList.mem_keys.mpr (System.values_ids filed ▸ listed)

theorem ofParts_still (untimed : ∀ r o, d.store.at r = some o → o.isTimed = false) :
    (ofParts d deviceIds period started : Simulator M R).Still where
  unmodelled := AList.notMem_empty
  untimed := untimed
  ticking t ticking := by cases ticking

end Parts

section Starts
variable {lowercase : String → String} {now : Nat → Now} {hash : Hasher} {config : SimulatorConfig}
  {period : Duration} {started : Instant}

theorem configured_fresh :
    (configured lowercase now hash config period started : Simulator M R).Fresh := by
  refine ofParts_fresh ?_ ?_
  · rw [buildSimulation_eq]
    rfl
  · rw [buildSimulation_eq]
    exact System.filed_registry _

theorem configured_still :
    (configured lowercase now hash config period started : Simulator M R).Still := by
  refine ofParts_still fun r o found => ?_
  rw [buildSimulation_eq, ObjectStore.bulkInsert_eq_foldl] at found
  rcases at_insertions hash found with ⟨entry, mem, rfl, _⟩ | before
  · exact batchOf_untimed _ entry mem
  · cases (at_new r).symm.trans before

variable {built : ObjectId → Now} {deviceId : UInt32}

theorem demoObjects_untimed {o : Object} (mem : o ∈ demoObjects built deviceId) : o.isTimed = false := by
  rcases List.mem_cons.mp mem with rfl | mem
  · rfl
  · rcases List.mem_append.mp mem with mem | mem
    · obtain ⟨i, _, rfl⟩ := List.mem_map.mp mem
      rfl
    · obtain ⟨i, _, rfl⟩ := List.mem_map.mp mem
      rfl

theorem demoStore_eq : demoStore built hash deviceId =
    ((demoObjects built deviceId).map fun o => (⟨deviceId⟩, o)).foldl
      (fun store entry => store.insert hash entry.1 entry.2) .new := by
  rw [demoStore, List.foldl_map]

theorem demo_fresh : (demo built hash deviceId period started : Simulator M R).Fresh :=
  ofParts_fresh rfl (System.filed_registry [.new deviceId])

theorem demo_still : (demo built hash deviceId period started : Simulator M R).Still := by
  refine ofParts_still fun r o found => ?_
  change (demoStore built hash deviceId).at r = some o at found
  rw [demoStore_eq] at found
  rcases at_insertions hash found with ⟨entry, mem, rfl, _⟩ | before
  · obtain ⟨o, inside, rfl⟩ := List.mem_map.mp mem
    exact demoObjects_untimed inside
  · cases (at_new r).symm.trans before

end Starts

inductive Started : Simulator M R → Prop
  | configured {lowercase : String → String} {now : Nat → Now} {hash : Hasher}
    {config : SimulatorConfig} {period : Duration} {started : Instant} :
    Started (configured lowercase now hash config period started)
  | demo {now : ObjectId → Now} {hash : Hasher} {deviceId : UInt32} {period : Duration}
    {started : Instant} : Started (demo now hash deviceId period started)

variable {s s' start : Simulator M R}

theorem Started.fresh (started : start.Started) : start.Fresh := by
  cases started with
  | configured => exact configured_fresh
  | demo => exact demo_fresh

theorem Started.still (started : start.Started) : start.Still := by
  cases started with
  | configured => exact configured_still
  | demo => exact demo_still

end Simulator

namespace TickLoop
variable {M R : Type} [ValueModel M R] {arith : RealArith} {period : Duration} {clock : TickClock}
  {c : Sweep M R} {store : ObjectStore Object}

theorem visited_still (unmodelled : ∀ k, k ∉ c.models) (none_ : c.changed = [])
    (untimed : ∀ r o, store.at r = some o → o.isTimed = false) (is : List (Fin numShards)) :
    ((∀ k, k ∉ (Shards.visitShards (update arith period clock) (c, store.shards) is).1.models) ∧
      (Shards.visitShards (update arith period clock) (c, store.shards) is).1.changed = []) ∧
      ∀ r, ObjectStore.at ⟨(Shards.visitShards (update arith period clock) (c, store.shards) is).2⟩ r =
        store.at r := by
  have passed : (∀ k, k ∉ (Shards.visitShards (update arith period clock) (c, store.shards) is).1.models) ∧
      (Shards.visitShards (update arith period clock) (c, store.shards) is).1.changed = [] :=
    (Shards.visitShards_relates (I := fun c : Sweep M R => (∀ k, k ∉ c.models) ∧ c.changed = [])
    (R := fun _ _ _ _ => True) (fun _ => trivial) (fun _ _ => trivial)
    (by
      rintro c i k o ⟨unmodelled, none_⟩
      rw [update_unmodelled arith (AList.lookup_eq_none.mpr (unmodelled k))]
      exact ⟨unmodelled, none_⟩)
    (fun _ => trivial) (c, store.shards) ⟨unmodelled, none_⟩ is).1
  refine ⟨passed, fun r => (visited_keeps arith clock period store.shards is c).2.others r ?_⟩
  rintro (modelled | ⟨o, found, timed⟩)
  · exact unmodelled r.key modelled
  · exact Bool.false_ne_true ((untimed r o found).symm.trans timed)

omit [ValueModel M R] in
theorem finish_unchanged {s : TickLoop Object M R} (none_ : c.changed = [])
    (shards : Shards numShards StoreKey Object) :
    (s.finish arith clock (c, shards)).1 = [] ∧
      (s.finish arith clock (c, shards)).2.engine.covNotificationsTotal = s.engine.covNotificationsTotal := by
  simp only [finish, none_]
  exact ⟨rfl, UInt64.add_zero _⟩

end TickLoop

namespace Simulator
variable {M R N : Type} [ValueModel M R] [JsonNumber N] {hash : Hasher} {arith : RealArith}
  {text : ApiText N} {s s' start : Simulator M R} {e : Event N} {past : List (Event N)}

theorem Still.next (still : s.Still) (taken : s.next hash arith text e = some s') :
    s'.Still ∧ s'.loop.engine.covNotificationsTotal = s.loop.engine.covNotificationsTotal := by
  have untimed : ∀ r o, s'.store.at r = some o → o.isTimed = false := by
    intro r o found
    have plates := (next_keeps taken).plates r
    rw [found, Option.map_some] at plates
    obtain ⟨o', was, same⟩ := Option.map_eq_some_iff.mp plates.symm
    exact (congrArg (·.2.1) same).symm.trans (still.untimed r o' was)
  cases next_effect taken with
  | ticked idle =>
    refine ⟨⟨still.unmodelled, untimed, fun t ticking => ?_⟩, rfl⟩
    cases ticking
    exact ⟨still.unmodelled, rfl⟩
  | @swept clock c i rest ticking =>
    obtain ⟨unmodelled, none_⟩ := still.ticking _ ticking
    refine ⟨⟨still.unmodelled, untimed, fun t now => ?_⟩, rfl⟩
    cases now
    exact (TickLoop.visited_still unmodelled none_ still.untimed [i]).1
  | @tickEnded clock c ticking =>
    obtain ⟨unmodelled, none_⟩ := still.ticking _ ticking
    refine ⟨⟨unmodelled, untimed, fun t ticking => ?_⟩, ?_⟩
    · cases ticking
    · exact (TickLoop.finish_unchanged none_ s.store.shards).2
  | _ => exact ⟨⟨still.unmodelled, untimed, still.ticking⟩, rfl⟩

theorem Still.sweep (still : s.Still) (taken : s.next hash arith text .sweep = some s') (r : ObjectRef) :
    s'.store.at r = s.store.at r := by
  refine (next_alters taken).others r ?_
  rintro (modelled | ⟨o, found, timed⟩)
  · cases next_effect taken with
    | swept ticking | tickEnded ticking =>
      simp only [models, ticking] at modelled
      exact (still.ticking _ ticking).1 r.key modelled
  · exact Bool.false_ne_true ((still.untimed r o found).symm.trans timed)

theorem Still.tick (still : s.Still) (clock : TickClock) : (s.loop.tick arith clock).1 = [] ∧
    ∀ r, (s.loop.tick arith clock).2.engine.store.at r = s.store.at r := by
  have swept : ((∀ k, k ∉ (s.loop.sweep arith clock).1.models) ∧ (s.loop.sweep arith clock).1.changed = []) ∧
      ∀ r, ObjectStore.at ⟨(s.loop.sweep arith clock).2⟩ r = s.store.at r := by
    rw [TickLoop.sweep, Shards.iterMut]
    generalize List.finRange numShards = is
    exact TickLoop.visited_still still.unmodelled rfl still.untimed is
  rw [TickLoop.tick_store, TickLoop.tick_finish]
  generalize s.loop.sweep arith clock = left at swept
  obtain ⟨c, shards⟩ := left
  exact ⟨(TickLoop.finish_unchanged swept.1.2 shards).1, swept.2⟩

/-- A simulator moves nothing by itself, however it was started: in every run ticks report no
change and leave every object as it is, and no subscriber has been notified. -/
theorem configured_moves_nothing (started : start.Started)
    (run : reached (next hash arith text) start past = some s) :
    s.loop.engine.covNotificationsTotal = 0 ∧
      (∀ clock, (s.loop.tick arith clock).1 = [] ∧
        ∀ r, (s.loop.tick arith clock).2.engine.store.at r = s.store.at r) ∧
      (∀ t, s.ticking = some t → t.sweep.changed = []) ∧
      ∀ s', s.next hash arith text .sweep = some s' → ∀ r, s'.store.at r = s.store.at r := by
  have held : s.Still ∧ s.loop.engine.covNotificationsTotal = 0 := by
    refine reached_invariant (I := fun _ (s : Simulator M R) =>
      s.Still ∧ s.loop.engine.covNotificationsTotal = 0) ⟨started.still, ?_⟩ ?_ run
    · cases started <;> rfl
    · rintro past before e after ⟨still, none_⟩ taken
      obtain ⟨still', same⟩ := still.next taken
      exact ⟨still', same.trans none_⟩
  exact ⟨held.2, held.1.tick, fun t ticking => (held.1.ticking t ticking).2, fun _ => held.1.sweep⟩

def serdeText : ApiText SerdeNumber := ⟨String.toLower, fun _ => "", fun _ => ""⟩

/-- The names of the configuration are in lower case already. -/
def officeStart : Simulator ConstantModel Unit :=
  configured (fun s => s) (fun _ => midnight) (fun _ _ => 0) officeConfig ⟨1000⟩ ⟨0⟩

abbrev officeNext : Simulator ConstantModel Unit → Event SerdeNumber → Option (Simulator ConstantModel Unit) :=
  next (fun _ _ => 0) .ieee serdeText

def readDeviceDatagram (invokeId : UInt8) (device : UInt32) : Event SerdeNumber :=
  .datagram (.v4 ⟨0x0A000001, 47808⟩)
    (BvllFrame.originalUnicastNpdu
      (Npdu.encodeLocal true (readDeviceRequest 4 invokeId device))).encode

def officeRun : List (Event SerdeNumber) :=
  [.send 0, .serve 0 fun _ _ => midnight, .start 0 fun _ _ => midnight, readDeviceDatagram 9 2,
    .put midnight 2 "analog_input" 1 "present_value" (.number (.posInt 7))]

theorem officeRun_ran : (reached officeNext officeStart officeRun).isSome = true := by decide +kernel

def officeEnd : Simulator ConstantModel Unit := (reached officeNext officeStart officeRun).get officeRun_ran

theorem officeRun_reached : reached officeNext officeStart officeRun = some officeEnd :=
  (Option.some_get officeRun_ran).symm

theorem office_moves_nothing : officeEnd.loop.engine.covNotificationsTotal = 0 ∧
    (∀ clock, (officeEnd.loop.tick .ieee clock).1 = [] ∧
      ∀ r, (officeEnd.loop.tick .ieee clock).2.engine.store.at r = officeEnd.store.at r) ∧
    (∀ t, officeEnd.ticking = some t → t.sweep.changed = []) ∧
    ∀ s', officeNext officeEnd .sweep = some s' → ∀ r, s'.store.at r = officeEnd.store.at r :=
  configured_moves_nothing .configured officeRun_reached

end Simulator

end BacnetSim
