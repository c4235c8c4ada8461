import BacnetSim.Engine.SimEngine
import BacnetSim.Lib.ShardLoop
import BacnetSim.Object.Analog

/-! A tick among the calls of other tasks. The loop of `engine.rs` has the lock of one shard at a
time, and between two shards any task may call the store, under the lock of one shard as well. -/
namespace BacnetSim
open Rust Ieee754

/-- The calls of `store.rs` that take one lock. -/
inductive LockedCall (Obj : Type) where
  | insert (device : DeviceId) (obj : Obj)
  | get (device : DeviceId) (objId : ObjectId)
  | readProperty (r : ObjectRef) (now : Now) (propertyId : PropertyIdentifier) (arrayIndex : Option UInt32)
  | allProperties (r : ObjectRef)
  | writeProperty (r : ObjectRef) (now : Now) (propertyId : PropertyIdentifier)
    (arrayIndex : Option UInt32) (value : PropertyValue) (priority : Option UInt8)
  | forceWriteProperty (r : ObjectRef) (now : Now) (propertyId : PropertyIdentifier)
    (value : PropertyValue)

inductive LockedAnswer where
  | inserted
  | got (r : Option ObjectRef)
  | read (result : Result (Except BacnetError PropertyValue))
  | listed (result : Result PropertyList)
  | wrote (result : Result (Except BacnetError Unit))

namespace LockedCall
variable {Obj : Type} [BacnetObject Obj] (hash : Hasher)

/-- A write, which leaves the store as it was where it panics. -/
def written (store : ObjectStore Obj) :
    Result (Except BacnetError Unit × ObjectStore Obj) → LockedAnswer × ObjectStore Obj
  | .ok (result, store) => (.wrote (.ok result), store)
  | .error e => (.wrote (.error e), store)

def run (store : ObjectStore Obj) : LockedCall Obj → LockedAnswer × ObjectStore Obj
  | .insert device obj => (.inserted, store.insert hash device obj)
  | .get device objId => (.got (store.get hash device objId), store)
  | .readProperty r now propertyId arrayIndex =>
    (.read (r.readProperty now store propertyId arrayIndex), store)
  | .allProperties r => (.listed (r.allProperties store), store)
  | .writeProperty r now propertyId arrayIndex value priority =>
    written store (r.writeProperty now store propertyId arrayIndex value priority)
  | .forceWriteProperty r now propertyId value =>
    written store (r.forceWriteProperty now store propertyId value)

def shard : LockedCall Obj → Fin numShards
  | .insert device obj => (shardKey hash device (BacnetObject.objectId obj)).shard
  | .get device objId => (shardKey hash device objId).shard
  | .readProperty r _ _ _ | .allProperties r | .writeProperty r _ _ _ _ _
  | .forceWriteProperty r _ _ _ => r.shard

def body (c : LockedCall Obj) (m : HashMap StoreKey Obj) : LockedAnswer × HashMap StoreKey Obj :=
  let alone : ObjectStore Obj := ⟨(Shards.empty _ _ _).set (c.shard hash) m (c.shard hash).isLt⟩
  ((c.run hash alone).1, (c.run hash alone).2.shards.get (c.shard hash))

def op (c : LockedCall Obj) : Shards.Op numShards StoreKey Obj LockedAnswer :=
  ⟨c.shard hash, c.body hash⟩

end LockedCall

inductive TickEvent (Obj : Type) where
  | shard
  | call (c : LockedCall Obj)

namespace TickEvent
variable {Obj : Type} [BacnetObject Obj] (hash : Hasher)

omit [BacnetObject Obj] in
def isShard : TickEvent Obj → Bool
  | .shard => true
  | .call _ => false

def event : TickEvent Obj → Shards.Event numShards StoreKey Obj LockedAnswer
  | .shard => .visit
  | .call c => .op (c.op hash)

def before (done : Nat) : List (TickEvent Obj) → List (LockedCall Obj)
  | [] => []
  | .shard :: events => before (done + 1) events
  | .call c :: events =>
    if done ≤ (c.shard hash).val then c :: before done events else before done events

def behind (done : Nat) : List (TickEvent Obj) → List (LockedCall Obj)
  | [] => []
  | .shard :: events => behind (done + 1) events
  | .call c :: events =>
    if done ≤ (c.shard hash).val then behind done events else c :: behind done events

end TickEvent

namespace TickLoop
variable {Obj M R : Type} [BacnetObject Obj] [ValueModel M R] (hash : Hasher) (arith : RealArith)

def setStore (s : TickLoop Obj M R) (store : ObjectStore Obj) : TickLoop Obj M R :=
  { s with engine := { s.engine with store } }

def call (s : TickLoop Obj M R) (c : LockedCall Obj) : LockedAnswer × TickLoop Obj M R :=
  ((c.run hash s.engine.store).1, s.setStore (c.run hash s.engine.store).2)

/-- What a tick does behind the loop over the shards, which left `swept`. No call on the store
has a part in it. -/
def finish (s : TickLoop Obj M R) (clock : TickClock)
    (swept : Sweep M R × Shards numShards StoreKey Obj) : List Report × TickLoop Obj M R :=
  let (reports, cov) := runSpec (notify arith clock) s.engine.covEngine swept.1.changed
  let covSent := reports.countP (·.check.notified)
  let due : Bool := (clock.now.durationSince s.lastExpire).asSecs ≥ 10
  (reports,
    { s with
      engine :=
        { store := ⟨swept.2⟩
          models := swept.1.models
          covEngine := if due then cov.expireOld clock.expire else cov
          covNotificationsTotal := s.engine.covNotificationsTotal + UInt64.ofNat covSent }
      lastExpire := if due then clock.now else s.lastExpire })

/-- A tick with the events of its loop over the shards in their order. The answers of the calls
come with whether their shard was still to be done. -/
def interleavedTick (s : TickLoop Obj M R) (clock : TickClock) (events : List (TickEvent Obj)) :
    List (Bool × LockedAnswer) × List Report × TickLoop Obj M R :=
  let (answers, swept) := Shards.interleave (update arith s.period clock)
    (⟨s.engine.models, []⟩, s.engine.store.shards) (List.finRange numShards)
    (events.map (TickEvent.event hash))
  (answers, s.finish arith clock swept)

end TickLoop

namespace LockedCall
variable {Obj : Type} [BacnetObject Obj] {hash : Hasher}

def alone (shards : Shards numShards StoreKey Obj) (i : Fin numShards) : Shards numShards StoreKey Obj :=
  (Shards.empty _ _ _).set i (shards.get i) i.isLt

omit [BacnetObject Obj] in
theorem alone_get (shards : Shards numShards StoreKey Obj) (i : Fin numShards) :
    (alone shards i).get i = shards.get i := Shards.get_set_self _

omit [BacnetObject Obj] in
theorem object_alone (shards : Shards numShards StoreKey Obj) (r : ObjectRef) :
    r.object ⟨alone shards r.shard⟩ = r.object ⟨shards⟩ := by
  simp only [ObjectRef.object, Shards.lookup_get, alone_get]

omit [BacnetObject Obj] in
theorem insert_get (shards : Shards numShards StoreKey Obj)
    (item : Shards.Item numShards StoreKey Obj) :
    (shards.insert item).get item.1 = AList.insert item.2.1 item.2.2 (shards.get item.1) :=
  Shards.get_set_self _

omit [BacnetObject Obj] in
theorem set_alone (shards : Shards numShards StoreKey Obj)
    (item : Shards.Item numShards StoreKey Obj) :
    shards.set item.1 (((alone shards item.1).insert item).get item.1) item.1.isLt =
      shards.insert item := by
  rw [insert_get, alone_get]
  rfl

def guarded (store : ObjectStore Obj) (r : ObjectRef) (write : Obj → Except BacnetError Unit × Obj) :
    LockedAnswer × ObjectStore Obj :=
  written store (r.object store >>= fun o => .ok ((write o).1, r.put store (write o).2))

omit [BacnetObject Obj] in
theorem guarded_alone (shards : Shards numShards StoreKey Obj) (r : ObjectRef)
    (write : Obj → Except BacnetError Unit × Obj) :
    ((guarded ⟨alone shards r.shard⟩ r write).1, shards.set r.shard
      ((guarded ⟨alone shards r.shard⟩ r write).2.shards.get r.shard) r.shard.isLt) =
    ((guarded ⟨shards⟩ r write).1, (guarded ⟨shards⟩ r write).2.shards) := by
  simp only [guarded, object_alone]
  cases r.object ⟨shards⟩ with
  | error e =>
    have unchanged : shards.set r.shard ((alone shards r.shard).get r.shard) r.shard.isLt = shards := by
      rw [alone_get, Shards.set_get_self]
    exact Prod.ext rfl unchanged
  | ok o => exact Prod.ext rfl (set_alone shards (r.shard, r.key, (write o).2))

theorem op_run (c : LockedCall Obj) (shards : Shards numShards StoreKey Obj) :
    Shards.Op.run shards (c.op hash) = ((c.run hash ⟨shards⟩).1, (c.run hash ⟨shards⟩).2.shards) := by
  have unchanged (i : Fin numShards) :
      shards.set i ((alone shards i).get i) i.isLt = shards := by
    rw [alone_get, Shards.set_get_self]
  cases c with
  | insert device obj => exact Prod.ext rfl (set_alone shards (ObjectStore.item hash (device, obj)))
  | get device objId =>
    have same : ObjectStore.get hash ⟨alone shards (shardKey hash device objId).shard⟩ device objId =
        ObjectStore.get hash ⟨shards⟩ device objId := by
      simp only [ObjectStore.get, Shards.lookup_get, alone_get]
      rfl
    exact Prod.ext (congrArg LockedAnswer.got same) (unchanged _)
  | readProperty r now p i =>
    have same : r.readProperty now ⟨alone shards r.shard⟩ p i = r.readProperty now ⟨shards⟩ p i := by
      simp only [ObjectRef.readProperty, object_alone]
    exact Prod.ext (congrArg LockedAnswer.read same) (unchanged _)
  | allProperties r =>
    have same : r.allProperties ⟨alone shards r.shard⟩ = r.allProperties ⟨shards⟩ := by
      simp only [ObjectRef.allProperties, object_alone]
    exact Prod.ext (congrArg LockedAnswer.listed same) (unchanged _)
  | writeProperty r now p i v pri =>
    exact guarded_alone shards r fun o => BacnetObject.writeProperty now o p i v pri
  | forceWriteProperty r now p v =>
    exact guarded_alone shards r fun o => BacnetObject.forceWriteProperty now o p v

end LockedCall

section Events
variable {Obj : Type} [BacnetObject Obj] (hash : Hasher)

theorem mem_remaining {done : Nat} {i : Fin numShards} :
    i ∈ (List.finRange numShards).drop done ↔ done ≤ i.val := by
  rw [List.mem_drop_iff_getElem]
  constructor
  · rintro ⟨j, inside, rfl⟩
    simp
  · intro le
    exact ⟨i.val - done, by simp; omega, by simp [Nat.add_sub_cancel' le]⟩

theorem early_events (done : Nat) (events : List (TickEvent Obj)) :
    Shards.early ((List.finRange numShards).drop done) (events.map (TickEvent.event hash)) =
      (TickEvent.before hash done events).map (LockedCall.op hash) := by
  induction events generalizing done with
  | nil => rfl
  | cons event events ih =>
    cases event with
    | shard =>
      simp only [List.map_cons, TickEvent.event, Shards.early, TickEvent.before, List.tail_drop]
      exact ih (done + 1)
    | call c =>
      simp only [List.map_cons, TickEvent.event, Shards.early, TickEvent.before, mem_remaining,
        LockedCall.op]
      split
      · rw [List.map_cons, ← ih done]
        rfl
      · exact ih done

theorem late_events (done : Nat) (events : List (TickEvent Obj)) :
    Shards.late ((List.finRange numShards).drop done) (events.map (TickEvent.event hash)) =
      (TickEvent.behind hash done events).map (LockedCall.op hash) := by
  induction events generalizing done with
  | nil => rfl
  | cons event events ih =>
    cases event with
    | shard =>
      simp only [List.map_cons, TickEvent.event, Shards.late, TickEvent.behind, List.tail_drop]
      exact ih (done + 1)
    | call c =>
      simp only [List.map_cons, TickEvent.event, Shards.late, TickEvent.behind, mem_remaining,
        LockedCall.op]
      split
      · exact ih done
      · rw [List.map_cons, ← ih done]
        rfl

omit [BacnetObject Obj] in
theorem count_visits [BacnetObject Obj] (events : List (TickEvent Obj)) :
    (events.map (TickEvent.event hash)).countP Shards.Event.isVisit =
      events.countP TickEvent.isShard := by
  rw [List.countP_map]
  refine List.countP_congr fun event _ => ?_
  cases event <;> rfl

end Events

namespace TickLoop
variable {Obj M R : Type} [BacnetObject Obj] [ValueModel M R] (hash : Hasher) (arith : RealArith)

omit [ValueModel M R] in
theorem runOps_calls (s : TickLoop Obj M R) (calls : List (LockedCall Obj)) :
    runSpec Shards.Op.run s.engine.store.shards (calls.map (LockedCall.op hash)) =
        ((runSpec (call hash) s calls).1, (runSpec (call hash) s calls).2.engine.store.shards) ∧
      (runSpec (call hash) s calls).2 = s.setStore (runSpec (call hash) s calls).2.engine.store := by
  induction calls generalizing s with
  | nil => exact ⟨rfl, rfl⟩
  | cons c calls ih =>
    obtain ⟨answers, kept⟩ := ih (s.call hash c).2
    refine ⟨?_, ?_⟩
    · simp only [List.map_cons, runSpec, LockedCall.op_run]
      have first : (s.call hash c).2.engine.store.shards = (c.run hash s.engine.store).2.shards := rfl
      rw [first] at answers
      rw [answers]
      rfl
    · simp only [runSpec]
      rw [kept]
      rfl

theorem tick_finish (s : TickLoop Obj M R) (clock : TickClock) :
    s.tick arith clock = s.finish arith clock (s.sweep arith clock) := by
  simp only [tick, finish, checks]

omit [BacnetObject Obj] [ValueModel M R] in
theorem finish_setStore (s : TickLoop Obj M R) (store : ObjectStore Obj) (clock : TickClock)
    (swept : Sweep M R × Shards numShards StoreKey Obj) :
    (s.setStore store).finish arith clock swept = s.finish arith clock swept := by
  simp only [finish, setStore]
  rfl

omit [BacnetObject Obj] [ValueModel M R] in
theorem finish_late (s : TickLoop Obj M R) (clock : TickClock) (sweep : Sweep M R)
    (shards shards' : Shards numShards StoreKey Obj) :
    s.finish arith clock (sweep, shards') =
      ((s.finish arith clock (sweep, shards)).1,
        (s.finish arith clock (sweep, shards)).2.setStore ⟨shards'⟩) := by
  simp only [finish, setStore]

theorem sweep_setStore (s : TickLoop Obj M R) (store : ObjectStore Obj) (clock : TickClock) :
    (s.setStore store).sweep arith clock = Shards.visitShards (update arith s.period clock)
      (⟨s.engine.models, []⟩, store.shards) (List.finRange numShards) := rfl

def answers (left : List (Bool × LockedAnswer)) : List LockedAnswer × List LockedAnswer :=
  ((left.filter (·.1)).map (·.2), (left.filter (!·.1)).map (·.2))

/-- The tick in one step, behind the calls on shards that it had still to do and before the
others. -/
def serialTick (s : TickLoop Obj M R) (clock : TickClock) (events : List (TickEvent Obj)) :
    (List LockedAnswer × List LockedAnswer) × List Report × TickLoop Obj M R :=
  let before := runSpec (call hash) s (TickEvent.before hash 0 events)
  let ticked := before.2.tick arith clock
  let behind := runSpec (call hash) ticked.2 (TickEvent.behind hash 0 events)
  ((before.1, behind.1), ticked.1, behind.2)

theorem interleave_events (s : TickLoop Obj M R) (clock : TickClock) {events : List (TickEvent Obj)}
    (complete : events.countP TickEvent.isShard = numShards) :
    Shards.gather (Shards.interleave (update arith s.period clock)
        (⟨s.engine.models, []⟩, s.engine.store.shards) (List.finRange numShards)
        (events.map (TickEvent.event hash))) =
      ((s.serialTick hash arith clock events).1.1, (s.serialTick hash arith clock events).1.2,
        ((runSpec (call hash) s (TickEvent.before hash 0 events)).2.sweep arith clock).1,
        (s.serialTick hash arith clock events).2.2.engine.store.shards) := by
  have early := early_events hash 0 events
  have late := late_events hash 0 events
  rw [List.drop_zero] at early late
  rw [Shards.interleave_serial (List.nodup_finRange numShards)
    (by rw [count_visits, complete, List.length_finRange])]
  obtain ⟨ranBefore, keptBefore⟩ := runOps_calls hash s (TickEvent.before hash 0 events)
  simp only [Shards.serially, serialTick, early, late, ranBefore]
  generalize runSpec (call hash) s (TickEvent.before hash 0 events) = before at *
  have loop := sweep_setStore arith s before.2.engine.store clock
  rw [← keptBefore] at loop
  have store := congrArg ObjectStore.shards (tick_store arith before.2 clock)
  have ranBehind := (runOps_calls hash (before.2.tick arith clock).2
    (TickEvent.behind hash 0 events)).1
  rw [store] at ranBehind
  rw [← loop, ranBehind]

/-- However the calls of other tasks fall between the shards of a tick, they are answered, the
tick reports, and the engine is left, as if the tick were one step. -/
theorem tick_serializable (s : TickLoop Obj M R) (clock : TickClock) (events : List (TickEvent Obj))
    (complete : events.countP TickEvent.isShard = numShards) :
    (answers (s.interleavedTick hash arith clock events).1,
      (s.interleavedTick hash arith clock events).2) = s.serialTick hash arith clock events := by
  have gathered := interleave_events hash arith s clock complete
  have parts := Prod.mk.inj gathered
  have rest := Prod.mk.inj parts.2
  have keptBefore := (runOps_calls hash s (TickEvent.before hash 0 events)).2
  have keptBehind := (runOps_calls hash
    ((runSpec (call hash) s (TickEvent.before hash 0 events)).2.tick arith clock).2
    (TickEvent.behind hash 0 events)).2
  have final : (s.interleavedTick hash arith clock events).2 = s.finish arith clock
      (Shards.interleave (update arith s.period clock) (⟨s.engine.models, []⟩, s.engine.store.shards)
        (List.finRange numShards) (events.map (TickEvent.event hash))).2 := by
    simp only [interleavedTick]
  refine Prod.ext (Prod.ext parts.1 rest.1) ?_
  rw [final, rest.2]
  simp only [serialTick] at keptBefore keptBehind ⊢
  generalize runSpec (call hash) s (TickEvent.before hash 0 events) = before at *
  have ticked : before.2.tick arith clock = s.finish arith clock (before.2.sweep arith clock) := by
    have framed := finish_setStore arith s before.2.engine.store clock (before.2.sweep arith clock)
    rw [← keptBefore] at framed
    exact (tick_finish arith before.2 clock).trans framed
  rw [finish_late arith s clock _ (before.2.sweep arith clock).2, ← ticked]
  generalize runSpec (call hash) (before.2.tick arith clock).2 (TickEvent.behind hash 0 events) =
    behind at *
  exact Prod.ext rfl keptBehind.symm

end TickLoop

def zeroClock : TickClock := ⟨⟨0⟩, ⟨0⟩, ⟨0⟩, fun _ => ⟨⟨0⟩, ⟨0⟩⟩, fun _ => ⟨0⟩, ⟨0⟩⟩

def room (inst : UInt32) : AnalogInput := .new ⟨⟨0⟩, ⟨0⟩⟩ ⟨1⟩ inst "Room" .degreesCelsius

def roomLoop : TickLoop AnalogInput ConstantModel Unit where
  engine :=
    { store := ObjectStore.new.insert (fun _ _ => 100) ⟨1⟩ (room 1)
      models := AList.insert (SimEngine.objKey ⟨1⟩ ⟨.analogInput, 1⟩)
        ⟨⟨⟨0x41A80000⟩⟩, (), ⟨0⟩, ⟨0⟩⟩ ∅
      covEngine := .new
      covNotificationsTotal := 0 }
  period := .fromSecs 1
  lastExpire := ⟨0⟩

def roomCalls (inst : UInt32) (outOfService : Bool) : List (TickEvent AnalogInput) :=
  [.call (.writeProperty (shardKey (fun _ _ => 100) ⟨1⟩ ⟨.analogInput, 1⟩) ⟨⟨0⟩, ⟨0⟩⟩ .outOfService none
    (.boolean outOfService) none), .call (.insert ⟨1⟩ (room inst))]

def interruptedTick : List (TickEvent AnalogInput) :=
  List.replicate 100 .shard ++ roomCalls 2 true ++ [.shard] ++ roomCalls 3 false ++ List.replicate 155 .shard

example : (TickEvent.before (fun _ _ => 100) 0 interruptedTick).length = 2 ∧
    (TickEvent.behind (fun _ _ => 100) 0 interruptedTick).length = 2 := by decide +kernel

theorem interruptedTick_serial :
    (TickLoop.answers (roomLoop.interleavedTick (fun _ _ => 100) .ieee zeroClock interruptedTick).1,
      (roomLoop.interleavedTick (fun _ _ => 100) .ieee zeroClock interruptedTick).2) =
      roomLoop.serialTick (fun _ _ => 100) .ieee zeroClock interruptedTick :=
  TickLoop.tick_serializable (fun _ _ => 100) .ieee roomLoop zeroClock interruptedTick
    (by decide +kernel)

end BacnetSim
