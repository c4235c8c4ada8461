import BacnetSim.Engine.Cov
import BacnetSim.Lib.Simulation
import BacnetSim.Object.Identity
import BacnetSim.Object.Store

/-! The simulation engine and its tick loop (`engine.rs`). Value models and random number
generators are parameters, clock readings arguments. Left out are the alarm machines, whose
transitions the loop only logs, and the measured length of a tick. -/
namespace BacnetSim
open Rust Ieee754

class ValueModel (M R : Type) where
  next : M → F64 → R → F32 × M × R

class SeedableRng (R : Type) where
  seedFromU64 : UInt64 → R

structure ConstantModel where
  value : F32

instance (R : Type) : ValueModel ConstantModel R where
  next m _ rng := (m.value, m, rng)

structure ModelEntry (M R : Type) where
  model : M
  rng : R
  covIncrement : F32
  lastValue : F32

structure SimEngine (Obj M R : Type) where
  store : ObjectStore Obj
  models : HashMap StoreKey (ModelEntry M R)
  covEngine : CovEngine
  covNotificationsTotal : UInt64

namespace SimEngine
variable {Obj M R : Type}

def new (store : ObjectStore Obj) : SimEngine Obj M R := ⟨store, ∅, .new, 0⟩

def objKey (device : DeviceId) (obj : ObjectId) : StoreKey := (deviceKey device, objectKey obj)

def addModel [SeedableRng R] (arith : RealArith) (e : SimEngine Obj M R) (deviceId : DeviceId)
    (objectId : ObjectId) (model : M) (covIncrement : F32) (seed : UInt64) : SimEngine Obj M R :=
  { e with
    models := AList.insert (objKey deviceId objectId)
      { model
        rng := SeedableRng.seedFromU64 seed
        covIncrement := arith.maxZero covIncrement
        lastValue := ⟨0⟩ } e.models }

end SimEngine

/-- The clock readings of a tick: of the loop, of the calls on each object, and of the calls
on the COV engine. -/
structure TickClock where
  elapsed : F64
  system : SystemTime
  now : Instant
  update : ObjectRef → Now
  check : ObjectRef → Instant
  expire : Instant

structure Changed where
  ref : ObjectRef
  deviceId : DeviceId
  objectId : ObjectId
  value : F32
  deriving DecidableEq, Repr

structure Sweep (M R : Type) where
  models : HashMap StoreKey (ModelEntry M R)
  changed : List Changed

structure Report where
  changed : Changed
  check : CovCheck

/-- The engine in its loop, with the loop's own variables. -/
structure TickLoop (Obj M R : Type) where
  engine : SimEngine Obj M R
  period : Duration
  lastExpire : Instant

namespace TickLoop
variable {Obj M R : Type} [BacnetObject Obj] [ValueModel M R] (arith : RealArith)

def update (period : Duration) (clock : TickClock) (s : Sweep M R) (shard : Fin numShards)
    (key : StoreKey) (obj : Obj) : Sweep M R × Obj :=
  let ref : ObjectRef := ⟨shard, key⟩
  let now := clock.update ref
  match AList.lookup key s.models with
  | some entry =>
    let (newVal, model, rng) := ValueModel.next entry.model clock.elapsed entry.rng
    let entry := { entry with model, rng }
    -- whether the object took the value is not looked at
    let (_, obj) := BacnetObject.forceWriteProperty now obj .presentValue (.real newVal)
    let obj := BacnetObject.tick now obj clock.system period
    if arith.reaches entry.lastValue newVal entry.covIncrement then
      ({ models := AList.insert key { entry with lastValue := newVal } s.models
         changed := s.changed ++
          [⟨ref, BacnetObject.deviceId obj, BacnetObject.objectId obj, newVal⟩] }, obj)
    else ({ s with models := AList.insert key entry s.models }, obj)
  | none => (s, BacnetObject.tick now obj clock.system period)

def change (clock : TickClock) (c : Changed) : CovChange where
  now := clock.check c.ref
  deviceId := c.deviceId
  objectId := c.objectId
  propertyId := .presentValue
  newValue := .real c.value

def notify (clock : TickClock) (cov : CovEngine) (c : Changed) : Report × CovEngine :=
  let (check, cov) := cov.checkAndNotify arith (change clock c)
  (⟨c, check⟩, cov)

def sweep (s : TickLoop Obj M R) (clock : TickClock) : Sweep M R × Shards numShards StoreKey Obj :=
  s.engine.store.shards.iterMut (update arith s.period clock) ⟨s.engine.models, []⟩

def checks (s : TickLoop Obj M R) (clock : TickClock) : List Report × CovEngine :=
  runSpec (notify arith clock) s.engine.covEngine (s.sweep arith clock).1.changed

/-- One turn of the loop. It gives back what was checked, in this order. -/
def tick (s : TickLoop Obj M R) (clock : TickClock) : List Report × TickLoop Obj M R :=
  let reports := (s.checks arith clock).1
  let cov := (s.checks arith clock).2
  let covSent := reports.countP (·.check.notified)
  let due : Bool := (clock.now.durationSince s.lastExpire).asSecs ≥ 10
  (reports,
    { s with
      engine :=
        { store := ⟨(s.sweep arith clock).2⟩
          models := (s.sweep arith clock).1.models
          covEngine := if due then cov.expireOld clock.expire else cov
          covNotificationsTotal := s.engine.covNotificationsTotal + UInt64.ofNat covSent }
      lastExpire := if due then clock.now else s.lastExpire })

variable (s : TickLoop Obj M R) (clock : TickClock)

theorem tick_reports : (s.tick arith clock).1 = (s.checks arith clock).1 := by
  simp only [tick]

theorem tick_store : (s.tick arith clock).2.engine.store = ⟨(s.sweep arith clock).2⟩ := by
  simp only [tick]

theorem tick_models : (s.tick arith clock).2.engine.models = (s.sweep arith clock).1.models := by
  simp only [tick]

theorem tick_cov : (s.tick arith clock).2.engine.covEngine = (s.checks arith clock).2 ∨
    (s.tick arith clock).2.engine.covEngine = (s.checks arith clock).2.expireOld clock.expire := by
  simp only [tick]
  split
  · exact .inr rfl
  · exact .inl rfl

end TickLoop

/-- The object after its forced write of `v` and its own tick. -/
def driven {Obj : Type} [BacnetObject Obj] (period : Duration) (clock : TickClock) (ref : ObjectRef)
    (obj : Obj) (v : F32) : Obj :=
  BacnetObject.tick (clock.update ref)
    (BacnetObject.forceWriteProperty (clock.update ref) obj .presentValue (.real v)).2
    clock.system period

theorem driven_ids {Obj : Type} [BacnetObject Obj] (keeps : KeepsIds Obj) (period : Duration)
    (clock : TickClock) (ref : ObjectRef) (obj : Obj) (v : F32) :
    ids (driven period clock ref obj v) = ids obj :=
  (keeps.ticks _ _ _ _).trans (keeps.forced _ _ _ _)

namespace ModelEntry
variable {M R : Type} [ValueModel M R] (arith : RealArith) (clock : TickClock)
  (entry : ModelEntry M R)

def nextValue : F32 := (ValueModel.next entry.model clock.elapsed entry.rng).1

def reports : Bool := arith.reaches entry.lastValue (entry.nextValue clock) entry.covIncrement

def next : ModelEntry M R where
  model := (ValueModel.next entry.model clock.elapsed entry.rng).2.1
  rng := (ValueModel.next entry.model clock.elapsed entry.rng).2.2
  covIncrement := entry.covIncrement
  lastValue := if entry.reports arith clock then entry.nextValue clock else entry.lastValue

end ModelEntry

namespace TickLoop
variable {Obj M R : Type} [BacnetObject Obj] [ValueModel M R] (arith : RealArith)
  {period : Duration} {clock : TickClock} {s : Sweep M R} {shard : Fin numShards} {key : StoreKey}
  {obj : Obj}

def changes (clock : TickClock) (ref : ObjectRef) (name : DeviceId × ObjectId)
    (entry : ModelEntry M R) : List Changed :=
  if entry.reports arith clock then [⟨ref, name.1, name.2, entry.nextValue clock⟩] else []

theorem update_modelled (keeps : KeepsIds Obj) {entry : ModelEntry M R}
    (modelled : AList.lookup key s.models = some entry) :
    update arith period clock s shard key obj =
      (⟨AList.insert key (entry.next arith clock) s.models,
        s.changed ++ changes arith clock ⟨shard, key⟩ (ids obj) entry⟩,
        driven period clock ⟨shard, key⟩ obj (entry.nextValue clock)) := by
  rw [← driven_ids keeps period clock ⟨shard, key⟩ obj (entry.nextValue clock)]
  simp only [update, modelled]
  by_cases far : entry.reports arith clock = true
  · rw [ModelEntry.next, changes, if_pos far, if_pos far]
    exact if_pos far
  · rw [ModelEntry.next, changes, if_neg far, if_neg far, List.append_nil]
    exact if_neg far

theorem update_unmodelled (unmodelled : AList.lookup key s.models = none) :
    update arith period clock s shard key obj =
      (s, BacnetObject.tick (clock.update ⟨shard, key⟩) obj clock.system period) := by
  simp only [update, unmodelled]

end TickLoop

end BacnetSim
