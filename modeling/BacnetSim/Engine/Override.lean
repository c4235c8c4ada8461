import BacnetSim.Engine.Readback

/-! An input that an operator has taken out of service, under the ticks of the loop and the
writes of clients. -/
namespace BacnetSim
open Rust Ieee754 PropertyValue

section Writes
variable {now : Now} {p : PropertyIdentifier} {v : PropertyValue}

theorem AnalogInput.write_other (o : AnalogInput) (other : p ≠ .presentValue) :
    (o.writeProperty now p v).2.presentValue = o.presentValue := by
  unfold writeProperty
  split
  · exact assign_keeps fun _ => rfl
  · exact absurd rfl other
  · exact assign_keeps fun _ => rfl
  · exact assign_keeps fun _ => rfl
  · rfl

theorem BinaryInput.write_other (o : BinaryInput) (other : p ≠ .presentValue) :
    (o.writeProperty now p v).2.presentValue = o.presentValue := by
  unfold writeProperty
  split
  · exact assign_keeps fun _ => rfl
  · exact absurd rfl other
  · rfl

theorem MultiStateInput.write_other (o : MultiStateInput) (other : p ≠ .presentValue) :
    (o.writeProperty now p v).2.presentValue = o.presentValue := by
  unfold writeProperty
  split
  · exact assign_keeps fun _ => rfl
  · exact absurd rfl other
  · rfl

theorem BinaryInput.forced {o : BinaryInput} (out : o.outOfService = true) (w : F32) :
    (BacnetObject.forceWriteProperty now o .presentValue (.real w)).2 = o := by
  simp [BacnetObject.forceWriteProperty, BacnetObject.writeProperty, BacnetObject.readProperty,
    writeProperty, readProperty, assign, asBool, out]

theorem MultiStateInput.forced {o : MultiStateInput} (out : o.outOfService = true) (w : F32) :
    (BacnetObject.forceWriteProperty now o .presentValue (.real w)).2 = o := by
  simp [BacnetObject.forceWriteProperty, BacnetObject.writeProperty, BacnetObject.readProperty,
    writeProperty, readProperty, out]

end Writes

namespace Object

def Overridden : Object → Prop
  | analogInput o => o.outOfService = true
  | binaryInput o => o.outOfService = true
  | multiStateInput o => o.outOfService = true
  | _ => False

def SamePresentValue (o o' : Object) : Prop :=
  ∀ now, BacnetObject.readProperty now o' .presentValue none =
    BacnetObject.readProperty now o .presentValue none

/-- The override is still there after a forced write of `v`: an analog input takes any real, and
the other inputs take none. -/
def Withstands (v : F32) : Object → Prop
  | analogInput o => v = o.presentValue
  | _ => True

variable {o : Object} {now : Now}

theorem Overridden.write (overridden : o.Overridden) {p : PropertyIdentifier} {i : Option UInt32}
    {v : PropertyValue} {pri : Option UInt8} (other : p ≠ .presentValue) :
    o.SamePresentValue (BacnetObject.writeProperty now o p i v pri).2 := by
  intro later
  cases o with
  | analogInput o => exact congrArg (fun v => Except.ok (PropertyValue.real v)) (o.write_other other)
  | binaryInput o =>
    exact congrArg (fun v => Except.ok (PropertyValue.enumerated (boolCode v))) (o.write_other other)
  | multiStateInput o =>
    exact congrArg (fun v => Except.ok (PropertyValue.unsigned v)) (o.write_other other)
  | _ => exact absurd overridden id

theorem Overridden.tick (overridden : o.Overridden) (system : SystemTime) (period : Duration) :
    BacnetObject.tick now o system period = o := by
  cases o <;> first | rfl | exact absurd overridden id

theorem Overridden.driven_iff (overridden : o.Overridden) (period : Duration) (clock : TickClock)
    (ref : ObjectRef) (v : F32) :
    o.SamePresentValue (driven period clock ref o v) ↔ o.Withstands v := by
  cases o with
  | analogInput o =>
    rw [analogInput_driven]
    constructor
    · intro same
      exact PropertyValue.real.inj (Except.ok.inj (same (clock.update ref)))
    · intro same later
      exact congrArg (fun v => Except.ok (PropertyValue.real v)) same
  | binaryInput o =>
    have wraps : Wraps binaryInput := ⟨⟨rfl, rfl⟩, rfl⟩
    rw [wraps.driven]
    refine iff_of_true (fun later => ?_) trivial
    exact congrArg (fun o : BinaryInput => o.readProperty .presentValue) (BinaryInput.forced overridden v)
  | multiStateInput o =>
    have wraps : Wraps multiStateInput := ⟨⟨rfl, rfl⟩, rfl⟩
    rw [wraps.driven]
    refine iff_of_true (fun later => ?_) trivial
    exact congrArg (fun o : MultiStateInput => o.readProperty .presentValue)
      (MultiStateInput.forced overridden v)
  | _ => exact absurd overridden id

end Object

namespace ObjectStore
variable {Obj : Type} {hash : Hasher} {store : ObjectStore Obj}

def shardOf (hash : Hasher) (key : StoreKey) : Fin numShards :=
  ⟨(hash key.1 key.2).toNat % numShards, Nat.mod_lt _ (by decide)⟩

theorem shardKey_shard (hash : Hasher) (device : DeviceId) (objId : ObjectId) :
    (shardKey hash device objId).shard = shardOf hash (shardKey hash device objId).key := rfl

def Sharded (hash : Hasher) (store : ObjectStore Obj) : Prop :=
  ∀ i k o, store.shards.lookup i k = some o → i = shardOf hash k

theorem sharded_new : Sharded hash (new : ObjectStore Obj) := by
  intro i k o stored
  have empty := Shards.lookup_empty (n := numShards) (V := Obj) i k
  cases empty.symm.trans stored

theorem Sharded.put (sharded : Sharded hash store) {ref : ObjectRef}
    (here : ref.shard = shardOf hash ref.key) (o : Obj) : Sharded hash (ref.put store o) := by
  intro i k left found
  rw [ObjectRef.put, Shards.lookup_insert] at found
  split at found
  · rename_i same
    obtain ⟨rfl, rfl⟩ := same
    exact here
  · exact sharded i k left found

theorem Sharded.bulkInsert [BacnetObject Obj] (sharded : Sharded hash store)
    (objects : List (DeviceId × Obj)) : Sharded hash (store.bulkInsert hash objects) := by
  rw [bulkInsert_eq_foldl]
  induction objects generalizing store with
  | nil => exact sharded
  | cons entry objects ih => exact ih (sharded.put (shardKey_shard hash _ _) entry.2)

end ObjectStore

namespace TickLoop

section Sweep
variable {Obj M R : Type} [BacnetObject Obj] [ValueModel M R] {hash : Hasher} (arith : RealArith)
  {s : TickLoop Obj M R} (clock : TickClock)

def ticked (s : TickLoop Obj M R) (clock : TickClock) (ref : ObjectRef) (obj : Obj) : Obj :=
  match AList.lookup ref.key s.engine.models with
  | some entry => driven s.period clock ref obj (entry.nextValue clock)
  | none => BacnetObject.tick (clock.update ref) obj clock.system s.period

theorem tick_stored (keeps : KeepsIds Obj) (sharded : s.engine.store.Sharded hash) {ref : ObjectRef}
    {obj : Obj} (found : s.stored ref = some obj) :
    (s.tick arith clock).2.stored ref = some (s.ticked clock ref obj) := by
  rw [stored, tick_store]
  obtain ⟨left, kept, rfl⟩ := Shards.iterMut_tracks (update arith s.period clock)
    (I := fun c : Sweep M R => AList.lookup ref.key c.models = AList.lookup ref.key s.engine.models)
    (Q := fun left _ => left = s.ticked clock ref obj) (s := ⟨s.engine.models, []⟩) found rfl
    (by
      intro c i k o other ne same
      have keyed : k ≠ ref.key := by
        rintro rfl
        exact ne (congrArg (·, ref.key) ((sharded i _ o other).trans (sharded _ _ obj found).symm))
      exact (update_models_other arith clock keeps keyed).trans same)
    (by
      intro c same
      cases modelled : AList.lookup ref.key s.engine.models with
      | none => simp only [update_unmodelled arith (same.trans modelled), ticked, modelled]
      | some entry => simp only [update_modelled arith keeps (same.trans modelled), ticked, modelled])
    (fun _ _ left => left)
  exact kept

end Sweep

variable {M R : Type} [ValueModel M R] (hash : Hasher) (arith : RealArith)

def WritesPresentValue (ref : ObjectRef) : SimCall → Prop
  | .writeProperty device objId _ p _ _ _ => shardKey hash device objId = ref ∧ p = .presentValue
  | _ => False

def KeepsOverride (ref : ObjectRef) (s : TickLoop Object M R) (call : SimCall) : Prop :=
  ∀ o, s.stored ref = some o → o.Overridden → ¬ WritesPresentValue hash ref call →
    ∃ o', (s.step hash arith call).2.stored ref = some o' ∧ o.SamePresentValue o'

/-- If the call is a tick and an input out of service has a model, the input withstands the
value that its model yields. -/
def WithstandsModel (ref : ObjectRef) (s : TickLoop Object M R) : SimCall → Prop
  | .tick clock => ∀ o entry, s.stored ref = some o → o.Overridden →
      AList.lookup ref.key s.engine.models = some entry → o.Withstands (entry.nextValue clock)
  | _ => True

theorem tick_override_iff {s : TickLoop Object M R} (sharded : s.engine.store.Sharded hash) (ref : ObjectRef)
    (clock : TickClock) :
    KeepsOverride hash arith ref s (.tick clock) ↔ WithstandsModel ref s (.tick clock) := by
  constructor
  · intro keeps o entry found overridden modelled
    obtain ⟨o', left, same⟩ := keeps o found overridden id
    rw [step, tick_stored arith clock Object.keepsIds sharded found, ticked, modelled] at left
    cases left
    exact (overridden.driven_iff s.period clock ref _).mp same
  · intro withstands o found overridden _
    refine ⟨_, tick_stored arith clock Object.keepsIds sharded found, ?_⟩
    rw [ticked]
    cases modelled : AList.lookup ref.key s.engine.models with
    | none =>
      dsimp only
      rw [overridden.tick]
      exact fun _ => rfl
    | some entry =>
      exact (overridden.driven_iff s.period clock ref _).mpr (withstands o entry found overridden modelled)

theorem write_stored {s : TickLoop Object M R} {ref : ObjectRef} {device : DeviceId} {objId : ObjectId}
    {now : Now} {p : PropertyIdentifier} {i : Option UInt32} {v : PropertyValue} {pri : Option UInt8}
    {o : Object} (found : s.stored ref = some o) :
    (s.step hash arith (.writeProperty device objId now p i v pri)).2.stored ref = some
      (if shardKey hash device objId = ref then (BacnetObject.writeProperty now o p i v pri).2 else o) := by
  rcases s.step_write hash arith device objId now p i v pri with ⟨missing, left⟩ | ⟨target, there, left⟩
  · have other : shardKey hash device objId ≠ ref := by
      rintro rfl
      cases missing.symm.trans found
    rw [left, if_neg other, found]
  · rw [left, stored, withStore, ObjectRef.put, Shards.lookup_insert]
    by_cases here : shardKey hash device objId = ref
    · subst here
      cases there.symm.trans found
      rw [if_pos rfl, if_pos ⟨rfl, rfl⟩]
    · have apart : ¬ ((shardKey hash device objId).shard = ref.shard ∧
          (shardKey hash device objId).key = ref.key) := by
        rintro ⟨shards, keys⟩
        exact here (ObjectRef.mk.injEq .. ▸ ⟨shards, keys⟩)
      rw [if_neg here, if_neg apart]
      exact found

theorem step_sharded {s : TickLoop Object M R} (sharded : s.engine.store.Sharded hash) (call : SimCall) :
    (s.step hash arith call).2.engine.store.Sharded hash := by
  cases call with
  | tick clock =>
    intro i k left found
    rw [step, tick_store] at found
    simp only [sweep] at found
    obtain ⟨obj, _, was, _⟩ := Shards.lookup_iterMut found
    exact sharded i k obj was
  | writeProperty device objId now p i v pri =>
    rcases s.step_write hash arith device objId now p i v pri with ⟨_, left⟩ | ⟨o, _, left⟩
    · rw [left]
      exact sharded
    · rw [left]
      exact sharded.put (ObjectStore.shardKey_shard hash device objId) _
  | subscribe key sub => exact sharded
  | unsubscribe key => exact sharded

theorem step_override_iff {s : TickLoop Object M R} (sharded : s.engine.store.Sharded hash) (ref : ObjectRef)
    (call : SimCall) : KeepsOverride hash arith ref s call ↔ WithstandsModel ref s call := by
  cases call with
  | tick clock => exact tick_override_iff hash arith sharded ref clock
  | writeProperty device objId now p i v pri =>
    refine iff_of_true (fun o found overridden other => ?_) trivial
    refine ⟨_, write_stored hash arith found, ?_⟩
    split
    · rename_i here
      exact overridden.write fun same => other ⟨here, same⟩
    · exact fun _ => rfl
  | subscribe key sub => exact iff_of_true (fun o found _ _ => ⟨o, found, fun _ => rfl⟩) trivial
  | unsubscribe key => exact iff_of_true (fun o found _ _ => ⟨o, found, fun _ => rfl⟩) trivial

/-- Over every run, an override is kept by each call exactly when it withstands the model of its
input at each tick. -/
theorem overrides_kept_iff {start : TickLoop Object M R} (sharded : start.engine.store.Sharded hash)
    (ref : ObjectRef) (calls : List SimCall) :
    AtEachCall (step hash arith) (KeepsOverride hash arith ref) start calls ↔
      AtEachCall (step hash arith) (WithstandsModel ref) start calls :=
  atEachCall_congr (I := fun s : TickLoop Object M R => s.engine.store.Sharded hash) sharded
    (fun held => step_sharded hash arith held _)
    (fun call held => step_override_iff hash arith held ref call) calls

end TickLoop

def sensor : AnalogInput :=
  let out := ((AnalogInput.new midnight ⟨1⟩ 1 "Sensor" .degreesCelsius).writeProperty midnight
    .outOfService (.boolean true)).2
  (out.writeProperty midnight .presentValue (.real ⟨0x42280000⟩)).2

def sensorPlant (value : F32) : TickLoop Object ConstantModel Unit where
  engine := (SimEngine.new (ObjectStore.new.insert (fun _ _ => 0) ⟨1⟩ (.analogInput sensor))).addModel
    .ieee ⟨1⟩ ⟨.analogInput, 1⟩ ⟨value⟩ ⟨0⟩ 0
  period := .fromSecs 1
  lastExpire := ⟨0⟩

def sensorRef : ObjectRef := shardKey (fun _ _ => 0) ⟨1⟩ ⟨.analogInput, 1⟩

theorem sensor_sharded (value : F32) : (sensorPlant value).engine.store.Sharded fun _ _ => 0 :=
  ObjectStore.sharded_new.put (ObjectStore.shardKey_shard _ _ _) (Object.analogInput sensor)

theorem sensor_stored (value : F32) : (sensorPlant value).stored sensorRef = some (.analogInput sensor) :=
  (ObjectStore.lookup_put _ _ _ _ ⟨1⟩ ⟨.analogInput, 1⟩).trans (if_pos rfl)

theorem sensor_modelled (value : F32) : AList.lookup sensorRef.key (sensorPlant value).engine.models =
    some ⟨⟨value⟩, (), RealArith.ieee.maxZero ⟨0⟩, ⟨0⟩⟩ := AList.lookup_insert _

theorem agreed_value_kept : AtEachCall (TickLoop.step (fun _ _ => 0) .ieee)
    (TickLoop.KeepsOverride (fun _ _ => 0) .ieee sensorRef) (sensorPlant ⟨0x42280000⟩) [.tick firstTick] := by
  refine (TickLoop.overrides_kept_iff _ .ieee (sensor_sharded _) _ _).mpr (atEachCall_singleton.mpr ?_)
  intro o entry found _ modelled
  cases (sensor_stored _).symm.trans found
  cases (sensor_modelled _).symm.trans modelled
  exact rfl

/-- A model that yields 5 takes the operator's 42 away at the first tick. -/
theorem override_lost : ¬ ∀ (hash : Hasher) (start : TickLoop Object ConstantModel Unit) (ref : ObjectRef)
    (calls : List SimCall), start.engine.store.Sharded hash →
      AtEachCall (TickLoop.step hash .ieee) (TickLoop.KeepsOverride hash .ieee ref) start calls := by
  intro claim
  have kept := claim _ (sensorPlant ⟨0x40A00000⟩) sensorRef [.tick firstTick] (sensor_sharded _)
  have withstands := atEachCall_singleton.mp
    ((TickLoop.overrides_kept_iff _ .ieee (sensor_sharded _) _ _).mp kept)
  have same : (⟨0x40A00000⟩ : F32) = sensor.presentValue :=
    withstands _ _ (sensor_stored _) rfl (sensor_modelled _)
  exact absurd same (by decide)

end BacnetSim
