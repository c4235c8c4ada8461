import BacnetSim.Engine.AlarmRuns
import BacnetSim.Engine.Tracking

/-! The tick loop with the alarm machines of its entries (`engine.rs`). What the machines find is
logged, and nothing else of the loop depends on it: without them it is the loop of `TickLoop`. -/
namespace BacnetSim
open Rust Ieee754

/-- `ModelEntry` with its last field. -/
structure AlarmedEntry (M R : Type) extends ModelEntry M R where
  alarm : Option (AlarmStateMachine F32)

structure AlarmedEngine (Obj M R : Type) where
  store : ObjectStore Obj
  models : HashMap StoreKey (AlarmedEntry M R)
  covEngine : CovEngine
  covNotificationsTotal : UInt64

structure AlarmTransition where
  ref : ObjectRef
  device : DeviceId
  object : ObjectId
  fromState : EventState
  toState : EventState
  deriving DecidableEq, Repr

namespace AlarmedEngine
variable {Obj M R : Type}

def new (store : ObjectStore Obj) : AlarmedEngine Obj M R := ⟨store, ∅, .new, 0⟩

def addModel [SeedableRng R] (arith : RealArith) (e : AlarmedEngine Obj M R) (deviceId : DeviceId)
    (objectId : ObjectId) (model : M) (covIncrement : F32) (alarm : Option (AlarmStateMachine F32))
    (seed : UInt64) : AlarmedEngine Obj M R :=
  { e with
    models := AList.insert (SimEngine.objKey deviceId objectId)
      { model
        rng := SeedableRng.seedFromU64 seed
        covIncrement := arith.maxZero covIncrement
        lastValue := ⟨0⟩
        alarm } e.models }

def plain (e : AlarmedEngine Obj M R) : SimEngine Obj M R where
  store := e.store
  models := e.models.mapValues AlarmedEntry.toModelEntry
  covEngine := e.covEngine
  covNotificationsTotal := e.covNotificationsTotal

end AlarmedEngine

structure AlarmedSweep (M R : Type) where
  models : HashMap StoreKey (AlarmedEntry M R)
  changed : List Changed
  logged : List AlarmTransition

structure AlarmedLoop (Obj M R : Type) where
  engine : AlarmedEngine Obj M R
  period : Duration
  lastExpire : Instant

/-- `if let Some(sm) = alarm`. -/
def evaluateAlarm (alarm : Option (AlarmStateMachine F32)) (value : PropertyValue) (now : Instant)
    (objectId : ObjectId) : Option EventNotification × Option (AlarmStateMachine F32) :=
  match alarm with
  | some sm =>
    let (notif, sm) := sm.evaluateValue value now objectId
    (notif, some sm)
  | none => (none, none)

def logEntry (ref : ObjectRef) (name : DeviceId × ObjectId) (n : EventNotification) : AlarmTransition :=
  ⟨ref, name.1, name.2, n.fromState, n.toState⟩

namespace AlarmedLoop
variable {Obj M R : Type} [BacnetObject Obj] [ValueModel M R] (arith : RealArith)

def update (period : Duration) (clock : TickClock) (s : AlarmedSweep M R) (shard : Fin numShards)
    (key : StoreKey) (obj : Obj) : AlarmedSweep M R × Obj :=
  let ref : ObjectRef := ⟨shard, key⟩
  let now := clock.update ref
  match AList.lookup key s.models with
  | some entry =>
    let (newVal, model, rng) := ValueModel.next entry.model clock.elapsed entry.rng
    let (_, obj) := BacnetObject.forceWriteProperty now obj .presentValue (.real newVal)
    let obj := BacnetObject.tick now obj clock.system period
    let (notif, alarm) := evaluateAlarm entry.alarm (.real newVal) clock.now (BacnetObject.objectId obj)
    let logged := s.logged ++
      (notif.map (logEntry ref (BacnetObject.deviceId obj, BacnetObject.objectId obj))).toList
    let entry := { entry with model, rng, alarm }
    if arith.reaches entry.lastValue newVal entry.covIncrement then
      ({ models := AList.insert key { entry with lastValue := newVal } s.models
         changed := s.changed ++
          [⟨ref, BacnetObject.deviceId obj, BacnetObject.objectId obj, newVal⟩]
         logged }, obj)
    else ({ s with models := AList.insert key entry s.models, logged }, obj)
  | none => (s, BacnetObject.tick now obj clock.system period)

def sweep (s : AlarmedLoop Obj M R) (clock : TickClock) :
    AlarmedSweep M R × Shards numShards StoreKey Obj :=
  s.engine.store.shards.iterMut (update arith s.period clock) ⟨s.engine.models, [], []⟩

def checks (s : AlarmedLoop Obj M R) (clock : TickClock) : List Report × CovEngine :=
  runSpec (TickLoop.notify arith clock) s.engine.covEngine (s.sweep arith clock).1.changed

/-- One turn of the loop. It gives back what was checked and what was logged, in this order. -/
def tick (s : AlarmedLoop Obj M R) (clock : TickClock) :
    (List Report × List AlarmTransition) × AlarmedLoop Obj M R :=
  let reports := (s.checks arith clock).1
  let cov := (s.checks arith clock).2
  let covSent := reports.countP (·.check.notified)
  let due : Bool := (clock.now.durationSince s.lastExpire).asSecs ≥ 10
  ((reports, (s.sweep arith clock).1.logged),
    { s with
      engine :=
        { store := ⟨(s.sweep arith clock).2⟩
          models := (s.sweep arith clock).1.models
          covEngine := if due then cov.expireOld clock.expire else cov
          covNotificationsTotal := s.engine.covNotificationsTotal + UInt64.ofNat covSent }
      lastExpire := if due then clock.now else s.lastExpire })

def plain (s : AlarmedLoop Obj M R) : TickLoop Obj M R := ⟨s.engine.plain, s.period, s.lastExpire⟩

variable {arith} {period : Duration} {clock : TickClock}

def AlarmedSweep.plain (s : AlarmedSweep M R) : Sweep M R :=
  ⟨s.models.mapValues AlarmedEntry.toModelEntry, s.changed⟩

theorem update_plain (s : AlarmedSweep M R) (shard : Fin numShards) (key : StoreKey) (obj : Obj) :
    Prod.map AlarmedSweep.plain id (update arith period clock s shard key obj) =
      TickLoop.update arith period clock (AlarmedSweep.plain s) shard key obj := by
  have known := HashMap.lookup_mapValues AlarmedEntry.toModelEntry s.models key
  cases modelled : AList.lookup key s.models with
  | none =>
    rw [modelled] at known
    simp only [update, TickLoop.update, AlarmedSweep.plain, modelled, known]
    rfl
  | some entry =>
    rw [modelled] at known
    simp only [update, TickLoop.update, AlarmedSweep.plain, modelled, known, Option.map_some]
    split <;> simp only [Prod.map, AlarmedSweep.plain, HashMap.mapValues_insert] <;> rfl

variable (arith) (s : AlarmedLoop Obj M R) (clock)

theorem sweep_plain : s.plain.sweep arith clock =
    (AlarmedSweep.plain (s.sweep arith clock).1, (s.sweep arith clock).2) :=
  Shards.iterMut_erase update_plain ⟨s.engine.models, [], []⟩ s.engine.store.shards

theorem tick_plain :
    s.plain.tick arith clock = ((s.tick arith clock).1.1, (s.tick arith clock).2.plain) := by
  have swept := s.sweep_plain arith clock
  simp only [TickLoop.tick, TickLoop.checks, tick, checks, swept, AlarmedSweep.plain]
  generalize s.sweep arith clock = sweep
  rfl

theorem run_plain (clocks : List TickClock) :
    runSpec (TickLoop.tick arith) s.plain clocks =
      ((runSpec (tick arith) s clocks).1.map Prod.fst, (runSpec (tick arith) s clocks).2.plain) := by
  induction clocks generalizing s with
  | nil => rfl
  | cons clock clocks ih =>
    rw [runSpec_cons, runSpec_cons, tick_plain, ih, List.map_cons]

end AlarmedLoop

namespace AlarmedEntry
variable {M R : Type} [ValueModel M R] (arith : RealArith) (clock : TickClock) (objectId : ObjectId)
  (entry : AlarmedEntry M R)

def evaluated : Option EventNotification × Option (AlarmStateMachine F32) :=
  evaluateAlarm entry.alarm (.real (entry.nextValue clock)) clock.now objectId

def next : AlarmedEntry M R :=
  { entry.toModelEntry.next arith clock with alarm := (entry.evaluated clock objectId).2 }

end AlarmedEntry

def ModelEntry.calls {M R : Type} [ValueModel M R] (arith : RealArith) (objectId : ObjectId) :
    ModelEntry M R → List TickClock → List (AlarmCall F32)
  | _, [] => []
  | entry, clock :: clocks =>
    ⟨entry.nextValue clock, clock.now, objectId⟩ :: (entry.next arith clock).calls arith objectId clocks

theorem AlarmStateMachine.notifications_cons {K : Type} [LT K] [DecidableLT K] [Add K] [Sub K]
    (m : AlarmStateMachine K) (call : AlarmCall K) (calls : List (AlarmCall K)) :
    m.notifications (call :: calls) =
      (m.evaluate (some call.value) call.now call.objectId).1.toList ++
        (m.evaluate (some call.value) call.now call.objectId).2.notifications calls := by
  rw [notifications, run, runSpec_cons, List.filterMap_cons]
  cases (m.evaluate (some call.value) call.now call.objectId).1 with
  | none => rfl
  | some n => rfl

namespace AlarmedLoop
variable {Obj M R : Type} [BacnetObject Obj] [ValueModel M R] (arith : RealArith) (clock : TickClock)

def logs (clock : TickClock) (ref : ObjectRef) (name : DeviceId × ObjectId) (entry : AlarmedEntry M R) :
    List AlarmTransition := ((entry.evaluated clock name.2).1.map (logEntry ref name)).toList

section Update
variable {period : Duration} {s : AlarmedSweep M R} {i : Fin numShards} {k : StoreKey} {obj : Obj}

theorem update_modelled (keeps : KeepsIds Obj) {entry : AlarmedEntry M R}
    (modelled : AList.lookup k s.models = some entry) :
    update arith period clock s i k obj =
      (⟨AList.insert k (entry.next arith clock (ids obj).2) s.models,
        s.changed ++ TickLoop.changes arith clock ⟨i, k⟩ (ids obj) entry.toModelEntry,
        s.logged ++ logs clock ⟨i, k⟩ (ids obj) entry⟩,
        driven period clock ⟨i, k⟩ obj (entry.nextValue clock)) := by
  rw [← driven_ids keeps period clock ⟨i, k⟩ obj (entry.nextValue clock)]
  simp only [update, modelled]
  by_cases far : entry.reports arith clock = true
  · rw [AlarmedEntry.next, ModelEntry.next, TickLoop.changes, if_pos far, if_pos far]
    exact if_pos far
  · rw [AlarmedEntry.next, ModelEntry.next, TickLoop.changes, if_neg far, if_neg far, List.append_nil]
    exact if_neg far

theorem update_unmodelled (unmodelled : AList.lookup k s.models = none) :
    update arith period clock s i k obj =
      (s, BacnetObject.tick (clock.update ⟨i, k⟩) obj clock.system period) := by
  simp only [update, unmodelled]

theorem update_other (keeps : KeepsIds Obj) {ref : ObjectRef} (keyed : k ≠ ref.key) :
    AList.lookup ref.key (update arith period clock s i k obj).1.models =
        AList.lookup ref.key s.models ∧
      (update arith period clock s i k obj).1.logged.filter (·.ref = ref) =
        s.logged.filter (·.ref = ref) := by
  have apart : (⟨i, k⟩ : ObjectRef) ≠ ref := fun same => keyed (congrArg ObjectRef.key same)
  cases modelled : AList.lookup k s.models with
  | none =>
    rw [update_unmodelled arith clock modelled]
    exact ⟨rfl, rfl⟩
  | some entry =>
    rw [update_modelled arith clock keeps modelled]
    refine ⟨AList.lookup_insert_ne keyed.symm, ?_⟩
    rw [List.filter_append, logs]
    cases (entry.evaluated clock (ids obj).2).1 with
    | none => exact List.append_nil _
    | some n => simp [logEntry, apart]

end Update

variable {s : AlarmedLoop Obj M R} {hash : Hasher} {obj : Obj} {entry : AlarmedEntry M R}

theorem swept (keeps : KeepsIds Obj) (filed : s.engine.store.Filed hash)
    (stored : s.engine.store.lookup hash (ids obj).1 (ids obj).2 = some obj)
    (modelled : AList.lookup (ObjectStore.place hash (ids obj)).key s.engine.models = some entry) :
    (s.sweep arith clock).2.lookup (ObjectStore.place hash (ids obj)).shard
        (ObjectStore.place hash (ids obj)).key =
          some (driven s.period clock (ObjectStore.place hash (ids obj)) obj (entry.nextValue clock)) ∧
      AList.lookup (ObjectStore.place hash (ids obj)).key (s.sweep arith clock).1.models =
        some (entry.next arith clock (ids obj).2) ∧
      (s.sweep arith clock).1.logged.filter (·.ref = ObjectStore.place hash (ids obj)) =
        logs clock (ObjectStore.place hash (ids obj)) (ids obj) entry := by
  have there : s.engine.store.shards.lookup (ObjectStore.place hash (ids obj)).shard
      (ObjectStore.place hash (ids obj)).key = some obj := stored
  have tracked := Shards.iterMut_tracks (update arith s.period clock)
    (I := fun c : AlarmedSweep M R =>
      AList.lookup (ObjectStore.place hash (ids obj)).key c.models = some entry ∧
        c.logged.filter (·.ref = ObjectStore.place hash (ids obj)) = [])
    (Q := fun left c =>
      left = driven s.period clock (ObjectStore.place hash (ids obj)) obj (entry.nextValue clock) ∧
        AList.lookup (ObjectStore.place hash (ids obj)).key c.models =
          some (entry.next arith clock (ids obj).2) ∧
        c.logged.filter (·.ref = ObjectStore.place hash (ids obj)) =
          logs clock (ObjectStore.place hash (ids obj)) (ids obj) entry)
    (s := ⟨s.engine.models, [], []⟩) there ⟨modelled, rfl⟩ ?_ ?_ ?_
  · obtain ⟨left, found, rfl, model, logged⟩ := tracked
    exact ⟨found, model, logged⟩
  · rintro c i k o other ne ⟨model, none_⟩
    obtain ⟨_, keys⟩ := filed.distinct there other ne
    obtain ⟨models, logged⟩ := update_other arith clock (i := i) (s := c) keeps keys
    exact ⟨models.trans model, logged.trans none_⟩
  · rintro c ⟨model, none_⟩
    rw [update_modelled arith clock keeps model]
    refine ⟨rfl, AList.lookup_insert _, ?_⟩
    rw [List.filter_append, none_, List.nil_append, logs]
    cases (entry.evaluated clock (ids obj).2).1 with
    | none => rfl
    | some n => simp [logEntry, ObjectStore.place]
  · rintro left c i k o other ne ⟨rfl, model, once⟩
    obtain ⟨_, keys⟩ := filed.distinct there other ne
    obtain ⟨models, logged⟩ := update_other arith clock (i := i) (s := c) keeps keys
    exact ⟨rfl, models.trans model, logged.trans once⟩

variable (s)

theorem tick_logged : (s.tick arith clock).1.2 = (s.sweep arith clock).1.logged := by simp only [tick]

theorem tick_store : (s.tick arith clock).2.engine.store = ⟨(s.sweep arith clock).2⟩ := by simp only [tick]

theorem tick_models : (s.tick arith clock).2.engine.models = (s.sweep arith clock).1.models := by
  simp only [tick]

variable {arith clock s} {name : DeviceId × ObjectId}

theorem tick_filed (keeps : KeepsIds Obj) (filed : s.engine.store.Filed hash) :
    (s.tick arith clock).2.engine.store.Filed hash := by
  have plain := TickLoop.sweep_filed (s := s.plain) arith clock keeps filed
  rw [sweep_plain] at plain
  rw [tick_store]
  exact plain

theorem logs_append (clocks : List TickClock) (entry : AlarmedEntry M R) (ref : ObjectRef) :
    logs clock ref name entry ++ ((entry.next arith clock name.2).alarm.elim [] fun m =>
        (m.notifications ((entry.next arith clock name.2).calls arith name.2 clocks)).map
          (logEntry ref name)) =
      entry.alarm.elim [] fun m =>
        (m.notifications (entry.calls arith name.2 (clock :: clocks))).map (logEntry ref name) := by
  obtain ⟨entry, alarm⟩ := entry
  cases alarm with
  | none => rfl
  | some m =>
    rw [Option.elim_some, ModelEntry.calls, m.notifications_cons, List.map_append]
    exact congrArg (· ++ _) Option.toList_map

theorem logged_run (keeps : KeepsIds Obj) (filed : s.engine.store.Filed hash) (named : ids obj = name)
    (stored : s.engine.store.lookup hash name.1 name.2 = some obj)
    (modelled : AList.lookup (ObjectStore.place hash name).key s.engine.models = some entry)
    (clocks : List TickClock) :
    ((runSpec (tick arith) s clocks).1.flatMap Prod.snd).filter (·.ref = ObjectStore.place hash name) =
      entry.alarm.elim [] fun m => (m.notifications (entry.calls arith name.2 clocks)).map
        (logEntry (ObjectStore.place hash name) name) := by
  induction clocks generalizing s obj entry with
  | nil => cases entry.alarm <;> rfl
  | cons clock clocks ih =>
    subst named
    obtain ⟨left, model, logged⟩ := swept arith clock keeps filed stored modelled
    have same := driven_ids keeps s.period clock (ObjectStore.place hash (ids obj)) obj
      (entry.nextValue clock)
    have later := ih (tick_filed keeps filed) same (by rw [tick_store]; exact left)
      (by rw [tick_models]; exact model)
    rw [runSpec_cons, List.flatMap_cons, List.filter_append, later, tick_logged, logged]
    exact logs_append clocks entry _

section Update
variable {period : Duration} {c : AlarmedSweep M R} {i : Fin numShards} {k : StoreKey}

theorem update_models (keeps : KeepsIds Obj) {k' : StoreKey} :
    k' ∈ (update arith period clock c i k obj).1.models ↔ k' ∈ c.models := by
  cases modelled : AList.lookup k c.models with
  | none => rw [update_unmodelled arith clock modelled]
  | some entry =>
    rw [update_modelled arith clock keeps modelled, AList.mem_insert, or_iff_right_of_imp]
    rintro rfl
    exact AList.lookup_isSome.mp (by rw [modelled]; rfl)

theorem update_logged (keeps : KeepsIds Obj) {t : AlarmTransition}
    (mem : t ∈ (update arith period clock c i k obj).1.logged) :
    t ∈ c.logged ∨ t.ref = ⟨i, k⟩ ∧ k ∈ c.models := by
  cases modelled : AList.lookup k c.models with
  | none =>
    rw [update_unmodelled arith clock modelled] at mem
    exact .inl mem
  | some entry =>
    rw [update_modelled arith clock keeps modelled] at mem
    rcases List.mem_append.mp mem with earlier | now
    · exact .inl earlier
    · obtain ⟨n, _, rfl⟩ := Option.map_eq_some_iff.mp (Option.mem_toList.mp now)
      exact .inr ⟨rfl, AList.lookup_isSome.mp (by rw [modelled]; rfl)⟩

end Update

theorem tick_logs (s : AlarmedLoop Obj M R) (arith : RealArith) (clock : TickClock) (keeps : KeepsIds Obj) :
    (∀ k, k ∈ (s.tick arith clock).2.engine.models ↔ k ∈ s.engine.models) ∧
      (∀ i k, ((s.tick arith clock).2.engine.store.shards.lookup i k).isSome =
        (s.engine.store.shards.lookup i k).isSome) ∧
      ∀ t ∈ (s.tick arith clock).1.2,
        (s.engine.store.shards.lookup t.ref.shard t.ref.key).isSome ∧ t.ref.key ∈ s.engine.models := by
  have swept : (∀ k, k ∈ (s.sweep arith clock).1.models ↔ k ∈ s.engine.models) ∧
      ∀ t ∈ (s.sweep arith clock).1.logged,
        (s.engine.store.shards.lookup t.ref.shard t.ref.key).isSome ∧ t.ref.key ∈ s.engine.models := by
    refine Shards.iterMut_invariant (I := fun c : AlarmedSweep M R =>
      (∀ k, k ∈ c.models ↔ k ∈ s.engine.models) ∧
        ∀ t ∈ c.logged,
          (s.engine.store.shards.lookup t.ref.shard t.ref.key).isSome ∧ t.ref.key ∈ s.engine.models)
      ⟨fun _ => Iff.rfl, fun _ mem => by cases mem⟩ ?_
    rintro c i k obj stored ⟨models, logged⟩
    refine ⟨fun k' => (update_models keeps).trans (models k'), fun t mem => ?_⟩
    rcases update_logged keeps mem with earlier | ⟨here, modelled⟩
    · exact logged t earlier
    · rw [here]
      exact ⟨Option.isSome_iff_exists.mpr ⟨obj, stored⟩, (models k).mp modelled⟩
  have stored : ∀ i k, ((s.sweep arith clock).2.lookup i k).isSome =
      (s.engine.store.shards.lookup i k).isSome :=
    Shards.isSome_lookup_iterMut (update arith s.period clock) ⟨s.engine.models, [], []⟩ s.engine.store.shards
  rw [tick_models, tick_store, tick_logged]
  exact ⟨swept.1, stored, swept.2⟩

theorem run_logs (keeps : KeepsIds Obj) (clocks : List TickClock) :
    ∀ t ∈ (runSpec (tick arith) s clocks).1.flatMap Prod.snd,
      (s.engine.store.shards.lookup t.ref.shard t.ref.key).isSome ∧ t.ref.key ∈ s.engine.models := by
  induction clocks generalizing s with
  | nil =>
    intro t mem
    cases mem
  | cons clock clocks ih =>
    intro t mem
    rw [runSpec_cons, List.flatMap_cons] at mem
    obtain ⟨models, stored, logged⟩ := s.tick_logs arith clock keeps
    rcases List.mem_append.mp mem with now | later
    · exact logged t now
    · obtain ⟨there, modelled⟩ := ih t later
      exact ⟨stored _ _ ▸ there, (models t.ref.key).mp modelled⟩

/-- The alarm machines watch and do nothing else. Over any number of ticks every check, every
notification and every object is as without them; what is logged about an object is what its
machine says, called once a tick with the value that the object's model gave; and nothing is logged
about anything else. -/
theorem alarms_watch {s : AlarmedLoop Object M R} (arith : RealArith) (hash : Hasher)
    (filed : s.engine.store.Filed hash) (clocks : List TickClock) :
    runSpec (TickLoop.tick arith) s.plain clocks =
        ((runSpec (tick arith) s clocks).1.map Prod.fst, (runSpec (tick arith) s clocks).2.plain) ∧
      (∀ obj entry, s.engine.store.lookup hash (ids obj).1 (ids obj).2 = some obj →
        AList.lookup (ObjectStore.place hash (ids obj)).key s.engine.models = some entry →
        ((runSpec (tick arith) s clocks).1.flatMap Prod.snd).filter
            (·.ref = ObjectStore.place hash (ids obj)) =
          entry.alarm.elim [] fun m => (m.notifications (entry.calls arith (ids obj).2 clocks)).map
            (logEntry (ObjectStore.place hash (ids obj)) (ids obj))) ∧
      ∀ t ∈ (runSpec (tick arith) s clocks).1.flatMap Prod.snd,
        ∃ obj entry, s.engine.store.lookup hash (ids obj).1 (ids obj).2 = some obj ∧
          AList.lookup (ObjectStore.place hash (ids obj)).key s.engine.models = some entry ∧
          t.ref = ObjectStore.place hash (ids obj) := by
  refine ⟨s.run_plain arith clocks, fun _ _ stored modelled =>
    logged_run Object.keepsIds filed rfl stored modelled clocks, fun t mem => ?_⟩
  obtain ⟨there, modelled⟩ := run_logs Object.keepsIds clocks t mem
  obtain ⟨obj, stored⟩ := Option.isSome_iff_exists.mp there
  obtain ⟨entry, known⟩ := Option.isSome_iff_exists.mp (AList.lookup_isSome.mpr modelled)
  have here : t.ref = ObjectStore.place hash (ids obj) := filed _ _ obj stored
  rw [here] at stored known
  exact ⟨obj, entry, stored, known, here⟩

end AlarmedLoop

def boilerAlarm : AlarmStateMachine F32 := ⟨.normal, ⟨0⟩, 0, .outOfRange ⟨0x42C80000⟩ ⟨0⟩ ⟨0⟩, none⟩

def boiler : Object := .analogInput (.new midnight ⟨1⟩ 1 "Boiler" .degreesCelsius)

def boilerPlant : AlarmedLoop Object ConstantModel Unit where
  engine := (AlarmedEngine.new (ObjectStore.new.insert (fun _ _ => 0) ⟨1⟩ boiler)).addModel .ieee ⟨1⟩
    ⟨.analogInput, 1⟩ ⟨⟨0x42CA0000⟩⟩ ⟨0⟩ (some boilerAlarm) 0
  period := .fromSecs 1
  lastExpire := ⟨0⟩

theorem boiler_logged : ((runSpec (AlarmedLoop.tick .ieee) boilerPlant [firstTick, firstTick]).1.flatMap
    Prod.snd).filter (·.ref = ObjectStore.place (fun _ _ => 0) (ids boiler)) =
      [⟨ObjectStore.place (fun _ _ => 0) (ids boiler), ⟨1⟩, ⟨.analogInput, 1⟩, .normal, .highLimit⟩] := by
  have filed : boilerPlant.engine.store.Filed fun _ _ => 0 := ObjectStore.filed_new.insert boiler
  have stored : boilerPlant.engine.store.lookup (fun _ _ => 0) (ids boiler).1 (ids boiler).2 = some boiler :=
    (ObjectStore.lookup_put _ _ _ _ ⟨1⟩ ⟨.analogInput, 1⟩).trans (if_pos rfl)
  have watched := (AlarmedLoop.alarms_watch .ieee (fun _ _ => 0) filed [firstTick, firstTick]).2.1 boiler
    ⟨⟨⟨⟨0x42CA0000⟩⟩, (), ⟨0⟩, ⟨0⟩⟩, some boilerAlarm⟩ stored (AList.lookup_insert _)
  exact watched.trans (by decide)

end BacnetSim
