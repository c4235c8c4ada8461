import BacnetSim.Lib.Links
import BacnetSim.Object.Object
import BacnetSim.Object.Store

/-! The schedule engine (`schedule_engine.rs`): each tick writes what schedules read as to the
objects that they are bound to, one binding after the other. Clock readings are arguments. -/
namespace BacnetSim
open Rust Links

structure ScheduleOutput where
  scheduleDevice : DeviceId
  scheduleObject : ObjectId
  targetDevice : DeviceId
  targetObject : ObjectId
  targetProperty : PropertyIdentifier
  deriving DecidableEq, Repr

/-- An output with the clock readings of its turn, which a read and a write make. -/
structure ScheduleTurn where
  out : ScheduleOutput
  reading : Now
  writing : Now

structure ScheduleEngine where
  outputs : List ScheduleOutput

namespace ScheduleEngine
variable {Obj : Type} [BacnetObject Obj] (hash : Hasher)

def new : ScheduleEngine := ⟨[]⟩

def addOutput (e : ScheduleEngine) (output : ScheduleOutput) : ScheduleEngine :=
  ⟨e.outputs ++ [output]⟩

def value (store : ObjectStore Obj) (t : ScheduleTurn) : Option PropertyValue :=
  match store.get hash t.out.scheduleDevice t.out.scheduleObject with
  | some r =>
    match r.readProperty t.reading store .presentValue none with
    | .ok (.ok v) => if v.eq .null then none else some v
    | _ => none
  | none => none

/-- Whether the target took the value is not looked at. -/
def give (store : ObjectStore Obj) (t : ScheduleTurn) (pv : PropertyValue) : ObjectStore Obj :=
  match store.get hash t.out.targetDevice t.out.targetObject with
  | some r =>
    match r.writeProperty t.writing store t.out.targetProperty none pv none with
    | .ok (_, store) => store
    | .error _ => store
  | none => store

/-- One turn of the loop. -/
def drive (store : ObjectStore Obj) (t : ScheduleTurn) : ObjectStore Obj :=
  match value hash store t with
  | some pv => give hash store t pv
  | none => store

def turns (e : ScheduleEngine) (clock : Nat → Now × Now) : List ScheduleTurn :=
  e.outputs.zipIdx.map fun entry => ⟨entry.1, (clock entry.2).1, (clock entry.2).2⟩

def tick (e : ScheduleEngine) (clock : Nat → Now × Now) (store : ObjectStore Obj) : ObjectStore Obj :=
  (e.turns clock).foldl (drive hash) store

end ScheduleEngine

def ObjectStore.at {Obj : Type} (store : ObjectStore Obj) (r : ObjectRef) : Option Obj :=
  store.shards.lookup r.shard r.key

namespace ScheduleTurn
variable {Obj : Type} [BacnetObject Obj] (hash : Hasher) (t : ScheduleTurn)

def source : ObjectRef := shardKey hash t.out.scheduleDevice t.out.scheduleObject

def target : ObjectRef := shardKey hash t.out.targetDevice t.out.targetObject

def shows (o : Obj) : Option PropertyValue :=
  match BacnetObject.readProperty t.reading o .presentValue none with
  | .ok v => if v.eq .null then none else some v
  | .error _ => none

def takes (v : PropertyValue) (o : Obj) : Obj :=
  (BacnetObject.writeProperty t.writing o t.out.targetProperty none v none).2

def link : Link ObjectRef Obj where
  source := t.source hash
  target := t.target hash
  carry o := (t.shows o).map t.takes

end ScheduleTurn

namespace ScheduleEngine
variable {Obj : Type} [BacnetObject Obj] {hash : Hasher} {store : ObjectStore Obj} {t : ScheduleTurn}

omit [BacnetObject Obj] in
theorem get_source : store.get hash t.out.scheduleDevice t.out.scheduleObject =
    if (store.at (t.source hash)).isSome then some (t.source hash) else none := rfl

omit [BacnetObject Obj] in
theorem get_target : store.get hash t.out.targetDevice t.out.targetObject =
    if (store.at (t.target hash)).isSome then some (t.target hash) else none := rfl

omit [BacnetObject Obj] in
theorem object_at {r : ObjectRef} {o : Obj} (found : store.at r = some o) : r.object store = .ok o := by
  have found : store.shards.lookup r.shard r.key = some o := found
  rw [ObjectRef.object, found]

theorem value_eq : value hash store t = (store.at (t.source hash)).bind t.shows := by
  rw [value, get_source]
  cases found : store.at (t.source hash) with
  | none => rfl
  | some o =>
    simp only [Option.isSome_some, if_true, ObjectRef.readProperty, object_at found, ok_bind,
      Option.bind_some, ScheduleTurn.shows]
    cases BacnetObject.readProperty t.reading o .presentValue none with
    | ok v => rfl
    | error e => rfl

omit [BacnetObject Obj] in
theorem at_put (r : ObjectRef) (o : Obj) : (r.put store o).at = Function.update store.at r (some o) := by
  funext r'
  rw [ObjectStore.at, ObjectRef.put, Shards.lookup_insert]
  by_cases same : r' = r
  · subst same
    rw [if_pos ⟨rfl, rfl⟩, Function.update_self]
  · rw [Function.update_of_ne same, if_neg]
    · rfl
    · rintro ⟨shard, key⟩
      exact same (by cases r; cases r'; simp_all)

theorem carry_bind (o : Option Obj) : o.bind (t.link hash).carry = (o.bind t.shows).map t.takes := by
  cases o with
  | none => rfl
  | some o => rfl

theorem at_drive : (drive hash store t).at = Links.step store.at (t.link hash) := by
  unfold drive give
  rw [value_eq, get_target, Links.step, Link.effect]
  rw [show (t.link hash).source = t.source hash from rfl,
    show (t.link hash).target = t.target hash from rfl, carry_bind]
  cases target : store.at (t.target hash) with
  | none =>
    have same : Function.update store.at (t.target hash) none = store.at := by
      rw [← target, Function.update_eq_self]
    cases (store.at (t.source hash)).bind t.shows with
    | none => exact same.symm
    | some v => exact same.symm
  | some o =>
    cases (store.at (t.source hash)).bind t.shows with
    | none =>
      have same : Function.update store.at (t.target hash) (some o) = store.at := by
        rw [← target, Function.update_eq_self]
      exact same.symm
    | some v =>
      simp only [Option.isSome_some, if_true, ObjectRef.writeProperty, object_at target, ok_bind]
      exact at_put _ _

theorem at_turns (turns : List ScheduleTurn) (store : ObjectStore Obj) :
    (turns.foldl (drive hash) store).at = Links.run store.at (turns.map (ScheduleTurn.link hash)) := by
  induction turns generalizing store with
  | nil => rfl
  | cons t turns ih =>
    rw [List.foldl_cons, ih, at_drive]
    rfl

def taken (hash : Hasher) (store : ObjectStore Obj) (o : Obj) (t : ScheduleTurn) : Obj :=
  match value hash store t with
  | some v => t.takes v o
  | none => o

theorem effect_link : (t.link hash).effect store.at = fun o => taken hash store o t := by
  funext o
  rw [Link.effect, show (t.link hash).source = t.source hash from rfl, carry_bind, taken, value_eq]
  cases (store.at (t.source hash)).bind t.shows with
  | none => rfl
  | some v => rfl

/-- No turn writes to a schedule that a later one reads. -/
def Ahead (hash : Hasher) (turns : List ScheduleTurn) : Prop :=
  turns.Pairwise fun t u => t.target hash ≠ u.source hash

theorem Ahead.independent {turns : List ScheduleTurn} (ahead : Ahead hash turns) :
    Independent (turns.map fun t => (t.link hash : Link ObjectRef Obj)) := by
  rw [Independent, List.pairwise_map]
  exact ahead

/-- A tick writes at once what all schedules showed before it. Where each object is the target of
one output at most, the order of the outputs is not seen. -/
theorem tick_at_once (hash : Hasher) (e : ScheduleEngine) (clock : Nat → Now × Now) (store : ObjectStore Obj)
    (ahead : Ahead hash (e.turns clock)) :
    (∀ r, (e.tick hash clock store).at r =
      (store.at r).map fun o =>
        ((e.turns clock).filter (·.target hash = r)).foldl (taken hash store) o) ∧
    (((e.turns clock).map (ScheduleTurn.target hash)).Nodup →
      ∀ turns, turns.Perm (e.turns clock) → Ahead hash turns →
        (turns.foldl (drive hash) store).at = (e.tick hash clock store).at) := by
  constructor
  · intro r
    rw [tick, at_turns, run_apply ahead.independent, List.filter_map]
    simp only [List.foldl_map, effect_link]
    rfl
  · intro distinct turns perm ahead'
    rw [tick, at_turns, at_turns]
    refine (run_perm ahead.independent ahead'.independent ?_ (perm.symm.map _)).symm
    rw [List.map_map]
    exact distinct

def zones : ScheduleEngine :=
  (new.addOutput ⟨⟨1⟩, ⟨.analogValue, 1⟩, ⟨1⟩, ⟨.analogValue, 2⟩, .presentValue⟩).addOutput
    ⟨⟨1⟩, ⟨.schedule, 1⟩, ⟨1⟩, ⟨.analogValue, 1⟩, .presentValue⟩

def midnight : Now := ⟨⟨0⟩, ⟨0⟩⟩

def zoneStore : ObjectStore Object :=
  ObjectStore.new.bulkInsert (fun _ _ => 0)
    [(⟨1⟩, .analogValue (AnalogValue.new midnight ⟨1⟩ 1 "zone" .noUnits)),
      (⟨1⟩, .analogValue { AnalogValue.new midnight ⟨1⟩ 2 "next" .noUnits with presentValue := tenthF32 }),
      (⟨1⟩, .schedule { Schedule.new ⟨1⟩ 1 "hours" with presentValue := .real tenthF32 })]

theorem zones_at_once :
    ((zones.tick (fun _ _ => 0) (fun _ => (midnight, midnight)) zoneStore).at
        (shardKey (fun _ _ => 0) ⟨1⟩ ⟨.analogValue, 2⟩)).bind
      (fun o => (BacnetObject.readProperty midnight o .presentValue none).toOption.bind (·.asF32)) =
        some zeroF32 := by
  have once := tick_at_once (fun _ _ => 0) zones (fun _ => (midnight, midnight)) zoneStore
    (by unfold Ahead; decide +kernel)
  rw [once.1]
  decide +kernel

end ScheduleEngine

end BacnetSim
