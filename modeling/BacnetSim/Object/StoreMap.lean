import BacnetSim.Lib.Simulation
import BacnetSim.Object.Device
import BacnetSim.Object.Store
import Mathlib.Data.List.Dedup

/-! The store is a finite map keyed by device and object id, over whole runs of calls
with references kept from earlier lookups. -/
namespace BacnetSim
open Rust

variable {Obj : Type}

inductive StoreCall (Obj : Type) where
  | insert (device : DeviceId) (obj : Obj)
  | bulkInsert (objects : List (DeviceId × Obj))
  | count
  /-- The reference found, if any, is kept; the calls below name it by its number. -/
  | get (device : DeviceId) (objId : ObjectId)
  | readProperty (ref : Nat) (now : Now) (propertyId : PropertyIdentifier)
    (arrayIndex : Option UInt32)
  | allProperties (ref : Nat)
  | writeProperty (ref : Nat) (now : Now) (propertyId : PropertyIdentifier)
    (arrayIndex : Option UInt32) (value : PropertyValue) (priority : Option UInt8)
  | forceWriteProperty (ref : Nat) (now : Now) (propertyId : PropertyIdentifier)
    (value : PropertyValue)

inductive StoreAnswer where
  | done
  | counted (n : Nat)
  | found (some : Bool)
  | value (result : Except BacnetError PropertyValue)
  | properties (all : PropertyList)
  | outcome (result : Except BacnetError Unit)

structure StoreState (Obj : Type) where
  store : ObjectStore Obj
  refs : List ObjectRef

section Store
variable [BacnetObject Obj] (hash : Hasher)

/-- One call on the sharded store. Without the named reference nothing happens. -/
def storeStep (s : StoreState Obj) : StoreCall Obj → Result (StoreAnswer × StoreState Obj)
  | .insert device obj => .ok (.done, { s with store := s.store.insert hash device obj })
  | .bulkInsert objects => .ok (.done, { s with store := s.store.bulkInsert hash objects })
  | .count => .ok (.counted s.store.count, s)
  | .get device objId =>
    match s.store.get hash device objId with
    | some r => .ok (.found true, { s with refs := s.refs ++ [r] })
    | none => .ok (.found false, s)
  | .readProperty ref now propertyId arrayIndex =>
    match s.refs[ref]? with
    | some r => do .ok (.value (← r.readProperty now s.store propertyId arrayIndex), s)
    | none => .ok (.done, s)
  | .allProperties ref =>
    match s.refs[ref]? with
    | some r => do .ok (.properties (← r.allProperties s.store), s)
    | none => .ok (.done, s)
  | .writeProperty ref now propertyId arrayIndex value priority =>
    match s.refs[ref]? with
    | some r => do
      let (result, store) ← r.writeProperty now s.store propertyId arrayIndex value priority
      .ok (.outcome result, { s with store })
    | none => .ok (.done, s)
  | .forceWriteProperty ref now propertyId value =>
    match s.refs[ref]? with
    | some r => do
      let (result, store) ← r.forceWriteProperty now s.store propertyId value
      .ok (.outcome result, { s with store })
    | none => .ok (.done, s)

end Store

abbrev ObjectMap (Obj : Type) := HashMap (DeviceId × ObjectId) Obj

structure MapState (Obj : Type) where
  map : ObjectMap Obj
  keys : List (DeviceId × ObjectId)

namespace MapState

def empty : MapState Obj := ⟨∅, []⟩

def held (m : MapState Obj) (ref : Nat) : Option ((DeviceId × ObjectId) × Obj) := do
  let key ← m.keys[ref]?
  let o ← AList.lookup key m.map
  some (key, o)

def put (m : MapState Obj) (key : DeviceId × ObjectId) (o : Obj) : MapState Obj :=
  { m with map := AList.insert key o m.map }

variable [BacnetObject Obj]

def insert (m : MapState Obj) (entry : DeviceId × Obj) : MapState Obj :=
  m.put (entry.1, BacnetObject.objectId entry.2) entry.2

end MapState

def mapStep [BacnetObject Obj] (m : MapState Obj) : StoreCall Obj → StoreAnswer × MapState Obj
  | .insert device obj => (.done, m.insert (device, obj))
  | .bulkInsert objects => (.done, objects.foldl MapState.insert m)
  | .count => (.counted m.map.len, m)
  | .get device objId =>
    if (AList.lookup (device, objId) m.map).isSome then
      (.found true, { m with keys := m.keys ++ [(device, objId)] })
    else (.found false, m)
  | .readProperty ref now propertyId arrayIndex =>
    match m.held ref with
    | some (_, o) => (.value (BacnetObject.readProperty now o propertyId arrayIndex), m)
    | none => (.done, m)
  | .allProperties ref =>
    match m.held ref with
    | some (_, o) => (.properties (BacnetObject.allProperties o), m)
    | none => (.done, m)
  | .writeProperty ref now propertyId arrayIndex value priority =>
    match m.held ref with
    | some (key, o) =>
      let (result, o) := BacnetObject.writeProperty now o propertyId arrayIndex value priority
      (.outcome result, m.put key o)
    | none => (.done, m)
  | .forceWriteProperty ref now propertyId value =>
    match m.held ref with
    | some (key, o) =>
      let (result, o) := BacnetObject.forceWriteProperty now o propertyId value
      (.outcome result, m.put key o)
    | none => (.done, m)

structure Refines (hash : Hasher) (s : StoreState Obj) (m : MapState Obj) : Prop where
  lookup : ∀ d o, Is22Bit o.instanceNumber →
    s.store.lookup hash d o = AList.lookup (d, o) m.map
  count : s.store.count = m.map.len
  refs : s.refs = m.keys.map fun key => shardKey hash key.1 key.2
  narrow : ∀ key ∈ m.keys, Is22Bit key.2.instanceNumber
  present : ∀ key ∈ m.keys, (AList.lookup key m.map).isSome

namespace Refines
variable {hash : Hasher} {s : StoreState Obj} {m : MapState Obj}

theorem new : Refines hash ⟨(ObjectStore.new : ObjectStore Obj), []⟩ .empty where
  lookup d o _ := by simp [MapState.empty]
  count := by simp [MapState.empty, HashMap.len]
  refs := rfl
  narrow key mem := by cases mem
  present key mem := by cases mem

theorem put (refines : Refines hash s m) {d : DeviceId} {o : ObjectId}
    (narrow : Is22Bit o.instanceNumber) (obj : Obj) :
    Refines hash { s with store := (shardKey hash d o).put s.store obj } (m.put (d, o) obj) where
  lookup d' o' narrow' := by
    rw [ObjectStore.lookup_put, refines.lookup d' o' narrow', MapState.put]
    by_cases same : (d', o') = (d, o)
    · cases same
      rw [if_pos rfl, AList.lookup_insert]
    · rw [AList.lookup_insert_ne same, if_neg]
      intro refs
      obtain ⟨devices, objects⟩ := shardKey_injective narrow narrow' refs
      exact same (by rw [devices, objects])
  count := by
    rw [ObjectStore.count_put, refines.lookup d o narrow, refines.count, MapState.put,
      HashMap.len_insert]
  refs := refines.refs
  narrow := refines.narrow
  present key mem := by
    rw [MapState.put, AList.lookup_isSome, AList.mem_insert]
    exact .inr (AList.lookup_isSome.mp (refines.present key mem))

theorem held (refines : Refines hash s m) (ref : Nat) :
    (m.held ref = none ∧ s.refs[ref]? = none) ∨
      ∃ d o obj, Is22Bit o.instanceNumber ∧ m.held ref = some ((d, o), obj) ∧
        s.refs[ref]? = some (shardKey hash d o) ∧
        (shardKey hash d o).object s.store = .ok obj := by
  have refs : s.refs[ref]? = (m.keys[ref]?).map fun key => shardKey hash key.1 key.2 := by
    rw [refines.refs, List.getElem?_map]
  cases kept : m.keys[ref]? with
  | none =>
    rw [kept] at refs
    exact .inl ⟨by simp [MapState.held, kept], refs⟩
  | some key =>
    rw [kept] at refs
    have mem := List.mem_of_getElem? kept
    obtain ⟨obj, stored⟩ := Option.isSome_iff_exists.mp (refines.present key mem)
    have found := refines.lookup key.1 key.2 (refines.narrow key mem)
    rw [stored] at found
    refine .inr ⟨key.1, key.2, obj, refines.narrow key mem, ?_, refs,
      ObjectStore.object_shardKey hash found⟩
    simp [MapState.held, kept, stored]

variable [BacnetObject Obj]

theorem insert (refines : Refines hash s m) (entry : DeviceId × Obj)
    (narrow : Is22Bit (BacnetObject.objectId entry.2).instanceNumber) :
    Refines hash { s with store := s.store.insert hash entry.1 entry.2 } (m.insert entry) :=
  refines.put narrow entry.2

theorem bulkInsert (refines : Refines hash s m) {objects : List (DeviceId × Obj)}
    (narrow : ∀ entry ∈ objects, Is22Bit (BacnetObject.objectId entry.2).instanceNumber) :
    Refines hash { s with store := s.store.bulkInsert hash objects }
      (objects.foldl MapState.insert m) := by
  rw [ObjectStore.bulkInsert_eq_foldl]
  induction objects generalizing s m with
  | nil => exact refines
  | cons entry objects ih =>
    exact ih (refines.insert entry (narrow entry List.mem_cons_self))
      fun e mem => narrow e (List.mem_cons_of_mem entry mem)

end Refines

section Runs
variable [BacnetObject Obj]

def StoreCall.Narrow : StoreCall Obj → Prop
  | .insert _ obj => Is22Bit (BacnetObject.objectId obj).instanceNumber
  | .bulkInsert objects => ∀ entry ∈ objects, Is22Bit (BacnetObject.objectId entry.2).instanceNumber
  | .get _ objId => Is22Bit objId.instanceNumber
  | _ => True

theorem storeStep_simulates (hash : Hasher) :
    Simulates (storeStep hash) mapStep (fun call : StoreCall Obj => call.Narrow) (Refines hash) := by
  intro s m call refines narrow
  cases call with
  | insert device obj => exact ⟨_, rfl, refines.insert (device, obj) narrow⟩
  | bulkInsert objects => exact ⟨_, rfl, refines.bulkInsert narrow⟩
  | count =>
    refine ⟨s, ?_, refines⟩
    simp only [storeStep, mapStep, refines.count]
  | get device objId =>
    have found := refines.lookup device objId narrow
    simp only [storeStep, mapStep, ObjectStore.get_eq, found]
    by_cases stored : (AList.lookup (device, objId) m.map).isSome
    · simp only [if_pos stored]
      refine ⟨_, rfl, refines.lookup, refines.count, ?_, ?_, ?_⟩
      · simp [refines.refs]
      · intro key mem
        rcases List.mem_append.mp mem with old | new
        · exact refines.narrow key old
        · rw [List.mem_singleton.mp new]
          exact narrow
      · intro key mem
        rcases List.mem_append.mp mem with old | new
        · exact refines.present key old
        · rwa [List.mem_singleton.mp new]
    · simp only [if_neg stored]
      exact ⟨s, rfl, refines⟩
  | readProperty ref now propertyId arrayIndex =>
    simp only [storeStep, mapStep]
    rcases refines.held ref with ⟨key, kept⟩ | ⟨d, o, obj, _, key, kept, reached⟩
    · exact ⟨s, by rw [key, kept], by rwa [key]⟩
    · refine ⟨s, ?_, by rwa [key]⟩
      simp only [key, kept, ObjectRef.readProperty, reached, ok_bind]
  | allProperties ref =>
    simp only [storeStep, mapStep]
    rcases refines.held ref with ⟨key, kept⟩ | ⟨d, o, obj, _, key, kept, reached⟩
    · exact ⟨s, by rw [key, kept], by rwa [key]⟩
    · refine ⟨s, ?_, by rwa [key]⟩
      simp only [key, kept, ObjectRef.allProperties, reached, ok_bind]
  | writeProperty ref now propertyId arrayIndex value priority =>
    simp only [storeStep, mapStep]
    rcases refines.held ref with ⟨key, kept⟩ | ⟨d, o, obj, within, key, kept, reached⟩
    · exact ⟨s, by rw [key, kept], by rwa [key]⟩
    · simp only [key, kept, ObjectRef.writeProperty, reached, ok_bind]
      exact ⟨_, rfl, refines.put within _⟩
  | forceWriteProperty ref now propertyId value =>
    simp only [storeStep, mapStep]
    rcases refines.held ref with ⟨key, kept⟩ | ⟨d, o, obj, within, key, kept, reached⟩
    · exact ⟨s, by rw [key, kept], by rwa [key]⟩
    · simp only [key, kept, ObjectRef.forceWriteProperty, reached, ok_bind]
      exact ⟨_, rfl, refines.put within _⟩

def StoreCall.inserted : StoreCall Obj → List (DeviceId × Obj)
  | .insert device obj => [(device, obj)]
  | .bulkInsert objects => objects
  | _ => []

def insertedKeys (calls : List (StoreCall Obj)) : List (DeviceId × ObjectId) :=
  (calls.flatMap StoreCall.inserted).map fun entry => (entry.1, BacnetObject.objectId entry.2)

omit [BacnetObject Obj] in
theorem mem_put (m : MapState Obj) (key k : DeviceId × ObjectId) (o : Obj) :
    k ∈ (m.put key o).map ↔ k = key ∨ k ∈ m.map := AList.mem_insert m.map

theorem mem_foldl_insert (objects : List (DeviceId × Obj)) (m : MapState Obj)
    (k : DeviceId × ObjectId) : k ∈ (objects.foldl MapState.insert m).map ↔
      k ∈ m.map ∨ k ∈ objects.map fun entry => (entry.1, BacnetObject.objectId entry.2) := by
  induction objects generalizing m with
  | nil => simp
  | cons entry objects ih =>
    rw [List.foldl_cons, ih, MapState.insert, mem_put, List.map_cons, List.mem_cons]
    tauto

omit [BacnetObject Obj] in
theorem held_mem {m : MapState Obj} {ref : Nat} {key : DeviceId × ObjectId} {o : Obj}
    (held : m.held ref = some (key, o)) : key ∈ m.map := by
  cases kept : m.keys[ref]? with
  | none => simp [MapState.held, kept] at held
  | some k =>
    cases stored : AList.lookup k m.map with
    | none => simp [MapState.held, kept, stored] at held
    | some o' =>
      have same : (k, o') = (key, o) := by simpa [MapState.held, kept, stored] using held
      cases same
      exact AList.lookup_isSome.mp (by rw [stored]; rfl)

theorem mem_mapStep (m : MapState Obj) (call : StoreCall Obj) (k : DeviceId × ObjectId) :
    k ∈ (mapStep m call).2.map ↔
      k ∈ m.map ∨ k ∈ call.inserted.map fun entry => (entry.1, BacnetObject.objectId entry.2) := by
  have rewritten : ∀ {key : DeviceId × ObjectId} {o : Obj}, key ∈ m.map →
      (k ∈ (m.put key o).map ↔ k ∈ m.map) := by
    intro key o mem
    rw [mem_put]
    constructor
    · rintro (rfl | there)
      · exact mem
      · exact there
    · exact Or.inr
  cases call with
  | insert device obj =>
    simp only [mapStep, MapState.insert, mem_put, StoreCall.inserted, List.map_cons, List.map_nil,
      List.mem_singleton]
    exact or_comm
  | bulkInsert objects => exact mem_foldl_insert objects m k
  | count => simp [mapStep, StoreCall.inserted]
  | get device objId =>
    simp only [mapStep]
    split <;> simp [StoreCall.inserted]
  | readProperty ref now propertyId arrayIndex =>
    simp only [mapStep]
    split <;> simp [StoreCall.inserted]
  | allProperties ref =>
    simp only [mapStep]
    split <;> simp [StoreCall.inserted]
  | writeProperty ref now propertyId arrayIndex value priority =>
    simp only [mapStep]
    split
    · rename_i key o held
      simpa [StoreCall.inserted] using rewritten (held_mem held)
    · simp [StoreCall.inserted]
  | forceWriteProperty ref now propertyId value =>
    simp only [mapStep]
    split
    · rename_i key o held
      simpa [StoreCall.inserted] using rewritten (held_mem held)
    · simp [StoreCall.inserted]

theorem mem_runSpec (calls : List (StoreCall Obj)) (k : DeviceId × ObjectId) :
    k ∈ (runSpec mapStep MapState.empty calls).2.map ↔ k ∈ insertedKeys calls := by
  refine runSpec_invariant (I := fun (m : MapState Obj) before => k ∈ m.map ↔ k ∈ insertedKeys before) ?_ ?_ calls
  · simp [MapState.empty, insertedKeys]
  · intro m before call held
    rw [mem_mapStep, held]
    simp [insertedKeys]

omit [BacnetObject Obj] in
theorem len_eq_dedup {m : ObjectMap Obj} {keys : List (DeviceId × ObjectId)}
    (same : ∀ k, k ∈ m ↔ k ∈ keys) : m.len = keys.dedup.length := by
  have size : m.len = m.keys.length := (List.length_map _).symm
  rw [size]
  apply List.Perm.length_eq
  rw [List.perm_ext_iff_of_nodup (AList.keys_nodup _) (List.nodup_dedup _)]
  intro k
  rw [← AList.mem_keys, same, List.mem_dedup]

theorem count_bulkInsert_new (hash : Hasher) {objects : List (DeviceId × Obj)}
    (narrow : ∀ entry ∈ objects, Is22Bit (BacnetObject.objectId entry.2).instanceNumber) :
    ((ObjectStore.new : ObjectStore Obj).bulkInsert hash objects).count =
      (objects.map fun entry => (entry.1, BacnetObject.objectId entry.2)).dedup.length := by
  have refines := (Refines.new : Refines hash _ (.empty : MapState Obj)).bulkInsert narrow
  rw [refines.count]
  apply len_eq_dedup
  intro k
  rw [mem_foldl_insert]
  exact or_iff_right fun mem => by cases mem

/-- Over every run of calls the store answers as a finite map does, whatever the hasher:
no guard panics, lookups find exactly the inserted ids, references reach what the map
holds, and the count is that of the distinct keys. -/
theorem objectStore_refines_map (hash : Hasher) {calls : List (StoreCall Obj)}
    (narrow : ∀ call ∈ calls, call.Narrow) :
    ∃ s, runCalls (storeStep hash) ⟨.new, []⟩ calls =
        .ok ((runSpec mapStep .empty calls).1, s) ∧
      (∀ d o, Is22Bit o.instanceNumber →
        ((s.store.get hash d o).isSome ↔ (d, o) ∈ insertedKeys calls) ∧
        s.store.lookup hash d o = AList.lookup (d, o) (runSpec mapStep .empty calls).2.map) ∧
      (∀ r ∈ s.refs, ∃ o, r.object s.store = .ok o) ∧
      s.store.count = (insertedKeys calls).dedup.length ∧
      ∀ objects, s.store.bulkInsert hash objects =
        objects.foldl (fun store entry => store.insert hash entry.1 entry.2) s.store := by
  obtain ⟨s, ran, refines⟩ := Simulates.run (storeStep_simulates hash) .new narrow
  refine ⟨s, ran, ?_, ?_, ?_, s.store.bulkInsert_eq_foldl hash⟩
  · intro d o within
    refine ⟨?_, refines.lookup d o within⟩
    rw [ObjectStore.get_eq, refines.lookup d o within, ← mem_runSpec, ← AList.lookup_isSome]
    split <;> simp_all
  · intro r mem
    rw [refines.refs] at mem
    obtain ⟨key, kept, rfl⟩ := List.mem_map.mp mem
    obtain ⟨o, stored⟩ := Option.isSome_iff_exists.mp (refines.present key kept)
    have found := refines.lookup key.1 key.2 (refines.narrow key kept)
    exact ⟨o, ObjectStore.object_shardKey hash (found.trans stored)⟩
  · rw [refines.count, len_eq_dedup (mem_runSpec calls)]

end Runs

theorem two_devices_stored : ∃ s answers,
    runCalls (storeStep fun _ _ => 0) (⟨.new, []⟩ : StoreState DeviceObject)
      [.insert ⟨1⟩ (.new ⟨1⟩ "first"), .get ⟨1⟩ ⟨.device, 1⟩,
        .bulkInsert [(⟨1⟩, .new ⟨1⟩ "second"), (⟨2⟩, .new ⟨2⟩ "third")],
        .readProperty 0 ⟨⟨0⟩, ⟨0⟩⟩ .objectName none] = .ok (answers, s) ∧
      s.store.count = 2 := by
  have narrow : ∀ call ∈ ([.insert ⟨1⟩ (.new ⟨1⟩ "first"), .get ⟨1⟩ ⟨.device, 1⟩,
      .bulkInsert [(⟨1⟩, .new ⟨1⟩ "second"), (⟨2⟩, .new ⟨2⟩ "third")],
      .readProperty 0 ⟨⟨0⟩, ⟨0⟩⟩ .objectName none] : List (StoreCall DeviceObject)),
      call.Narrow := by
    intro call mem
    simp only [List.mem_cons, List.not_mem_nil, or_false] at mem
    rcases mem with rfl | rfl | rfl | rfl
    · exact (by decide : Is22Bit 1)
    · exact (by decide : Is22Bit 1)
    · intro entry mem
      simp only [List.mem_cons, List.not_mem_nil, or_false] at mem
      rcases mem with rfl | rfl
      · exact (by decide : Is22Bit 1)
      · exact (by decide : Is22Bit 2)
    · trivial
  obtain ⟨s, ran, _, _, count, _⟩ := objectStore_refines_map (fun _ _ => 0) narrow
  exact ⟨s, _, ran, count.trans (by decide)⟩

end BacnetSim
