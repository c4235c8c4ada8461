import BacnetSim.Lib.BigEndian
import BacnetSim.Lib.Sharded
import BacnetSim.Object.Property

/-! The sharded object store (`store.rs`). A reference names a shard and a key; a guard
looks the object up again, and panics where there is none. -/
namespace BacnetSim
open Rust

def numShards : Nat := 256

abbrev StoreKey := UInt64 × UInt64

/-- The hasher fed with the device key and the object key, in this order. -/
abbrev Hasher := UInt64 → UInt64 → UInt64

def deviceKey (device : DeviceId) : UInt64 := device.id.toUInt64

/-- The object type above the low 22 bits; the instance is not masked. -/
def objectKey (obj : ObjectId) : UInt64 :=
  (UInt64.ofNat obj.objectType.code <<< 22) ||| obj.instanceNumber.toUInt64

structure ObjectRef where
  shard : Fin numShards
  key : StoreKey
  deriving DecidableEq, Repr

def shardKey (hash : Hasher) (device : DeviceId) (obj : ObjectId) : ObjectRef :=
  let dk := deviceKey device
  let ok := objectKey obj
  { shard := ⟨(hash dk ok).toNat % numShards, Nat.mod_lt _ (by decide)⟩
    key := (dk, ok) }

structure ObjectStore (Obj : Type) where
  shards : Shards numShards StoreKey Obj

namespace ObjectStore
variable {Obj : Type}

def new : ObjectStore Obj := ⟨.empty _ _ _⟩

def count (store : ObjectStore Obj) : Nat := store.shards.count

variable [BacnetObject Obj] (hash : Hasher)

def item (entry : DeviceId × Obj) : Shards.Item numShards StoreKey Obj :=
  let r := shardKey hash entry.1 (BacnetObject.objectId entry.2)
  (r.shard, r.key, entry.2)

def insert (store : ObjectStore Obj) (device : DeviceId) (obj : Obj) : ObjectStore Obj :=
  ⟨store.shards.insert (item hash (device, obj))⟩

def bulkInsert (store : ObjectStore Obj) (objects : List (DeviceId × Obj)) : ObjectStore Obj :=
  ⟨store.shards.bulkInsert (objects.map (item hash))⟩

omit [BacnetObject Obj] in
def get (store : ObjectStore Obj) (device : DeviceId) (objId : ObjectId) : Option ObjectRef :=
  let r := shardKey hash device objId
  if (store.shards.lookup r.shard r.key).isSome then some r else none

end ObjectStore

namespace ObjectRef
variable {Obj : Type}

/-- The entry behind a guard: `self.0[&self.1]` and `get_mut(&self.1).unwrap()`. -/
def object (store : ObjectStore Obj) (r : ObjectRef) : Result Obj :=
  match store.shards.lookup r.shard r.key with
  | some o => .ok o
  | none => .error .panicked

def put (store : ObjectStore Obj) (r : ObjectRef) (o : Obj) : ObjectStore Obj :=
  ⟨store.shards.insert (r.shard, r.key, o)⟩

variable [BacnetObject Obj]

def readProperty (now : Now) (store : ObjectStore Obj) (r : ObjectRef)
    (propertyId : PropertyIdentifier) (arrayIndex : Option UInt32) :
    Result (Except BacnetError PropertyValue) := do
  let o ← r.object store
  .ok (BacnetObject.readProperty now o propertyId arrayIndex)

def allProperties (store : ObjectStore Obj) (r : ObjectRef) : Result PropertyList := do
  let o ← r.object store
  .ok (BacnetObject.allProperties o)

def writeProperty (now : Now) (store : ObjectStore Obj) (r : ObjectRef)
    (propertyId : PropertyIdentifier) (arrayIndex : Option UInt32) (value : PropertyValue)
    (priority : Option UInt8) : Result (Except BacnetError Unit × ObjectStore Obj) := do
  let o ← r.object store
  let (result, o) := BacnetObject.writeProperty now o propertyId arrayIndex value priority
  .ok (result, r.put store o)

def forceWriteProperty (now : Now) (store : ObjectStore Obj) (r : ObjectRef)
    (propertyId : PropertyIdentifier) (value : PropertyValue) :
    Result (Except BacnetError Unit × ObjectStore Obj) := do
  let o ← r.object store
  let (result, o) := BacnetObject.forceWriteProperty now o propertyId value
  .ok (result, r.put store o)

end ObjectRef

namespace ObjectStore
variable {Obj : Type} (hash : Hasher)

def lookup (store : ObjectStore Obj) (device : DeviceId) (objId : ObjectId) : Option Obj :=
  store.shards.lookup (shardKey hash device objId).shard (shardKey hash device objId).key

theorem get_eq (store : ObjectStore Obj) (device : DeviceId) (objId : ObjectId) :
    store.get hash device objId =
      if (store.lookup hash device objId).isSome then some (shardKey hash device objId) else none :=
  rfl

theorem get_of_lookup {store : ObjectStore Obj} {device : DeviceId} {objId : ObjectId} {o : Obj}
    (found : store.lookup hash device objId = some o) :
    store.get hash device objId = some (shardKey hash device objId) := by
  rw [get_eq, found]
  rfl

theorem isSome_get (store : ObjectStore Obj) (device : DeviceId) (objId : ObjectId) :
    (store.get hash device objId).isSome = (store.lookup hash device objId).isSome := by
  rw [get_eq]
  cases (store.lookup hash device objId).isSome <;> rfl

@[simp] theorem lookup_new (device : DeviceId) (objId : ObjectId) :
    (new : ObjectStore Obj).lookup hash device objId = none := Shards.lookup_empty _ _

@[simp] theorem count_new : (new : ObjectStore Obj).count = 0 := Shards.count_empty

theorem object_shardKey {store : ObjectStore Obj} {device : DeviceId} {objId : ObjectId} {o : Obj}
    (found : store.lookup hash device objId = some o) :
    (shardKey hash device objId).object store = .ok o := by
  have entry : store.shards.lookup (shardKey hash device objId).shard
      (shardKey hash device objId).key = some o := found
  rw [ObjectRef.object, entry]

theorem lookup_put (store : ObjectStore Obj) (r : ObjectRef) (o : Obj) (device : DeviceId)
    (objId : ObjectId) : (r.put store o).lookup hash device objId =
      if r = shardKey hash device objId then some o else store.lookup hash device objId := by
  rw [lookup, ObjectRef.put, Shards.lookup_insert]
  by_cases same : r = shardKey hash device objId
  · subst same
    simp
  · have parts : ¬ (r.shard = (shardKey hash device objId).shard ∧
        r.key = (shardKey hash device objId).key) := by
      rintro ⟨shard, key⟩
      exact same (by cases r; simp_all)
    rw [if_neg parts, if_neg same]
    rfl

theorem count_put (store : ObjectStore Obj) (device : DeviceId) (objId : ObjectId) (o : Obj) :
    ((shardKey hash device objId).put store o).count =
      store.count + if (store.lookup hash device objId).isSome then 0 else 1 :=
  Shards.count_insert store.shards _

variable [BacnetObject Obj]

theorem insert_eq_put (store : ObjectStore Obj) (device : DeviceId) (obj : Obj) :
    store.insert hash device obj =
      (shardKey hash device (BacnetObject.objectId obj)).put store obj := rfl

theorem bulkInsert_eq_foldl (store : ObjectStore Obj) (objects : List (DeviceId × Obj)) :
    store.bulkInsert hash objects =
      objects.foldl (fun store entry => store.insert hash entry.1 entry.2) store := by
  rw [bulkInsert, Shards.bulkInsert_eq_foldl, List.foldl_map]
  induction objects generalizing store with
  | nil => rfl
  | cons entry objects ih => exact ih (store.insert hash entry.1 entry.2)

theorem lookup_bulkInsert (store : ObjectStore Obj) (objects : List (DeviceId × Obj))
    (device : DeviceId) (objId : ObjectId) :
    (store.bulkInsert hash objects).lookup hash device objId =
      ((objects.reverse.find? fun entry =>
          shardKey hash entry.1 (BacnetObject.objectId entry.2) = shardKey hash device objId).map
        (·.2)).or (store.lookup hash device objId) := by
  rw [bulkInsert_eq_foldl]
  induction objects generalizing store with
  | nil => rfl
  | cons entry objects ih =>
    rw [List.foldl_cons, ih, List.reverse_cons, List.find?_append, insert_eq_put, lookup_put]
    cases objects.reverse.find? fun entry =>
        shardKey hash entry.1 (BacnetObject.objectId entry.2) = shardKey hash device objId with
    | some found => rfl
    | none =>
      by_cases same : shardKey hash entry.1 (BacnetObject.objectId entry.2) =
          shardKey hash device objId
      · simp [same]
      · simp [same]

end ObjectStore

theorem objectKey_toNat (obj : ObjectId) :
    (objectKey obj).toNat = (obj.objectType.code * 2 ^ 22) ||| obj.instanceNumber.toNat := by
  have bound := obj.objectType.code_le
  have code : obj.objectType.code % 2 ^ 64 = obj.objectType.code := Nat.mod_eq_of_lt (by omega)
  have shifted : obj.objectType.code * 2 ^ 22 % 2 ^ 64 = obj.objectType.code * 2 ^ 22 :=
    Nat.mod_eq_of_lt (by omega)
  simp only [objectKey, UInt64.toNat_or, UInt64.toNat_shiftLeft, UInt64.toNat_ofNat',
    Nat.shiftLeft_eq, UInt32.toNat_toUInt64]
  change obj.objectType.code % 2 ^ 64 * 2 ^ 22 % 2 ^ 64 ||| obj.instanceNumber.toNat = _
  rw [code, shifted]

theorem objectKey_of_narrow {obj : ObjectId} (narrow : Is22Bit obj.instanceNumber) :
    (objectKey obj).toNat = obj.objectType.code * 2 ^ 22 + obj.instanceNumber.toNat := by
  rw [objectKey_toNat, Octets.or_eq_add _ _ 22 narrow]

theorem deviceKey_injective {d d' : DeviceId} (same : deviceKey d = deviceKey d') : d = d' := by
  have numbers := congrArg UInt64.toNat same
  simp only [deviceKey, UInt32.toNat_toUInt64] at numbers
  cases d
  cases d'
  exact congrArg DeviceId.mk (UInt32.toNat_inj.mp numbers)

theorem shardKey_eq_iff {hash : Hasher} {d d' : DeviceId} {o o' : ObjectId} :
    shardKey hash d o = shardKey hash d' o' ↔ d = d' ∧ objectKey o = objectKey o' := by
  constructor
  · intro same
    have keys := Prod.mk.inj (congrArg ObjectRef.key same)
    exact ⟨deviceKey_injective keys.1, keys.2⟩
  · rintro ⟨rfl, same⟩
    simp only [shardKey, same]

theorem objectKey_injective {o o' : ObjectId} (narrow : Is22Bit o.instanceNumber)
    (narrow' : Is22Bit o'.instanceNumber) (same : objectKey o = objectKey o') : o = o' := by
  have numbers := congrArg UInt64.toNat same
  rw [objectKey_of_narrow narrow, objectKey_of_narrow narrow'] at numbers
  unfold Is22Bit at narrow narrow'
  obtain ⟨type, instanceNumber⟩ := o
  obtain ⟨type', instanceNumber'⟩ := o'
  simp only at narrow narrow' numbers
  have types : type = type' := ObjectType.code_injective (by omega)
  have instances : instanceNumber = instanceNumber' := UInt32.toNat_inj.mp (by omega)
  rw [types, instances]

theorem shardKey_injective {hash : Hasher} {d d' : DeviceId} {o o' : ObjectId}
    (narrow : Is22Bit o.instanceNumber) (narrow' : Is22Bit o'.instanceNumber)
    (same : shardKey hash d o = shardKey hash d' o') : d = d' ∧ o = o' := by
  obtain ⟨devices, keys⟩ := shardKey_eq_iff.mp same
  exact ⟨devices, objectKey_injective narrow narrow' keys⟩

end BacnetSim
