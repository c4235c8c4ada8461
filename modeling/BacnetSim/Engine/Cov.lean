import BacnetSim.Lib.HashMap
import BacnetSim.Lib.RealArith
import BacnetSim.Object.Property

/-! The COV subscription manager (`cov_engine.rs`). A call that puts notifications into the
channel returns them; clock readings are arguments. -/
namespace BacnetSim
open Rust Ieee754

structure CovSubKey where
  subscriber : NetworkAddress
  processId : UInt32
  objectId : ObjectId
  deviceId : DeviceId
  deriving DecidableEq, Repr

structure CovSubscription where
  confirmed : Bool
  lifetimeSecs : Option UInt32
  subscribedAt : Instant
  covIncrement : Option F32
  monitoredProp : Option PropertyIdentifier
  lastNotifiedAt : Instant
  lastValue : PropertyValue
  deriving Repr

structure CovNotification where
  subscriber : NetworkAddress
  processId : UInt32
  deviceId : DeviceId
  objectId : ObjectId
  changedProperties : PropertyList
  confirmed : Bool
  deriving Repr

structure CovEngine where
  subscriptions : HashMap CovSubKey CovSubscription

structure CovCheck where
  notified : Bool
  sent : List CovNotification

namespace CovSubscription

def increment (sub : CovSubscription) : F32 := sub.covIncrement.getD ⟨0⟩

def watches (sub : CovSubscription) (propertyId : PropertyIdentifier) : Bool :=
  match sub.monitoredProp with
  | some mp => mp == propertyId
  | none => true

def shouldNotify (arith : RealArith) (sub : CovSubscription) (newValue : PropertyValue) : Bool :=
  match newValue, sub.lastValue with
  | .real new, .real old => arith.reaches old new sub.increment
  | newValue, lastValue => !newValue.eq lastValue

def isAlive (now : Instant) (sub : CovSubscription) : Bool :=
  match sub.lifetimeSecs with
  | some lifetime => (now.durationSince sub.subscribedAt).asSecs < lifetime.toNat
  | none => true

end CovSubscription

/-- A call of `check_and_notify`: its arguments, with its clock reading. -/
structure CovChange where
  now : Instant
  deviceId : DeviceId
  objectId : ObjectId
  propertyId : PropertyIdentifier
  newValue : PropertyValue

namespace CovChange

def notification (c : CovChange) (key : CovSubKey) (sub : CovSubscription) : CovNotification where
  subscriber := key.subscriber
  processId := key.processId
  deviceId := c.deviceId
  objectId := c.objectId
  changedProperties := [(c.propertyId, c.newValue)]
  confirmed := sub.confirmed

def noted (c : CovChange) (sub : CovSubscription) : CovSubscription :=
  { sub with lastValue := c.newValue, lastNotifiedAt := c.now }

/-- The body of the loop over the subscriptions. -/
def visit (arith : RealArith) (c : CovChange) (check : CovCheck) (key : CovSubKey)
    (sub : CovSubscription) : CovCheck × CovSubscription :=
  if key.deviceId ≠ c.deviceId ∨ key.objectId ≠ c.objectId then (check, sub)
  else if sub.watches c.propertyId then
    if sub.shouldNotify arith c.newValue then
      ({ notified := true, sent := check.sent ++ [c.notification key sub] }, c.noted sub)
    else (check, sub)
  else (check, sub)

end CovChange

namespace CovEngine

def new : CovEngine := ⟨∅⟩

def subscribe (e : CovEngine) (key : CovSubKey) (sub : CovSubscription) : CovEngine :=
  ⟨AList.insert key sub e.subscriptions⟩

def unsubscribe (e : CovEngine) (key : CovSubKey) : CovEngine :=
  ⟨AList.erase key e.subscriptions⟩

def checkAndNotify (arith : RealArith) (e : CovEngine) (c : CovChange) : CovCheck × CovEngine :=
  let (check, subscriptions) := e.subscriptions.iterMut (c.visit arith) ⟨false, []⟩
  (check, ⟨subscriptions⟩)

def expireOld (e : CovEngine) (now : Instant) : CovEngine :=
  ⟨e.subscriptions.retain fun _ sub => sub.isAlive now⟩

def lookup (e : CovEngine) (key : CovSubKey) : Option CovSubscription :=
  AList.lookup key e.subscriptions

end CovEngine

def CovNotification.key (n : CovNotification) : CovSubKey :=
  ⟨n.subscriber, n.processId, n.objectId, n.deviceId⟩

namespace CovChange
variable (arith : RealArith) (c : CovChange) {key : CovSubKey} {sub : CovSubscription}

structure Concerns (key : CovSubKey) (sub : CovSubscription) : Prop where
  device : key.deviceId = c.deviceId
  object : key.objectId = c.objectId
  property : sub.watches c.propertyId = true

instance : Decidable (c.Concerns key sub) :=
  decidable_of_iff (key.deviceId = c.deviceId ∧ key.objectId = c.objectId ∧
      sub.watches c.propertyId = true)
    ⟨fun ⟨device, object, property⟩ => ⟨device, object, property⟩,
      fun ⟨device, object, property⟩ => ⟨device, object, property⟩⟩

def Hits (key : CovSubKey) (sub : CovSubscription) : Prop :=
  c.Concerns key sub ∧ sub.shouldNotify arith c.newValue = true

instance : Decidable (c.Hits arith key sub) := inferInstanceAs (Decidable (_ ∧ _))

def leaves (key : CovSubKey) (sub : CovSubscription) : CovSubscription :=
  if c.Hits arith key sub then c.noted sub else sub

theorem visit_of_hits (check : CovCheck) (hits : c.Hits arith key sub) :
    c.visit arith check key sub =
      (⟨true, check.sent ++ [c.notification key sub]⟩, c.leaves arith key sub) := by
  have same : ¬ (key.deviceId ≠ c.deviceId ∨ key.objectId ≠ c.objectId) := by
    simp [hits.1.device, hits.1.object]
  simp only [visit, leaves, if_neg same, if_pos hits.1.property, if_pos hits.2, if_pos hits]

theorem visit_of_misses (check : CovCheck) (misses : ¬ c.Hits arith key sub) :
    c.visit arith check key sub = (check, c.leaves arith key sub) := by
  simp only [visit, leaves, if_neg misses]
  split
  · rfl
  · rename_i same
    rw [not_or, not_not, not_not] at same
    split
    · rename_i property
      exact if_neg fun due => misses ⟨⟨same.1, same.2, property⟩, due⟩
    · rfl

theorem key_notification (concerns : c.Concerns key sub) : (c.notification key sub).key = key := by
  simp only [notification, CovNotification.key, ← concerns.device, ← concerns.object]

end CovChange

namespace CovEngine
variable (arith : RealArith) (e : CovEngine) (c : CovChange)

theorem lookup_check (key : CovSubKey) :
    (e.checkAndNotify arith c).2.lookup key = (e.lookup key).map (c.leaves arith key) := by
  apply HashMap.lookup_iterMut
  intro check key sub
  by_cases hits : c.Hits arith key sub
  · rw [c.visit_of_hits arith check hits]
  · rw [c.visit_of_misses arith check hits]

def hit : List (Σ _ : CovSubKey, CovSubscription) :=
  e.subscriptions.entries.filter fun entry => c.Hits arith entry.1 entry.2

theorem check_eq : (e.checkAndNotify arith c).1 =
    ⟨!(e.hit arith c).isEmpty,
      (e.hit arith c).map fun entry => c.notification entry.1 entry.2⟩ := by
  suffices general : ∀ (entries : List (Σ _ : CovSubKey, CovSubscription)) (check : CovCheck),
      (HashMap.visitEntries (c.visit arith) check entries).1 =
        ⟨check.notified || !(entries.filter fun entry => c.Hits arith entry.1 entry.2).isEmpty,
          check.sent ++ (entries.filter fun entry => c.Hits arith entry.1 entry.2).map
            fun entry => c.notification entry.1 entry.2⟩ from
    general e.subscriptions.entries ⟨false, []⟩
  intro entries
  induction entries with
  | nil => simp [HashMap.visitEntries]
  | cons entry entries ih =>
    intro check
    rw [HashMap.visitEntries]
    by_cases hits : c.Hits arith entry.1 entry.2
    · rw [c.visit_of_hits arith check hits, ih]
      simp [hits]
    · rw [c.visit_of_misses arith check hits, ih]
      simp [hits]

theorem mem_hit {key : CovSubKey} {sub : CovSubscription} :
    ⟨key, sub⟩ ∈ e.hit arith c ↔ e.lookup key = some sub ∧ c.Hits arith key sub := by
  rw [hit, List.mem_filter, decide_eq_true_iff, lookup, ← Option.mem_def, AList.mem_lookup_iff]

theorem mem_sent {n : CovNotification} : n ∈ (e.checkAndNotify arith c).1.sent ↔
    ∃ key sub, e.lookup key = some sub ∧ c.Hits arith key sub ∧ n = c.notification key sub := by
  rw [check_eq, List.mem_map]
  constructor
  · rintro ⟨⟨key, sub⟩, mem, rfl⟩
    obtain ⟨held, hits⟩ := (e.mem_hit arith c).mp mem
    exact ⟨key, sub, held, hits, rfl⟩
  · rintro ⟨key, sub, held, hits, rfl⟩
    exact ⟨⟨key, sub⟩, (e.mem_hit arith c).mpr ⟨held, hits⟩, rfl⟩

theorem keys_sent : (e.checkAndNotify arith c).1.sent.map CovNotification.key =
    (e.hit arith c).keys := by
  rw [check_eq, List.map_map]
  apply List.map_congr_left
  intro entry mem
  exact c.key_notification ((e.mem_hit arith c).mp mem).2.1

theorem mem_keys_sent {key : CovSubKey} :
    key ∈ (e.checkAndNotify arith c).1.sent.map CovNotification.key ↔
      ∃ sub, e.lookup key = some sub ∧ c.Hits arith key sub := by
  rw [keys_sent, List.mem_keys]
  exact exists_congr fun sub => e.mem_hit arith c

theorem keys_sent_nodup : ((e.checkAndNotify arith c).1.sent.map CovNotification.key).Nodup := by
  rw [keys_sent]
  exact e.subscriptions.nodupKeys.sublist List.filter_sublist

theorem notified_iff : (e.checkAndNotify arith c).1.notified = true ↔
    (e.checkAndNotify arith c).1.sent ≠ [] := by
  rw [check_eq]
  simp

theorem sent_ne_nil_iff : (e.checkAndNotify arith c).1.sent ≠ [] ↔
    ∃ key sub, e.lookup key = some sub ∧ c.Hits arith key sub := by
  constructor
  · intro sent
    obtain ⟨n, mem⟩ := List.exists_mem_of_ne_nil _ sent
    obtain ⟨key, sub, held, hits, _⟩ := (e.mem_sent arith c).mp mem
    exact ⟨key, sub, held, hits⟩
  · rintro ⟨key, sub, held, hits⟩
    exact List.ne_nil_of_mem ((e.mem_sent arith c).mpr ⟨key, sub, held, hits, rfl⟩)

theorem lookup_check_other {key : CovSubKey}
    (other : (key.deviceId, key.objectId) ≠ (c.deviceId, c.objectId)) :
    (e.checkAndNotify arith c).2.lookup key = e.lookup key := by
  rw [lookup_check]
  cases e.lookup key with
  | none => rfl
  | some sub =>
    have misses : ¬ c.Hits arith key sub := fun hits =>
      other (Prod.ext hits.1.device hits.1.object)
    rw [Option.map_some, CovChange.leaves, if_neg misses]

theorem lookup_subscribe (key key' : CovSubKey) (sub : CovSubscription) :
    (e.subscribe key sub).lookup key' = if key = key' then some sub else e.lookup key' := by
  by_cases same : key = key'
  · subst same
    rw [if_pos rfl]
    exact AList.lookup_insert e.subscriptions
  · rw [if_neg same]
    exact AList.lookup_insert_ne (Ne.symm same)

theorem lookup_unsubscribe (key key' : CovSubKey) :
    (e.unsubscribe key).lookup key' = if key = key' then none else e.lookup key' := by
  by_cases same : key = key'
  · subst same
    rw [if_pos rfl]
    exact AList.lookup_erase key e.subscriptions
  · rw [if_neg same]
    exact AList.lookup_erase_ne (Ne.symm same)

theorem lookup_expireOld (now : Instant) (key : CovSubKey) :
    (e.expireOld now).lookup key = (e.lookup key).filter (·.isAlive now) :=
  HashMap.lookup_retain _ _ _

end CovEngine

end BacnetSim
