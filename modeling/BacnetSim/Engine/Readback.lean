import BacnetSim.Engine.Tracking

/-! What a client reads of an object that a notification was about. The loop ignores whether
the forced write did anything, so this depends on the object. -/
namespace BacnetSim
open Rust Ieee754

/-- What happens to the engine: the ticks of its loop, and clients' calls between them. -/
inductive SimCall where
  | tick (clock : TickClock)
  | writeProperty (device : DeviceId) (objId : ObjectId) (now : Now)
    (propertyId : PropertyIdentifier) (arrayIndex : Option UInt32) (value : PropertyValue)
    (priority : Option UInt8)
  | subscribe (key : CovSubKey) (sub : CovSubscription)
  | unsubscribe (key : CovSubKey)

namespace TickLoop
variable {M R : Type} [ValueModel M R] (hash : Hasher) (arith : RealArith)

def withStore (s : TickLoop Object M R) (store : ObjectStore Object) : TickLoop Object M R :=
  { s with engine := { s.engine with store } }

def withCov (s : TickLoop Object M R) (covEngine : CovEngine) : TickLoop Object M R :=
  { s with engine := { s.engine with covEngine } }

def step (s : TickLoop Object M R) : SimCall → List Report × TickLoop Object M R
  | .tick clock => s.tick arith clock
  | .writeProperty device objId now propertyId arrayIndex value priority =>
    match s.engine.store.get hash device objId with
    | some ref =>
      match ref.writeProperty now s.engine.store propertyId arrayIndex value priority with
      | .ok (_, store) => ([], s.withStore store)
      | .error _ => ([], s)
    | none => ([], s)
  | .subscribe key sub => ([], s.withCov (s.engine.covEngine.subscribe key sub))
  | .unsubscribe key => ([], s.withCov (s.engine.covEngine.unsubscribe key))

def AtEachTick (P : TickLoop Object M R → TickClock → Prop) (start : TickLoop Object M R)
    (calls : List SimCall) : Prop :=
  ∀ before clock after, calls = before ++ .tick clock :: after →
    P (runSpec (step hash arith) start before).2 clock

theorem atEachTick_congr {P Q : TickLoop Object M R → TickClock → Prop} {start : TickLoop Object M R}
    {calls : List SimCall}
    (same : ∀ before clock, P (runSpec (step hash arith) start before).2 clock ↔
      Q (runSpec (step hash arith) start before).2 clock) :
    AtEachTick hash arith P start calls ↔ AtEachTick hash arith Q start calls := by
  constructor
  · intro holds before clock after part
    exact (same before clock).mp (holds before clock after part)
  · intro holds before clock after part
    exact (same before clock).mpr (holds before clock after part)

def ReadsBack (s : TickLoop Object M R) (ref : ObjectRef) (n : CovNotification) : Prop :=
  ∃ obj v, s.engine.store.shards.lookup ref.shard ref.key = some obj ∧
    (n.deviceId, n.objectId) = ids obj ∧ n.changedProperties = [(.presentValue, .real v)] ∧
    ∀ now, BacnetObject.readProperty now obj .presentValue none = .ok (.real v)

def NotifiesWhatIsRead (s : TickLoop Object M R) (clock : TickClock) : Prop :=
  ∀ r ∈ (s.tick arith clock).1, ∀ n ∈ r.check.sent,
    ReadsBack (s.tick arith clock).2 r.changed.ref n

def NotifiesFollowers (s : TickLoop Object M R) (clock : TickClock) : Prop :=
  ∀ r ∈ (s.tick arith clock).1, r.check.sent ≠ [] →
    ∃ obj, s.engine.store.shards.lookup r.changed.ref.shard r.changed.ref.key = some obj ∧
      obj.Follows clock.system r.changed.value

/-- The same by the state before the tick: each object that its model would report to a
subscriber is one that follows a forced value. -/
def DueFollow (s : TickLoop Object M R) (clock : TickClock) : Prop :=
  ∀ c obj, Reported arith clock s c obj →
    (∃ key sub, s.engine.covEngine.lookup key = some sub ∧ (change clock c).Hits arith key sub) →
    obj.Follows clock.system c.value

theorem readsBack_iff {s : TickLoop Object M R} {clock : TickClock} {r : Report}
    (mem : r ∈ (s.tick arith clock).1) {n : CovNotification} (sent : n ∈ r.check.sent) :
    ReadsBack (s.tick arith clock).2 r.changed.ref n ↔
      ∃ obj, s.engine.store.shards.lookup r.changed.ref.shard r.changed.ref.key = some obj ∧
        obj.Follows clock.system r.changed.value := by
  obtain ⟨changed, cov, checked⟩ := tick_report arith clock mem
  obtain ⟨obj, stored, named, left⟩ := changed_driven arith clock Object.keepsIds changed
  rw [checked] at sent
  obtain ⟨key, sub, _, _, rfl⟩ := (cov.mem_sent arith _).mp sent
  have kept := driven_ids Object.keepsIds s.period clock r.changed.ref obj r.changed.value
  constructor
  · rintro ⟨obj', v, found, _, carried, read⟩
    have same : obj' = driven s.period clock r.changed.ref obj r.changed.value :=
      Option.some.inj (found.symm.trans left)
    have value : r.changed.value = v := by simpa [CovChange.notification, change] using carried
    subst same value
    exact ⟨obj, stored, (Object.read_driven_iff s.period clock _ _ obj).mp read⟩
  · rintro ⟨obj', found, follows⟩
    cases stored.symm.trans found
    exact ⟨_, _, left, named.trans kept.symm, rfl,
      (Object.read_driven_iff s.period clock _ _ obj).mpr follows⟩

theorem notifiesWhatIsRead_iff (s : TickLoop Object M R) (clock : TickClock) :
    NotifiesWhatIsRead arith s clock ↔ NotifiesFollowers arith s clock := by
  constructor
  · intro reads r mem sent
    obtain ⟨n, one⟩ := List.exists_mem_of_ne_nil _ sent
    exact (readsBack_iff arith mem one).mp (reads r mem n one)
  · intro follow r mem n one
    exact (readsBack_iff arith mem one).mpr (follow r mem (List.ne_nil_of_mem one))

theorem notifiesFollowers_iff {s : TickLoop Object M R} (filed : s.engine.store.Filed hash)
    (clock : TickClock) : NotifiesFollowers arith s clock ↔ DueFollow arith s clock := by
  constructor
  · intro follow c obj reported heard
    obtain ⟨check, one, notified⟩ := reported.report arith clock Object.keepsIds filed
    have inside : (⟨c, check⟩ : Report) ∈ (s.tick arith clock).1 :=
      List.mem_of_mem_filter (one ▸ List.mem_singleton_self _)
    obtain ⟨obj', found, follows⟩ := follow _ inside (notified.mpr heard)
    cases reported.stored.symm.trans found
    exact follows
  · intro follow r inside sent
    obtain ⟨obj, reported⟩ := (mem_changed_iff arith clock Object.keepsIds filed).mp
      (tick_report arith clock inside).1
    obtain ⟨check, one, notified⟩ := reported.report arith clock Object.keepsIds filed
    have same : r ∈ (s.tick arith clock).1.filter
        (fun r' => r'.changed.isFor (r.changed.deviceId, r.changed.objectId)) :=
      List.mem_filter.mpr ⟨inside, decide_eq_true rfl⟩
    rw [one, List.mem_singleton] at same
    rw [same] at sent
    exact ⟨obj, reported.stored, follow r.changed obj reported (notified.mp sent)⟩

/-- A client's write is put back where its object is, and is lost when there is none. -/
theorem step_write (s : TickLoop Object M R) (device : DeviceId) (objId : ObjectId) (now : Now)
    (p : PropertyIdentifier) (i : Option UInt32) (v : PropertyValue) (pri : Option UInt8) :
    let ref := shardKey hash device objId
    let left := (s.step hash arith (.writeProperty device objId now p i v pri)).2
    (s.stored ref = none ∧ left = s) ∨ ∃ o, s.stored ref = some o ∧
      left = s.withStore (ref.put s.engine.store (BacnetObject.writeProperty now o p i v pri).2) := by
  intro ref left
  have got : s.engine.store.get hash device objId = if (s.stored ref).isSome then some ref else none := rfl
  have same : left = (s.step hash arith (.writeProperty device objId now p i v pri)).2 := rfl
  rw [step, got] at same
  cases found : s.stored ref with
  | none =>
    rw [found] at same
    exact .inl ⟨rfl, same⟩
  | some o =>
    have behind : ref.object s.engine.store = .ok o := by
      unfold ObjectRef.object
      rw [show s.engine.store.shards.lookup ref.shard ref.key = some o from found]
    simp only [found, Option.isSome_some, if_true, ObjectRef.writeProperty, behind, ok_bind] at same
    exact .inr ⟨o, rfl, same⟩

theorem step_filed {s : TickLoop Object M R} (filed : s.engine.store.Filed hash) (call : SimCall) :
    (s.step hash arith call).2.engine.store.Filed hash := by
  cases call with
  | tick clock =>
    rw [step, tick_store]
    exact sweep_filed arith clock Object.keepsIds filed
  | writeProperty device objId now p i v pri =>
    rcases s.step_write hash arith device objId now p i v pri with ⟨_, left⟩ | ⟨o, found, left⟩
    · rw [left]
      exact filed
    · rw [left]
      exact filed.put found (Object.keepsIds.writes now o p i v pri)
  | subscribe key sub => exact filed
  | unsubscribe key => exact filed

theorem run_filed {start : TickLoop Object M R} (filed : start.engine.store.Filed hash)
    (calls : List SimCall) :
    (runSpec (step hash arith) start calls).2.engine.store.Filed hash := by
  refine runSpec_invariant (I := fun (s : TickLoop Object M R) _ => s.engine.store.Filed hash)
    filed ?_ calls
  intro s before call held
  exact step_filed hash arith held call

/-- Over every run, the notifications of the ticks say what a client reads exactly when each
object they are about follows forced values. In a store that has its objects under their own
names, the state before each tick tells which ones these are. -/
theorem notifications_read_iff (start : TickLoop Object M R) (calls : List SimCall) :
    (AtEachTick hash arith (NotifiesWhatIsRead arith) start calls ↔
        AtEachTick hash arith (NotifiesFollowers arith) start calls) ∧
      (start.engine.store.Filed hash →
        (AtEachTick hash arith (NotifiesWhatIsRead arith) start calls ↔
          AtEachTick hash arith (DueFollow arith) start calls)) := by
  constructor
  · exact atEachTick_congr hash arith fun _ clock => notifiesWhatIsRead_iff arith _ clock
  · intro filed
    refine atEachTick_congr hash arith fun before clock => ?_
    have kept := run_filed hash arith filed before
    exact (notifiesWhatIsRead_iff arith _ clock).trans (notifiesFollowers_iff hash arith kept clock)

end TickLoop

def valve : AnalogOutput :=
  ((AnalogOutput.new midnight ⟨1⟩ 1 "Valve" .percent).writeProperty midnight .presentValue
    (.real ⟨0x3F800000⟩) (some 8)).2

def valveKey : CovSubKey := ⟨⟨0, .msTp 3⟩, 1, ⟨.analogOutput, 1⟩, ⟨1⟩⟩

def valveEntry : ModelEntry ConstantModel Unit := ⟨⟨⟨0x40A00000⟩⟩, (), ⟨0⟩, ⟨0⟩⟩

def valveSubscription : CovSubscription := ⟨false, none, ⟨0⟩, none, none, ⟨0⟩, .real ⟨0⟩⟩

def valvePlant : TickLoop Object ConstantModel Unit where
  engine :=
    { (SimEngine.new (ObjectStore.new.insert (fun _ _ => 0) ⟨1⟩ (.analogOutput valve))).addModel
        .ieee ⟨1⟩ ⟨.analogOutput, 1⟩ ⟨⟨0x40A00000⟩⟩ ⟨0⟩ 0 with
      covEngine := CovEngine.new.subscribe valveKey valveSubscription }
  period := .fromSecs 1
  lastExpire := ⟨0⟩

def valveChange : Changed where
  ref := shardKey (fun _ _ => 0) ⟨1⟩ ⟨.analogOutput, 1⟩
  deviceId := ⟨1⟩
  objectId := ⟨.analogOutput, 1⟩
  value := ⟨0x40A00000⟩

theorem valve_filed : valvePlant.engine.store.Filed fun _ _ => 0 :=
  ObjectStore.filed_new.insert (Object.analogOutput valve)

theorem valve_decided :
    TickLoop.AtEachTick (fun _ _ => 0) .ieee (TickLoop.NotifiesWhatIsRead .ieee) valvePlant
        [.tick firstTick] ↔
      TickLoop.AtEachTick (fun _ _ => 0) .ieee (TickLoop.DueFollow .ieee) valvePlant
        [.tick firstTick] :=
  (TickLoop.notifications_read_iff (fun _ _ => 0) .ieee valvePlant [.tick firstTick]).2 valve_filed

/-- While a client reads 1, the subscriber is told 5. -/
theorem commanded_valve_misreported :
    ¬ ∀ (hash : Hasher) (start : TickLoop Object ConstantModel Unit) (calls : List SimCall),
      TickLoop.AtEachTick hash .ieee (TickLoop.NotifiesWhatIsRead .ieee) start calls := by
  intro claim
  have reads := claim (fun _ _ => 0) valvePlant [.tick firstTick] [] firstTick [] rfl
  have follow := (TickLoop.notifiesFollowers_iff _ .ieee valve_filed firstTick).mp
    ((TickLoop.notifiesWhatIsRead_iff .ieee valvePlant firstTick).mp reads)
  have reported : TickLoop.Reported RealArith.ieee firstTick valvePlant valveChange
      (.analogOutput valve) := by
    refine ⟨?_, rfl, valveEntry, AList.lookup_insert _, by decide, rfl⟩
    exact (ObjectStore.lookup_put _ _ _ _ ⟨1⟩ ⟨.analogOutput, 1⟩).trans (if_pos rfl)
  have held := CovEngine.new.lookup_subscribe valveKey valveKey valveSubscription
  have hits : (TickLoop.change firstTick valveChange).Hits .ieee valveKey valveSubscription :=
    ⟨⟨rfl, rfl, rfl⟩, by decide⟩
  have follows := follow _ _ reported ⟨valveKey, _, held.trans (if_pos rfl), hits⟩
  exact absurd (follows ⟨0x3F800000⟩ (by decide)) (by decide)

end BacnetSim
