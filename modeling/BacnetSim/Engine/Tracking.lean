import BacnetSim.Engine.Driven
import BacnetSim.Engine.Ticks
import BacnetSim.Lib.ChangeFilter

/-! How closely a subscriber follows an analog input that a value model drives. A change goes
through the filter of the model's entry and then through that of the subscription. -/
namespace BacnetSim
open Rust Ieee754 ChangeFilter

def CovNotification.presentValue? (n : CovNotification) : Option F32 :=
  match n.changedProperties with
  | [(.presentValue, .real v)] => some v
  | _ => none

def lastNotified (key : CovSubKey) (initial : F32) (sent : List CovNotification) : F32 :=
  sent.foldl (fun last n => if n.key = key then n.presentValue?.getD last else last) initial

theorem lastNotified_append (key : CovSubKey) (initial : F32) (sent sent' : List CovNotification) :
    lastNotified key initial (sent ++ sent') =
      lastNotified key (lastNotified key initial sent) sent' := List.foldl_append

theorem lastNotified_same {key : CovSubKey} {last v : F32} {sent : List CovNotification}
    (carry : ∀ n ∈ sent, n.presentValue? = some v) :
    lastNotified key last sent = if key ∈ sent.map CovNotification.key then v else last := by
  induction sent generalizing last with
  | nil => rfl
  | cons n sent ih =>
    rw [lastNotified, List.foldl_cons, ← lastNotified,
      ih fun n mem => carry n (List.mem_cons_of_mem _ mem), carry n List.mem_cons_self]
    by_cases own : n.key = key
    · simp [own]
    · simp [own, Ne.symm own]

structure Listens (key : CovSubKey) (increment last : F32) (cov : CovEngine) : Prop where
  held : ∃ sub, cov.lookup key = some sub ∧ sub.lifetimeSecs = none ∧
    sub.watches .presentValue = true ∧ sub.increment = increment ∧ sub.lastValue = .real last

namespace Listens
variable (arith : RealArith) (clock : TickClock) {key : CovSubKey} {increment last : F32}
  {cov : CovEngine}

theorem expireOld (listens : Listens key increment last cov) (now : Instant) :
    Listens key increment last (cov.expireOld now) := by
  obtain ⟨sub, held, perpetual, rest⟩ := listens.held
  refine ⟨sub, ?_, perpetual, rest⟩
  rw [CovEngine.lookup_expireOld, held, Option.filter_some, CovSubscription.isAlive, perpetual]
  rfl

def heard (arith : RealArith) (increment last : F32) (c : Changed) : F32 :=
  if arith.reaches last c.value increment then c.value else last

theorem hits_change_iff {sub : CovSubscription} {c : Changed}
    (watches : sub.watches .presentValue = true) (value : sub.lastValue = .real last) :
    (TickLoop.change clock c).Hits arith key sub ↔
      c.isFor (key.deviceId, key.objectId) = true ∧
        arith.reaches last c.value sub.increment = true := by
  have due : sub.shouldNotify arith (TickLoop.change clock c).newValue =
      arith.reaches last c.value sub.increment := by
    simp only [CovSubscription.shouldNotify, TickLoop.change, value]
  rw [CovChange.Hits, due]
  refine and_congr_left fun _ => ⟨fun concerns => ?_, fun same => ?_⟩
  · exact decide_eq_true (Prod.ext concerns.device.symm concerns.object.symm)
  · obtain ⟨device, object⟩ := Prod.mk.inj (of_decide_eq_true same)
    exact ⟨device.symm, object.symm, watches⟩

theorem notify (listens : Listens key increment last cov) (c : Changed) :
    lastNotified key last (TickLoop.notify arith clock cov c).1.check.sent =
        (if c.isFor (key.deviceId, key.objectId) then heard arith increment last c else last) ∧
      Listens key increment (lastNotified key last (TickLoop.notify arith clock cov c).1.check.sent)
        (TickLoop.notify arith clock cov c).2 := by
  obtain ⟨sub, held, perpetual, watches, rfl, value⟩ := listens.held
  have carry : ∀ n ∈ (TickLoop.notify arith clock cov c).1.check.sent,
      n.presentValue? = some c.value := by
    intro n mem
    obtain ⟨_, _, _, _, rfl⟩ := (cov.mem_sent arith _).mp mem
    rfl
  have sent : key ∈ (TickLoop.notify arith clock cov c).1.check.sent.map CovNotification.key ↔
      (TickLoop.change clock c).Hits arith key sub := by
    refine (cov.mem_keys_sent arith _).trans ?_
    simp [held]
  have left : (TickLoop.notify arith clock cov c).2.lookup key =
      some ((TickLoop.change clock c).leaves arith key sub) := by
    refine (cov.lookup_check arith _ key).trans ?_
    rw [held, Option.map_some]
  rw [lastNotified_same carry]
  by_cases hits : (TickLoop.change clock c).Hits arith key sub
  · obtain ⟨own, far⟩ := (hits_change_iff arith clock watches value).mp hits
    rw [if_pos (sent.mpr hits), if_pos own, heard, if_pos far]
    refine ⟨rfl, _, left, ?_⟩
    rw [CovChange.leaves, if_pos hits]
    exact ⟨perpetual, watches, rfl, rfl⟩
  · rw [if_neg (mt sent.mp hits)]
    refine ⟨?_, _, left, ?_⟩
    · split
      · rename_i own
        exact (if_neg fun far => hits ((hits_change_iff arith clock watches value).mpr ⟨own, far⟩)).symm
      · rfl
    · rw [CovChange.leaves, if_neg hits]
      exact ⟨perpetual, watches, rfl, value⟩

theorem checks (listens : Listens key increment last cov) (changed : List Changed) :
    let checked := runSpec (TickLoop.notify arith clock) cov changed
    lastNotified key last (checked.1.flatMap fun r => r.check.sent) =
        (changed.filter (Changed.isFor (key.deviceId, key.objectId))).foldl (heard arith increment) last ∧
      Listens key increment (lastNotified key last (checked.1.flatMap fun r => r.check.sent))
        checked.2 := by
  induction changed generalizing last cov with
  | nil => exact ⟨rfl, listens⟩
  | cons c changed ih =>
    obtain ⟨first, listens⟩ := listens.notify arith clock c
    obtain ⟨rest, listens⟩ := ih listens
    simp only [runSpec, List.flatMap_cons, lastNotified_append]
    refine ⟨?_, listens⟩
    rw [rest, first, List.filter_cons]
    split <;> rfl

end Listens

section Loop
variable {M R : Type} [ValueModel M R]

/-- An analog input with its model's entry and its subscriber, in an engine whose store has every
object under its own ids. -/
structure Followed (hash : Hasher) (key : CovSubKey) (increment : F32) (s : TickLoop Object M R)
    (a : AnalogInput) (entry : ModelEntry M R) (last : F32) : Prop where
  filed : s.engine.store.Filed hash
  stored : s.engine.store.lookup hash a.deviceId a.objectId = some (.analogInput a)
  modelled : AList.lookup (SimEngine.objKey a.deviceId a.objectId) s.engine.models = some entry
  named : key.deviceId = a.deviceId ∧ key.objectId = a.objectId
  listens : Listens key increment last s.engine.covEngine

def sentIn (ticks : List (List Report)) : List CovNotification :=
  ticks.flatten.flatMap fun r => r.check.sent

namespace Followed
variable {hash : Hasher} {key : CovSubKey} {increment last : F32} {s : TickLoop Object M R}
  {a : AnalogInput} {entry : ModelEntry M R}

omit [ValueModel M R] in
theorem stored_at {a' : AnalogInput} (followed : Followed hash key increment s a' entry last)
    (names : ids a' = ids a) :
    s.engine.store.lookup hash a.deviceId a.objectId = some (.analogInput a') := by
  have device : a'.deviceId = a.deviceId := (Prod.mk.inj names).1
  have object : a'.objectId = a.objectId := (Prod.mk.inj names).2
  rw [← device, ← object]
  exact followed.stored

def told (arith : RealArith) (increment last : F32) (entry : ModelEntry M R) (clock : TickClock) :
    F32 :=
  if entry.reports arith clock then
    if arith.reaches last (entry.nextValue clock) increment then entry.nextValue clock else last
  else last

theorem tick (arith : RealArith) (followed : Followed hash key increment s a entry last)
    (clock : TickClock) :
    ∃ a', ids a' = ids a ∧ a'.presentValue = entry.nextValue clock ∧
      lastNotified key last ((s.tick arith clock).1.flatMap fun r => r.check.sent) =
        told arith increment last entry clock ∧
      Followed hash key increment (s.tick arith clock).2 a' (entry.next arith clock)
        (told arith increment last entry clock) := by
  have swept : TickLoop.Swept arith clock hash s (.analogInput a) entry :=
    TickLoop.swept arith clock Object.keepsIds followed.filed followed.stored followed.modelled
  obtain ⟨heard, listens⟩ := followed.listens.checks arith clock (s.sweep arith clock).1.changed
  have names : (key.deviceId, key.objectId) = ids (Object.analogInput a) :=
    Prod.ext followed.named.1 followed.named.2
  have told : lastNotified key last ((s.tick arith clock).1.flatMap fun r => r.check.sent) =
      told arith increment last entry clock := by
    rw [TickLoop.tick_reports, TickLoop.checks, heard, names, swept.changed, TickLoop.changes, Followed.told]
    split <;> rfl
  have stored := swept.stored
  rw [Object.analogInput_driven] at stored
  refine ⟨{ a with
    presentValue := entry.nextValue clock
    lastChanged := (clock.update (ObjectStore.place hash (ids (Object.analogInput a)))).instant },
    rfl, rfl, told, ?_⟩
  refine ⟨?_, ?_, ?_, followed.named, ?_⟩
  · rw [TickLoop.tick_store]
    exact TickLoop.sweep_filed arith clock Object.keepsIds followed.filed
  · rw [TickLoop.tick_store]
    exact stored
  · rw [TickLoop.tick_models]
    exact swept.modelled
  · rw [TickLoop.tick_reports] at told
    rw [TickLoop.checks] at told
    rw [told] at listens
    rcases TickLoop.tick_cov arith s clock with kept | expired
    · rw [kept]
      exact listens
    · rw [expired]
      exact listens.expireOld clock.expire

theorem tick_once (arith : RealArith) (followed : Followed hash key increment s a entry last)
    (clock : TickClock) :
    ∃ a' : AnalogInput, (runSpec (TickLoop.tick arith) s [clock]).2.engine.store.lookup hash
        a.deviceId a.objectId = some (.analogInput a') ∧
      a'.presentValue = entry.nextValue clock ∧
      lastNotified key last (sentIn (runSpec (TickLoop.tick arith) s [clock]).1) =
        told arith increment last entry clock := by
  obtain ⟨a', names, value, heard, followed⟩ := followed.tick arith clock
  refine ⟨a', followed.stored_at names, value, ?_⟩
  rw [← heard]
  simp [sentIn, runSpec]

section Exact
variable {K : Type} [AddCommGroup K] [LinearOrder K] (x : ExactReals K)

def cascade (a : AnalogInput) (entry : ModelEntry M R) (last : F32) : Cascade K :=
  ⟨x.num a.presentValue, x.num entry.lastValue, x.num last⟩

theorem cascade_tick {a' : AnalogInput} {clock : TickClock}
    (value : a'.presentValue = entry.nextValue clock) :
    cascade x a' (entry.next x.arith clock) (told x.arith increment last entry clock) =
      (cascade x a entry last).step (x.num entry.covIncrement) (x.num increment)
        (x.num (entry.nextValue clock)) := by
  unfold cascade Cascade.step told ChangeFilter.pass ModelEntry.next
  rw [value]
  by_cases far : entry.reports x.arith clock = true
  · rw [if_pos far, if_pos far, if_pos (x.reaches_iff.mp far)]
    congr 1
    by_cases due : x.arith.reaches last (entry.nextValue clock) increment = true
    · rw [if_pos due, if_pos (x.reaches_iff.mp due)]
    · rw [if_neg due, if_neg (mt x.reaches_iff.mpr due)]
  · rw [if_neg far, if_neg far, if_neg (mt x.reaches_iff.mpr far)]

variable [IsOrderedAddMonoid K] {x}

theorem run (followed : Followed hash key increment s a entry a.presentValue)
    (positive : 0 < x.num increment) (clocks : List TickClock) :
    let ran := runSpec (TickLoop.tick x.arith) s clocks
    ∃ a' entry', ids a' = ids a ∧ entry'.covIncrement = entry.covIncrement ∧
      Followed hash key increment ran.2 a' entry' (lastNotified key a.presentValue (sentIn ran.1)) ∧
      Cascade.Bounded (x.num entry.covIncrement) (x.num increment)
        |x.num entry.lastValue - x.num a.presentValue|
        (cascade x a' entry' (lastNotified key a.presentValue (sentIn ran.1))) := by
  refine runSpec_history
    (I := fun (s : TickLoop Object M R) done => ∃ a' entry', ids a' = ids a ∧
      entry'.covIncrement = entry.covIncrement ∧
      Followed hash key increment s a' entry' (lastNotified key a.presentValue (sentIn done)) ∧
      Cascade.Bounded (x.num entry.covIncrement) (x.num increment)
        |x.num entry.lastValue - x.num a.presentValue|
        (cascade x a' entry' (lastNotified key a.presentValue (sentIn done))))
    ?_ ?_ (fun _ _ => trivial : ∀ clock ∈ clocks, True)
  · exact ⟨a, entry, rfl, rfl, followed, .start positive _ _⟩
  · rintro s done clock ⟨a₁, entry₁, names, increments, followed, bounded⟩ _
    obtain ⟨a₂, names₂, value, heard, followed⟩ := followed.tick x.arith clock
    have sent : lastNotified key a.presentValue (sentIn (done ++ [(s.tick x.arith clock).1])) =
        told x.arith increment (lastNotified key a.presentValue (sentIn done)) entry₁ clock := by
      rw [sentIn, List.flatten_append, List.flatMap_append, lastNotified_append, ← heard]
      simp [sentIn]
    refine ⟨a₂, entry₁.next x.arith clock, names₂.trans names, increments, ?_, ?_⟩
    · rw [sent]
      exact followed
    · rw [sent, cascade_tick x value, increments]
      exact bounded.step positive _

end Exact
end Followed

/-- After every tick of a run the input is less than the two increments together away from what
its subscriber last heard; where the model's increment is zero, less than the subscriber's own.
If the model's increment is the larger one and its reference was the input's value, it is the
bound alone. -/
theorem TickLoop.subscriber_tracks {K : Type} [AddCommGroup K] [LinearOrder K]
    [IsOrderedAddMonoid K] {x : ExactReals K} {hash : Hasher} {key : CovSubKey}
    {increment modelIncrement : F32} {start : TickLoop Object M R} {a : AnalogInput}
    {entry : ModelEntry M R} (followed : Followed hash key increment start a entry a.presentValue)
    (registered : entry.covIncrement = x.arith.maxZero modelIncrement)
    (positive : 0 < x.num increment) (clocks : List TickClock) :
    let ran := runSpec (TickLoop.tick x.arith) start clocks
    let model := max (x.num modelIncrement) 0
    let apart := |x.num entry.lastValue - x.num a.presentValue|
    ∃ after : AnalogInput,
      ran.2.engine.store.lookup hash a.deviceId a.objectId = some (.analogInput after) ∧
      let gap := |x.num after.presentValue -
        x.num (lastNotified key a.presentValue (sentIn ran.1))|
      (model = 0 → gap < x.num increment) ∧
        (0 < model → gap < model + max (x.num increment) apart) ∧
        (apart = 0 → x.num increment ≤ model → gap < model) := by
  intro ran model apart
  obtain ⟨after, entry', names, _, followed', bounded⟩ := followed.run positive clocks
  have increments : x.num entry.covIncrement = model := by
    rw [registered, x.num_maxZero]
  rw [increments] at bounded
  exact ⟨after, followed'.stored_at names, bounded.gap_of_zero, bounded.gap_lt, bounded.gap_of_le⟩

end Loop

def midnight : Now := ⟨⟨0⟩, ⟨0⟩⟩

def firstTick : TickClock where
  elapsed := ⟨0⟩
  system := ⟨0⟩
  now := ⟨0⟩
  update _ := midnight
  check _ := ⟨0⟩
  expire := ⟨0⟩

instance : SeedableRng Unit where
  seedFromU64 _ := ()

def hall : AnalogInput := .new midnight ⟨1⟩ 1 "Hall" .degreesCelsius

def hallKey : CovSubKey := ⟨⟨0, .msTp 3⟩, 1, hall.objectId, hall.deviceId⟩

def hallPlant : TickLoop Object ConstantModel Unit where
  engine :=
    { (SimEngine.new (ObjectStore.new.insert (fun _ _ => 0) ⟨1⟩ (.analogInput hall))).addModel
        ExactReals.scaled.arith hall.deviceId hall.objectId ⟨⟨0x40A00000⟩⟩ ⟨0x41200000⟩ 0 with
      covEngine := CovEngine.new.subscribe hallKey
        ⟨false, none, ⟨0⟩, some ⟨0x3F800000⟩, some .presentValue, ⟨0⟩, .real hall.presentValue⟩ }
  period := .fromSecs 1
  lastExpire := ⟨0⟩

def hallEntry : ModelEntry ConstantModel Unit where
  model := ⟨⟨0x40A00000⟩⟩
  rng := ()
  covIncrement := ExactReals.scaled.arith.maxZero ⟨0x41200000⟩
  lastValue := ⟨0⟩

theorem hall_followed :
    Followed (fun _ _ => 0) hallKey ⟨0x3F800000⟩ hallPlant hall hallEntry hall.presentValue where
  filed := ObjectStore.filed_new.insert (Object.analogInput hall)
  stored := by
    refine (ObjectStore.lookup_put _ _ _ _ _ _).trans (if_pos rfl)
  modelled := AList.lookup_insert _
  named := ⟨rfl, rfl⟩
  listens := by
    refine ⟨_, (CovEngine.new.lookup_subscribe hallKey hallKey _).trans (if_pos rfl), ?_⟩
    exact ⟨rfl, rfl, rfl, rfl⟩

theorem hall_within_ten :
    let ran := runSpec (TickLoop.tick ExactReals.scaled.arith) hallPlant [firstTick]
    ∃ after : AnalogInput,
      ran.2.engine.store.lookup (fun _ _ => 0) ⟨1⟩ ⟨.analogInput, 1⟩ = some (.analogInput after) ∧
      |ExactReals.scaled.num after.presentValue -
          ExactReals.scaled.num (lastNotified hallKey ⟨0⟩ (sentIn ran.1))| <
        ExactReals.scaled.num ⟨0x41200000⟩ := by
  have registered : hallEntry.covIncrement = ExactReals.scaled.arith.maxZero ⟨0x41200000⟩ := rfl
  obtain ⟨after, stored, _, _, bound⟩ :=
    TickLoop.subscriber_tracks hall_followed registered (by decide) [firstTick]
  have within := bound (by decide) (by decide)
  exact ⟨after, stored, within⟩

/-- A change by 5 is not reported to a subscriber with an increment of 1. -/
theorem hall_change_unreported :
    ¬ ∀ (hash : Hasher) (key : CovSubKey) (increment modelIncrement : F32)
      (start : TickLoop Object ConstantModel Unit) (a : AnalogInput)
      (entry : ModelEntry ConstantModel Unit) (clocks : List TickClock),
      Followed hash key increment start a entry a.presentValue →
      entry.covIncrement = ExactReals.scaled.arith.maxZero modelIncrement →
      0 < ExactReals.scaled.num increment →
      let ran := runSpec (TickLoop.tick ExactReals.scaled.arith) start clocks
      ∃ after : AnalogInput,
        ran.2.engine.store.lookup hash a.deviceId a.objectId = some (.analogInput after) ∧
        |ExactReals.scaled.num after.presentValue -
          ExactReals.scaled.num (lastNotified key a.presentValue (sentIn ran.1))| <
            ExactReals.scaled.num increment := by
  intro claim
  obtain ⟨after, stored, near⟩ := claim (fun _ _ => 0) hallKey ⟨0x3F800000⟩ ⟨0x41200000⟩ hallPlant
    hall hallEntry [firstTick] hall_followed rfl (by decide)
  obtain ⟨hall', there, value, heard⟩ :=
    hall_followed.tick_once ExactReals.scaled.arith firstTick
  cases stored.symm.trans there
  have silent : Followed.told ExactReals.scaled.arith ⟨0x3F800000⟩ hall.presentValue hallEntry
      firstTick = ⟨0⟩ := by decide
  have five : ExactReals.scaled.num (hallEntry.nextValue firstTick) = 5 * 2 ^ 149 := by decide
  have one : ExactReals.scaled.num ⟨0x3F800000⟩ = 2 ^ 149 := by decide
  rw [heard, silent, value, five, one, ExactReals.num_zero, sub_zero] at near
  exact absurd near (not_lt.mpr (le_abs.mpr (.inl (by decide))))

end BacnetSim
