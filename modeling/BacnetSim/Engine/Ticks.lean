import BacnetSim.Engine.SimEngine

/-! What a tick does to one object of the store, to its value model, and to `changed`. -/
namespace BacnetSim
open Rust Ieee754

namespace ObjectStore
variable {Obj : Type} [BacnetObject Obj] {hash : Hasher} {store : ObjectStore Obj}

def place (hash : Hasher) (name : DeviceId × ObjectId) : ObjectRef := shardKey hash name.1 name.2

/-- Every object is stored under the ids that it reports. -/
def Filed (hash : Hasher) (store : ObjectStore Obj) : Prop :=
  ∀ i k o, store.shards.lookup i k = some o → (⟨i, k⟩ : ObjectRef) = place hash (ids o)

theorem filed_new : Filed hash (new : ObjectStore Obj) := by
  intro i k o stored
  have empty := Shards.lookup_empty (n := numShards) (V := Obj) i k
  cases empty.symm.trans stored

theorem Filed.insert (filed : Filed hash store) (obj : Obj) :
    Filed hash (store.insert hash (BacnetObject.deviceId obj) obj) := by
  intro i k o stored
  rw [ObjectStore.insert, Shards.lookup_insert] at stored
  split at stored
  · rename_i here
    cases stored
    obtain ⟨rfl, rfl⟩ := here
    rfl
  · exact filed i k o stored

theorem Filed.put (filed : Filed hash store) {ref : ObjectRef} {o o' : Obj}
    (stored : store.shards.lookup ref.shard ref.key = some o) (same : ids o' = ids o) :
    Filed hash (ref.put store o') := by
  intro i k left found
  rw [ObjectRef.put, Shards.lookup_insert] at found
  split at found
  · rename_i here
    cases found
    obtain ⟨rfl, rfl⟩ := here
    rw [same]
    exact filed _ _ o stored
  · exact filed i k left found

theorem Filed.distinct (filed : Filed hash store) {i i' : Fin numShards} {k k' : StoreKey} {o o' : Obj}
    (stored : store.shards.lookup i k = some o) (stored' : store.shards.lookup i' k' = some o')
    (ne : (i', k') ≠ (i, k)) : ids o' ≠ ids o ∧ k' ≠ k := by
  have here := filed i k o stored
  have there := filed i' k' o' stored'
  have apart : place hash (ids o') ≠ place hash (ids o) := by
    intro same
    have refs : (⟨i', k'⟩ : ObjectRef) = ⟨i, k⟩ := there.trans (same.trans here.symm)
    cases refs
    exact ne rfl
  refine ⟨fun names => apart (congrArg (place hash) names), fun keys => apart ?_⟩
  have key : (place hash (ids o')).key = (place hash (ids o)).key := by
    rw [← here, ← there]
    exact keys
  obtain ⟨devices, objects⟩ := Prod.mk.inj key
  exact shardKey_eq_iff.mpr ⟨deviceKey_injective devices, objects⟩

end ObjectStore

def Changed.isFor (name : DeviceId × ObjectId) (c : Changed) : Bool :=
  (c.deviceId, c.objectId) = name

namespace TickLoop
variable {Obj M R : Type} [BacnetObject Obj] [ValueModel M R] (arith : RealArith)
  {s : TickLoop Obj M R} (clock : TickClock)

def stored (s : TickLoop Obj M R) (ref : ObjectRef) : Option Obj :=
  s.engine.store.shards.lookup ref.shard ref.key

theorem update_ids (keeps : KeepsIds Obj) {period : Duration} (c : Sweep M R) (i : Fin numShards)
    (k : StoreKey) (obj : Obj) : ids (update arith period clock c i k obj).2 = ids obj := by
  cases modelled : AList.lookup k c.models with
  | none =>
    rw [update_unmodelled arith modelled]
    exact keeps.ticks _ _ _ _
  | some entry =>
    rw [update_modelled arith keeps modelled]
    exact driven_ids keeps _ _ _ _ _

theorem sweep_filed (keeps : KeepsIds Obj) {hash : Hasher} (filed : s.engine.store.Filed hash) :
    ObjectStore.Filed hash ⟨(s.sweep arith clock).2⟩ := by
  intro i k left stored
  simp only [sweep] at stored
  obtain ⟨obj, c, was, rfl⟩ := Shards.lookup_iterMut stored
  rw [update_ids arith clock keeps]
  exact filed i k obj was

theorem update_models_other (keeps : KeepsIds Obj) {period : Duration} {c : Sweep M R} {i : Fin numShards}
    {k key : StoreKey} {obj : Obj} (keyed : k ≠ key) :
    AList.lookup key (update arith period clock c i k obj).1.models = AList.lookup key c.models := by
  cases modelled : AList.lookup k c.models with
  | none => rw [update_unmodelled arith modelled]
  | some entry =>
    rw [update_modelled arith keeps modelled]
    exact AList.lookup_insert_ne keyed.symm

theorem update_other (keeps : KeepsIds Obj) {period : Duration} {c : Sweep M R} {i : Fin numShards}
    {k key : StoreKey} {obj : Obj} {name : DeviceId × ObjectId} (named : ids obj ≠ name)
    (keyed : k ≠ key) :
    AList.lookup key (update arith period clock c i k obj).1.models = AList.lookup key c.models ∧
      (update arith period clock c i k obj).1.changed.filter (Changed.isFor name) =
        c.changed.filter (Changed.isFor name) := by
  refine ⟨update_models_other arith clock keeps keyed, ?_⟩
  cases modelled : AList.lookup k c.models with
  | none => rw [update_unmodelled arith modelled]
  | some entry =>
    rw [update_modelled arith keeps modelled]
    rw [List.filter_append, changes]
    split
    · rw [List.filter_cons_of_neg, List.filter_nil, List.append_nil]
      exact fun same => named (of_decide_eq_true same)
    · exact List.append_nil _

/-- What the sweep makes of an object with a model: it is driven to the model's next value, and
that is a change, its only one, when the model's entry reports it. -/
structure Swept (hash : Hasher) (s : TickLoop Obj M R) (obj : Obj) (entry : ModelEntry M R) : Prop where
  stored : (s.sweep arith clock).2.lookup (ObjectStore.place hash (ids obj)).shard
    (ObjectStore.place hash (ids obj)).key =
      some (driven s.period clock (ObjectStore.place hash (ids obj)) obj (entry.nextValue clock))
  modelled : AList.lookup (ObjectStore.place hash (ids obj)).key (s.sweep arith clock).1.models =
    some (entry.next arith clock)
  changed : (s.sweep arith clock).1.changed.filter (Changed.isFor (ids obj)) =
    changes arith clock (ObjectStore.place hash (ids obj)) (ids obj) entry

theorem swept (keeps : KeepsIds Obj) {hash : Hasher} (filed : s.engine.store.Filed hash) {obj : Obj}
    {entry : ModelEntry M R}
    (stored : s.engine.store.lookup hash (ids obj).1 (ids obj).2 = some obj)
    (modelled : AList.lookup (ObjectStore.place hash (ids obj)).key s.engine.models = some entry) :
    Swept arith clock hash s obj entry := by
  have there : s.engine.store.shards.lookup (ObjectStore.place hash (ids obj)).shard
      (ObjectStore.place hash (ids obj)).key = some obj := stored
  have tracked := Shards.iterMut_tracks (update arith s.period clock)
    (I := fun c : Sweep M R =>
      AList.lookup (ObjectStore.place hash (ids obj)).key c.models = some entry ∧
        c.changed.filter (Changed.isFor (ids obj)) = [])
    (Q := fun left c =>
      left = driven s.period clock (ObjectStore.place hash (ids obj)) obj (entry.nextValue clock) ∧
        AList.lookup (ObjectStore.place hash (ids obj)).key c.models = some (entry.next arith clock) ∧
        c.changed.filter (Changed.isFor (ids obj)) =
          changes arith clock (ObjectStore.place hash (ids obj)) (ids obj) entry)
    (s := ⟨s.engine.models, []⟩) there ⟨modelled, rfl⟩ ?_ ?_ ?_
  · obtain ⟨left, found, rfl, model, changed⟩ := tracked
    exact ⟨found, model, changed⟩
  · rintro c i k o other ne ⟨model, none_⟩
    obtain ⟨names, keys⟩ := filed.distinct there other ne
    obtain ⟨models, changed⟩ := update_other arith (i := i) (c := c) clock keeps names keys
    exact ⟨models.trans model, changed.trans none_⟩
  · rintro c ⟨model, none_⟩
    rw [update_modelled arith keeps model]
    refine ⟨rfl, AList.lookup_insert _, ?_⟩
    rw [List.filter_append, none_, List.nil_append, changes]
    split
    · exact List.filter_cons_of_pos (decide_eq_true rfl)
    · rfl
  · rintro left c i k o other ne ⟨rfl, model, once⟩
    obtain ⟨names, keys⟩ := filed.distinct there other ne
    obtain ⟨models, changed⟩ := update_other arith (i := i) (c := c) clock keeps names keys
    exact ⟨rfl, models.trans model, changed.trans once⟩

theorem update_changed (keeps : KeepsIds Obj) {period : Duration} {sw : Sweep M R}
    {i : Fin numShards} {k : StoreKey} {obj : Obj} {c : Changed}
    (mem : c ∈ (update arith period clock sw i k obj).1.changed) :
    c ∈ sw.changed ∨ (c.ref = ⟨i, k⟩ ∧ (c.deviceId, c.objectId) = ids obj ∧
      (update arith period clock sw i k obj).2 = driven period clock c.ref obj c.value) := by
  cases modelled : AList.lookup k sw.models with
  | none =>
    rw [update_unmodelled arith modelled] at mem
    exact .inl mem
  | some entry =>
    rw [update_modelled arith keeps modelled] at mem ⊢
    rcases List.mem_append.mp mem with old | new
    · exact .inl old
    · rw [changes] at new
      split at new
      · rw [List.mem_singleton.mp new]
        exact .inr ⟨rfl, rfl, rfl⟩
      · cases new

/-- A change that the state before the tick calls for: a stored object under its own name, and a
model that reports. -/
structure Reported (s : TickLoop Obj M R) (c : Changed) (obj : Obj) : Prop where
  stored : s.engine.store.shards.lookup c.ref.shard c.ref.key = some obj
  named : (c.deviceId, c.objectId) = ids obj
  modelled : ∃ entry, AList.lookup c.ref.key s.engine.models = some entry ∧
    entry.reports arith clock = true ∧ c.value = entry.nextValue clock

theorem changed_driven (keeps : KeepsIds Obj) {c : Changed}
    (mem : c ∈ (s.sweep arith clock).1.changed) :
    ∃ obj, s.engine.store.shards.lookup c.ref.shard c.ref.key = some obj ∧
      (c.deviceId, c.objectId) = ids obj ∧
      (s.sweep arith clock).2.lookup c.ref.shard c.ref.key =
        some (driven s.period clock c.ref obj c.value) := by
  have known : ∀ c ∈ (s.sweep arith clock).1.changed,
      (s.engine.store.shards.lookup c.ref.shard c.ref.key).isSome := by
    refine Shards.iterMut_invariant
      (I := fun sw : Sweep M R => ∀ c ∈ sw.changed,
        (s.engine.store.shards.lookup c.ref.shard c.ref.key).isSome)
      (fun _ none_ => absurd none_ List.not_mem_nil) ?_
    intro sw i k obj stored held c mem
    rcases update_changed arith clock keeps mem with old | ⟨here, _⟩
    · exact held c old
    · rw [here, stored]
      rfl
  obtain ⟨obj, stored⟩ := Option.isSome_iff_exists.mp (known c mem)
  obtain ⟨left, found, holds⟩ := Shards.iterMut_tracks (update arith s.period clock)
    (I := fun sw : Sweep M R => ∀ c' ∈ sw.changed, c'.ref ≠ c.ref)
    (Q := fun left sw => ∀ c' ∈ sw.changed, c'.ref = c.ref →
      (c'.deviceId, c'.objectId) = ids obj ∧ left = driven s.period clock c.ref obj c'.value)
    (s := ⟨s.engine.models, []⟩) stored (fun _ none_ => absurd none_ List.not_mem_nil)
    (by
      intro sw i k o _ ne held c' mem same
      rcases update_changed arith clock keeps mem with old | ⟨here, _⟩
      · exact held c' old same
      · exact ne (by rw [← same, here]))
    (by
      intro sw held c' mem same
      rcases update_changed arith clock keeps mem with old | ⟨_, named, left⟩
      · exact absurd same (held c' old)
      · exact ⟨named, by rw [left, same]⟩)
    (by
      intro left sw i k o _ ne held c' mem same
      rcases update_changed arith clock keeps mem with old | ⟨here, _⟩
      · exact held c' old same
      · exact absurd (by rw [← same, here]) ne)
  obtain ⟨named, same⟩ := holds c (by rwa [sweep] at mem) rfl
  refine ⟨obj, stored, named, ?_⟩
  rw [← same, sweep]
  exact found

theorem unswept (keeps : KeepsIds Obj) {hash : Hasher} (filed : s.engine.store.Filed hash)
    {ref : ObjectRef} {obj : Obj} (stored : s.engine.store.shards.lookup ref.shard ref.key = some obj)
    (unmodelled : AList.lookup ref.key s.engine.models = none) :
    (s.sweep arith clock).1.changed.filter (Changed.isFor (ids obj)) = [] := by
  have passed : AList.lookup ref.key (s.sweep arith clock).1.models = none ∧
      (s.sweep arith clock).1.changed.filter (Changed.isFor (ids obj)) = [] := by
    refine Shards.iterMut_invariant
      (I := fun c : Sweep M R => AList.lookup ref.key c.models = none ∧
        c.changed.filter (Changed.isFor (ids obj)) = []) ⟨unmodelled, rfl⟩ ?_
    rintro c i k o other ⟨model, none_⟩
    by_cases same : (i, k) = (ref.shard, ref.key)
    · obtain ⟨rfl, rfl⟩ := Prod.mk.inj same
      rw [update_unmodelled arith model]
      exact ⟨model, none_⟩
    · obtain ⟨names, keys⟩ := filed.distinct stored other same
      obtain ⟨models, changed⟩ := update_other arith (i := i) (c := c) clock keeps names keys
      exact ⟨models.trans model, changed.trans none_⟩
  exact passed.2

theorem Reported.once (keeps : KeepsIds Obj) {hash : Hasher} (filed : s.engine.store.Filed hash)
    {c : Changed} {obj : Obj} (reported : Reported arith clock s c obj) :
    (s.sweep arith clock).1.changed.filter (Changed.isFor (c.deviceId, c.objectId)) = [c] := by
  obtain ⟨entry, modelled, reports, value⟩ := reported.modelled
  have place : c.ref = ObjectStore.place hash (ids obj) := filed _ _ obj reported.stored
  have stored := reported.stored
  rw [place] at stored modelled
  have swept : Swept arith clock hash s obj entry := swept arith clock keeps filed stored modelled
  rw [reported.named, swept.changed, changes, if_pos reports, ← place, ← value, ← reported.named]

theorem mem_changed_iff (keeps : KeepsIds Obj) {hash : Hasher} (filed : s.engine.store.Filed hash)
    {c : Changed} :
    c ∈ (s.sweep arith clock).1.changed ↔ ∃ obj, Reported arith clock s c obj := by
  constructor
  · intro mem
    obtain ⟨obj, stored, named, _⟩ := changed_driven arith clock keeps mem
    have place : c.ref = ObjectStore.place hash (ids obj) := filed _ _ obj stored
    have own : c ∈ (s.sweep arith clock).1.changed.filter (Changed.isFor (ids obj)) :=
      List.mem_filter.mpr ⟨mem, decide_eq_true named⟩
    cases modelled : AList.lookup c.ref.key s.engine.models with
    | none =>
      rw [unswept arith clock keeps filed stored modelled] at own
      cases own
    | some entry =>
      have there := stored
      have model := modelled
      rw [place] at there model
      have swept : Swept arith clock hash s obj entry := swept arith clock keeps filed there model
      rw [swept.changed, changes] at own
      split at own
      · rename_i reports
        exact ⟨obj, stored, named, entry, modelled, reports,
          congrArg Changed.value (List.mem_singleton.mp own)⟩
      · cases own
  · rintro ⟨obj, reported⟩
    have one : c ∈ (s.sweep arith clock).1.changed.filter (Changed.isFor (c.deviceId, c.objectId)) :=
      reported.once arith clock keeps filed ▸ List.mem_singleton_self c
    exact List.mem_of_mem_filter one

theorem notify_other {cov : CovEngine} {c : Changed} {key : CovSubKey}
    (other : c.isFor (key.deviceId, key.objectId) ≠ true) :
    (notify arith clock cov c).2.lookup key = cov.lookup key :=
  cov.lookup_check_other arith _ fun same => other (decide_eq_true same.symm)

theorem checks_once (cov : CovEngine) {name : DeviceId × ObjectId} {changed : List Changed}
    {c : Changed} (once : changed.filter (Changed.isFor name) = [c]) :
    ∃ cov' : CovEngine,
      (∀ key : CovSubKey, (key.deviceId, key.objectId) = name → cov'.lookup key = cov.lookup key) ∧
        (runSpec (notify arith clock) cov changed).1.filter (fun r => r.changed.isFor name) =
          [⟨c, (cov'.checkAndNotify arith (change clock c)).1⟩] := by
  induction changed generalizing cov with
  | nil => cases once
  | cons d changed ih =>
    rw [List.filter_cons] at once
    rw [runSpec, List.filter_cons]
    split at once
    · rename_i own
      obtain ⟨rfl, others⟩ := List.cons.inj once
      have rest : (runSpec (notify arith clock) (notify arith clock cov d).2 changed).1.filter
          (fun r => r.changed.isFor name) = [] := by
        rw [List.filter_eq_nil_iff]
        intro r mem own
        obtain ⟨_, c, inside, rfl⟩ := runSpec_answer mem
        exact List.filter_eq_nil_iff.mp others c inside own
      refine ⟨cov, fun _ _ => rfl, ?_⟩
      rw [rest]
      exact if_pos own
    · rename_i other
      obtain ⟨cov', kept, one⟩ := ih (notify arith clock cov d).2 once
      refine ⟨cov', fun key named => ?_, ?_⟩
      · rw [kept key named]
        exact notify_other arith clock (named ▸ other)
      · rw [one]
        exact if_neg other

theorem tick_report {r : Report} (mem : r ∈ (s.tick arith clock).1) :
    r.changed ∈ (s.sweep arith clock).1.changed ∧
      ∃ cov : CovEngine, r.check = (cov.checkAndNotify arith (change clock r.changed)).1 := by
  rw [tick_reports, checks] at mem
  obtain ⟨cov, c, inside, rfl⟩ := runSpec_answer mem
  exact ⟨inside, cov, rfl⟩

theorem Reported.report (keeps : KeepsIds Obj) {hash : Hasher} (filed : s.engine.store.Filed hash)
    {c : Changed} {obj : Obj} (reported : Reported arith clock s c obj) :
    ∃ check : CovCheck,
      (s.tick arith clock).1.filter (fun r => r.changed.isFor (c.deviceId, c.objectId)) =
        [⟨c, check⟩] ∧
      (check.sent ≠ [] ↔ ∃ key sub, s.engine.covEngine.lookup key = some sub ∧
        (change clock c).Hits arith key sub) := by
  have once := reported.once arith clock keeps filed
  obtain ⟨cov, kept, one⟩ := checks_once arith clock s.engine.covEngine once
  refine ⟨(cov.checkAndNotify arith (change clock c)).1, ?_, ?_⟩
  · rw [tick_reports, checks]
    exact one
  · rw [cov.sent_ne_nil_iff]
    refine exists_congr fun key => exists_congr fun sub => and_congr_left fun hits => ?_
    rw [kept key (Prod.ext hits.1.device hits.1.object)]

end TickLoop

end BacnetSim
