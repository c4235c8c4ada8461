import BacnetSim.Engine.Readback
import BacnetSim.Lib.Rounding

/-! The value models that compare, add and multiply only (`value_model.rs`), and the range in which
they hold what the tick loop makes of them. A random walk never leaves its own bounds. -/
namespace BacnetSim
open Rust Ieee754 F32

class RandomSource (R : Type) where
  random : R → F32 × R

structure RandomWalkModel where
  current : F32
  stepStd : F32
  min : F32
  max : F32
  /-- `clamp` panics where this is not so. -/
  ordered : max.ge min = true

namespace RandomWalkModel

def half : F32 := ⟨0x3F000000⟩

def one : F32 := ⟨0x3F800000⟩

def two : F32 := ⟨0x40000000⟩

def delta (m : RandomWalkModel) (r : F32) : F32 := ((r.sub half).mul two).mul m.stepStd

def next {R : Type} [RandomSource R] (m : RandomWalkModel) (rng : R) : F32 × RandomWalkModel × R :=
  let (r, rng) := RandomSource.random rng
  let current := (m.current.add (m.delta r)).clamp m.min m.max
  (current, { m with current }, rng)

end RandomWalkModel

structure StepModel where
  schedule : List (F64 × F32)

def StepModel.next (m : StepModel) (t : F64) : F32 :=
  m.schedule.foldl (fun current e => if t.ge e.1 then e.2 else current)
    ((m.schedule.head?.map (·.2)).getD ⟨0⟩)

inductive SimModel where
  | constant (m : ConstantModel)
  | randomWalk (m : RandomWalkModel)
  | step (m : StepModel)

instance (R : Type) [RandomSource R] : ValueModel SimModel R where
  next
    | .constant m, _, rng => (m.value, .constant m, rng)
    | .randomWalk m, _, rng =>
      let (v, m, rng) := m.next rng
      (v, .randomWalk m, rng)
    | .step m, t, rng => (m.next t, .step m, rng)

/-- The random numbers are those of `[0, 1)`; 1 itself would do no harm. -/
def UnitRandom (R : Type) [RandomSource R] : Prop :=
  ∀ rng : R, Between ⟨0⟩ RandomWalkModel.one (RandomSource.random rng).1

structure RandomWalkModel.Inside (m : RandomWalkModel) : Prop where
  between : Between m.min m.max m.current
  finiteMin : m.min.isFinite = true
  finiteMax : m.max.isFinite = true
  finiteStep : m.stepStd.isFinite = true

def SimModel.Stays (low high : F32) : SimModel → Prop
  | constant m => Between low high m.value
  | randomWalk m => m.Inside ∧ m.min.ge low = true ∧ high.ge m.max = true
  | step m => (m.schedule = [] → Between low high ⟨0⟩) ∧ ∀ e ∈ m.schedule, Between low high e.2

namespace RandomWalkModel
variable {R : Type} [RandomSource R] {m : RandomWalkModel} (rng : R)

/-- A random number, shifted and scaled, is finite; the step may overflow, but is no NaN. -/
theorem isNan_delta (unit : UnitRandom R) (finite : m.stepStd.isFinite = true) :
    (m.delta (RandomSource.random rng).1).isNan = false := by
  have between := unit rng
  have finiteR := between.finite (by decide) (by decide)
  have centred : ((RandomSource.random rng).1.scaled - half.scaled).natAbs < 2 ^ 150 := by
    have low := (ge_iff.mp between.1).2.2
    have high := (ge_iff.mp between.2).2.2
    have zero : (⟨0⟩ : F32).scaled = 0 := by decide
    have oneScaled : one.scaled = 2 ^ 149 := by decide
    have halfScaled : half.scaled = 2 ^ 148 := by decide
    omega
  have shifted := exponent_sub finiteR (by decide : half.isFinite = true) centred
  exact isNan_mul (isFinite_mul shifted (by decide)) finite

theorem next_inside (unit : UnitRandom R) (inside : m.Inside) :
    Between m.min m.max (m.next rng).1 ∧ (m.next rng).2.1.Inside ∧
      (m.next rng).2.1.min = m.min ∧ (m.next rng).2.1.max = m.max := by
  have finite := inside.between.finite inside.finiteMin inside.finiteMax
  have moved := clamp_between m.ordered (isNan_add finite (isNan_delta rng unit inside.finiteStep))
  exact ⟨moved, ⟨moved, inside.finiteMin, inside.finiteMax, inside.finiteStep⟩, rfl, rfl⟩

end RandomWalkModel

theorem StepModel.next_mem (m : StepModel) (t : F64) :
    (m.schedule = [] ∧ m.next t = ⟨0⟩) ∨ ∃ e ∈ m.schedule, m.next t = e.2 := by
  unfold next
  cases schedule : m.schedule with
  | nil => exact .inl ⟨rfl, rfl⟩
  | cons first rest =>
    right
    refine List.foldlRecOn (first :: rest) (motive := fun v => ∃ e ∈ first :: rest, v = e.2) _
      ⟨first, List.mem_cons_self, rfl⟩ fun v known e mem => ?_
    split
    · exact ⟨e, mem, rfl⟩
    · exact known

section Stays
variable {R : Type} [RandomSource R] {low high : F32}

theorem SimModel.next_stays (unit : UnitRandom R) {m : SimModel} (stays : m.Stays low high) (t : F64)
    (rng : R) : Between low high (ValueModel.next m t rng).1 ∧
      (ValueModel.next m t rng).2.1.Stays low high := by
  cases m with
  | constant m => exact ⟨stays, stays⟩
  | randomWalk m =>
    obtain ⟨inside, above, below⟩ := stays
    obtain ⟨moved, kept, min, max⟩ := RandomWalkModel.next_inside rng unit inside
    refine ⟨moved.trans above below, kept, ?_, ?_⟩
    · exact min ▸ above
    · exact max ▸ below
  | step m =>
    refine ⟨?_, stays⟩
    change Between low high (m.next t)
    rcases m.next_mem t with ⟨empty, zero⟩ | ⟨e, mem, same⟩
    · rw [zero]
      exact stays.1 empty
    · rw [same]
      exact stays.2 e mem

end Stays

def Object.IsAnalogPoint : Object → Prop
  | analogInput _ | analogValue _ => True
  | _ => False

namespace TickLoop
variable {R : Type} [RandomSource R] (hash : Hasher) (arith : RealArith) (low high : F32)
  (ref : ObjectRef)

/-- What a tick reports about the object at a place is in the range, and so is what is read of it
then, if it is an analog input or value. -/
def InRange (s : TickLoop Object SimModel R) (clock : TickClock) : Prop :=
  (∀ r ∈ (s.tick arith clock).1, r.changed.ref = ref → Between low high r.changed.value) ∧
    ∀ o, s.stored ref = some o → o.IsAnalogPoint → ∃ left v,
      (s.tick arith clock).2.stored ref = some left ∧ Between low high v ∧
        ∀ now, BacnetObject.readProperty now left .presentValue none = .ok (.real v)

structure Ranged (s : TickLoop Object SimModel R) : Prop where
  filed : s.engine.store.Filed hash
  stored : ∃ o, s.stored ref = some o
  modelled : ∃ entry, AList.lookup ref.key s.engine.models = some entry ∧ entry.model.Stays low high

variable {hash arith low high ref} {s : TickLoop Object SimModel R} {clock : TickClock}

theorem Ranged.tick (unit : UnitRandom R) (ranged : Ranged hash low high ref s) :
    InRange arith low high ref s clock ∧ Ranged hash low high ref (s.tick arith clock).2 := by
  obtain ⟨o, stored⟩ := ranged.stored
  obtain ⟨entry, modelled, stays⟩ := ranged.modelled
  obtain rfl : ref = ObjectStore.place hash (ids o) := ranged.filed _ _ o stored
  obtain ⟨within, kept⟩ := SimModel.next_stays unit stays clock.elapsed entry.rng
  have swept : Swept arith clock hash s o entry :=
    swept arith clock Object.keepsIds ranged.filed stored modelled
  have driven : (s.tick arith clock).2.stored (ObjectStore.place hash (ids o)) =
      some (driven s.period clock (ObjectStore.place hash (ids o)) o (entry.nextValue clock)) := by
    rw [TickLoop.stored, tick_store]
    exact swept.stored
  refine ⟨⟨fun r mem here => ?_, fun o' found point => ⟨_, entry.nextValue clock, driven, within, ?_⟩⟩,
    ?_, ⟨_, driven⟩, entry.next arith clock, ?_, kept⟩
  · obtain ⟨o', reported⟩ := (mem_changed_iff arith clock Object.keepsIds ranged.filed).mp
      (tick_report arith clock mem).1
    obtain ⟨entry', modelled', _, value⟩ := reported.modelled
    rw [here, modelled] at modelled'
    cases modelled'
    rw [value]
    exact within
  · cases stored.symm.trans found
    refine (Object.read_driven_iff s.period clock _ _ o).mpr ?_
    cases o with
    | analogInput o | analogValue o => trivial
    | _ => cases point
  · rw [tick_store]
    exact sweep_filed arith clock Object.keepsIds ranged.filed
  · rw [tick_models]
    exact swept.modelled

theorem Ranged.step (unit : UnitRandom R) (ranged : Ranged hash low high ref s) (call : SimCall) :
    Ranged hash low high ref (s.step hash arith call).2 := by
  cases call with
  | tick clock => exact (ranged.tick unit).2
  | writeProperty device objId now p i v pri =>
    have filed := step_filed hash arith ranged.filed (.writeProperty device objId now p i v pri)
    rcases s.step_write hash arith device objId now p i v pri with ⟨_, left⟩ | ⟨o, found, left⟩
    · rwa [left]
    · rw [left] at filed ⊢
      refine ⟨filed, ?_, ranged.modelled⟩
      obtain ⟨o', stored⟩ := ranged.stored
      rw [TickLoop.stored, withStore, ObjectRef.put, Shards.lookup_insert]
      split
      · exact ⟨_, rfl⟩
      · exact ⟨o', stored⟩
  | subscribe key sub => exact ⟨ranged.filed, ranged.stored, ranged.modelled⟩
  | unsubscribe key => exact ⟨ranged.filed, ranged.stored, ranged.modelled⟩

/-- In every run, whatever clients write in between, each tick reports about an object whose model
stays in a range only values of the range; and after it the object, an analog input or value, reads
as one. -/
theorem stays_in_range (unit : UnitRandom R) (ranged : Ranged hash low high ref s)
    (calls : List SimCall) : AtEachTick hash arith (InRange arith low high ref) s calls := by
  intro before clock after _
  have held : Ranged hash low high ref (runSpec (step hash arith) s before).2 :=
    runSpec_invariant (I := fun (s : TickLoop Object SimModel R) _ => Ranged hash low high ref s) ranged
      (fun held => held.step unit _) before
  exact (held.tick unit).1

end TickLoop

instance : RandomSource Unit where
  random _ := (⟨0x3E800000⟩, ())

def foyerWalk : RandomWalkModel := ⟨⟨0x41A00000⟩, ⟨0x40000000⟩, ⟨0x41700000⟩, ⟨0x41C80000⟩, by decide⟩

def foyer : Object := .analogValue (.new midnight ⟨1⟩ 1 "Foyer" .degreesCelsius)

def foyerRef : ObjectRef := shardKey (fun _ _ => 0) ⟨1⟩ ⟨.analogValue, 1⟩

def foyerPlant : TickLoop Object SimModel Unit where
  engine := (SimEngine.new (ObjectStore.new.insert (fun _ _ => 0) ⟨1⟩ foyer)).addModel .ieee ⟨1⟩
    ⟨.analogValue, 1⟩ (.randomWalk foyerWalk) ⟨0⟩ 0
  period := .fromSecs 1
  lastExpire := ⟨0⟩

def foyerCalls : List SimCall :=
  [.tick firstTick, .writeProperty ⟨1⟩ ⟨.analogValue, 1⟩ midnight .presentValue none (.real ⟨0x42C80000⟩) none,
    .tick firstTick]

theorem foyer_in_range : TickLoop.AtEachTick (fun _ _ => 0) .ieee
    (TickLoop.InRange .ieee foyerWalk.min foyerWalk.max foyerRef) foyerPlant foyerCalls := by
  have unit : UnitRandom Unit := fun _ => show Between ⟨0⟩ RandomWalkModel.one ⟨0x3E800000⟩ by decide
  have inside : foyerWalk.Inside := ⟨by decide, by decide, by decide, by decide⟩
  have filed : foyerPlant.engine.store.Filed fun _ _ => 0 := ObjectStore.filed_new.insert foyer
  have stored : foyerPlant.stored foyerRef = some foyer :=
    (ObjectStore.lookup_put _ _ _ _ ⟨1⟩ ⟨.analogValue, 1⟩).trans (if_pos rfl)
  exact TickLoop.stays_in_range unit ⟨filed, ⟨_, stored⟩, _, AList.lookup_insert _, inside, by decide,
    by decide⟩ foyerCalls

end BacnetSim
