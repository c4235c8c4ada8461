import BacnetSim.Object.Command
import BacnetSim.Object.Special

/-! Polling an object for changes with the time of the poll before. Three types report a
value written at that very time, four report only later ones. -/
namespace BacnetSim
open Rust PropertyValue

inductive PollCall where
  | write (w : Write)
  | poll (at_ : Instant)

namespace PollCall

def instant : PollCall → Instant
  | write w => w.now.instant
  | poll at_ => at_

def write? : PollCall → Option Write
  | write w => some w
  | poll _ => none

end PollCall

def Ordered (calls : List PollCall) : Prop :=
  calls.Pairwise fun a b => a.instant.nanos ≤ b.instant.nanos

section Polls
variable {Obj : Type} [BacnetObject Obj]

/-- Of every two consecutive polls of a run, the second asking for the changes since the
first, and the writes between them: `P` says something of the object that the writes found,
of the time of the first poll, and of the writes. -/
def BetweenPolls (P : Obj → Instant → List Write → Prop) (o : Obj) (calls : List PollCall) : Prop :=
  ∀ before since writes at_ after,
    calls = before ++ .poll since :: (writes.map .write ++ .poll at_ :: after) →
      P (writeAll o (before.filterMap PollCall.write?)).2 since writes

def Changes (o : Obj) (writes : List Write) : Prop :=
  ∃ r ∈ (writeAll o writes).1, accepted r = true

def Reports (o : Obj) (since : Instant) (writes : List Write) : Prop :=
  Changes o writes →
    .presentValue ∈ BacnetObject.changedSince (writeAll o writes).2 since

def ChangesLater (o : Obj) (since : Instant) (writes : List Write) : Prop :=
  Changes o writes →
    ∃ r ∈ (writeAll o writes).1, accepted r = true ∧ since.nanos < r.1.now.instant.nanos

def Stamps (stamp : Obj → Instant) (o : Obj) (w : Write) (r : Except BacnetError Unit × Obj) : Prop :=
  stamp r.2 = if accepted (w, r.1) then w.now.instant else stamp o

omit [BacnetObject Obj] in
theorem Stamps.refused {stamp : Obj → Instant} {o : Obj} {w : Write} {e : BacnetError} :
    Stamps stamp o w (.error e, o) := rfl

omit [BacnetObject Obj] in
theorem Stamps.present {α : Type} {stamp : Obj → Instant} {o : Obj} {w : Write} {v : Option α}
    {set : α → Obj} (present : w.propertyId = .presentValue)
    (stamped : ∀ a, stamp (set a) = w.now.instant) : Stamps stamp o w (assign o v set) := by
  cases v with
  | none => rfl
  | some a =>
    have taken : accepted (w, .ok ()) = true := accepted_iff.mpr ⟨present, rfl⟩
    exact (stamped a).trans (if_pos taken).symm

omit [BacnetObject Obj] in
theorem Stamps.other {α : Type} {stamp : Obj → Instant} {o : Obj} {w : Write} {v : Option α}
    {set : α → Obj} (other : w.propertyId ≠ .presentValue)
    (kept : ∀ a, stamp (set a) = stamp o) : Stamps stamp o w (assign o v set) := by
  cases v with
  | none => rfl
  | some a =>
    have refused : ¬ accepted (w, .ok ()) = true := fun taken => other (accepted_iff.mp taken).1
    exact (kept a).trans (if_neg refused).symm

/-- A type with a stamp, which `changed_since` compares with the time it is given: one side
of the comparison counts a stamp of that very time as a change. -/
structure Stamped (stamp : Obj → Instant) (inclusive : Bool) : Prop where
  writes : ∀ (o : Obj) (w : Write), Stamps stamp o w (w.applyTo o)
  reports : ∀ (o : Obj) (since : Instant),
    .presentValue ∈ BacnetObject.changedSince o since ↔
      since.nanos < (stamp o).nanos ∨ inclusive = true ∧ since.nanos = (stamp o).nanos

namespace Stamped
variable {stamp : Obj → Instant} {inclusive : Bool} {o : Obj} {writes : List Write}

theorem stamp_writeAll (stamped : Stamped stamp inclusive) (o : Obj) (writes : List Write) :
    stamp (writeAll o writes).2 =
      (((writeAll o writes).1.filter accepted).getLast?.map (·.1.now.instant)).getD (stamp o) := by
  induction writes using List.reverseRecOn with
  | nil => rfl
  | append_singleton writes w ih =>
    have step := stamped.writes (writeAll o writes).2 w
    unfold Stamps at step
    rw [writeAll_concat, List.filter_append]
    by_cases taken : accepted (w, (w.applyTo (writeAll o writes).2).1) = true
    · rw [if_pos taken] at step
      simp [taken, step]
    · rw [if_neg taken] at step
      simp [taken, step, ih]

theorem latest_change (stamped : Stamped stamp inclusive)
    (ordered : writes.Pairwise fun w w' => w.now.instant.nanos ≤ w'.now.instant.nanos)
    (changes : Changes o writes) :
    ∃ last ∈ (writeAll o writes).1, accepted last = true ∧
      stamp (writeAll o writes).2 = last.1.now.instant ∧
      ∀ r ∈ (writeAll o writes).1, accepted r = true →
        r.1.now.instant.nanos ≤ last.1.now.instant.nanos := by
  have stamp_ := stamped.stamp_writeAll o writes
  rw [← writeAll_writes o writes, List.pairwise_map] at ordered
  have sorted := ordered.filter accepted
  cases found : ((writeAll o writes).1.filter accepted).getLast? with
  | none =>
    obtain ⟨r, mem, taken⟩ := changes
    have inside := List.mem_filter.mpr ⟨mem, taken⟩
    rw [List.getLast?_eq_none_iff.mp found] at inside
    cases inside
  | some last =>
    rw [found] at stamp_
    obtain ⟨earlier, split⟩ := List.getLast?_eq_some_iff.mp found
    obtain ⟨mem, taken⟩ := List.mem_filter.mp (List.mem_of_getLast? found)
    refine ⟨last, mem, taken, stamp_, fun r inside taken' => ?_⟩
    have place := List.mem_filter.mpr ⟨inside, taken'⟩
    rw [split] at sorted place
    rcases List.mem_append.mp place with before | here
    · exact (List.pairwise_append.mp sorted).2.2 r before last List.mem_cons_self
    · rw [List.mem_singleton.mp here]

/-- What a window between two polls needs: a type that counts a stamp of the time of the
first poll, or a change later than it. -/
theorem reports_iff (stamped : Stamped stamp inclusive) {since : Instant}
    (ordered : writes.Pairwise fun w w' => w.now.instant.nanos ≤ w'.now.instant.nanos)
    (later : ∀ w ∈ writes, since.nanos ≤ w.now.instant.nanos) :
    Reports o since writes ↔ inclusive = true ∨ ChangesLater o since writes := by
  by_cases changes : Changes o writes
  · obtain ⟨last, mem, taken, stamp_, latest⟩ := stamped.latest_change ordered changes
    have called : last.1 ∈ writes := by
      rw [← writeAll_writes o writes]
      exact List.mem_map_of_mem mem
    have notBefore := later last.1 called
    have reported : Reports o since writes ↔ since.nanos < last.1.now.instant.nanos ∨
        inclusive = true ∧ since.nanos = last.1.now.instant.nanos := by
      rw [← stamp_, ← stamped.reports]
      exact ⟨fun holds => holds changes, fun holds _ => holds⟩
    rw [reported]
    constructor
    · rintro (less | ⟨both, _⟩)
      · exact .inr fun _ => ⟨last, mem, taken, less⟩
      · exact .inl both
    · rintro (both | late)
      · rcases Nat.lt_or_eq_of_le notBefore with less | same
        · exact .inl less
        · exact .inr ⟨both, same⟩
      · obtain ⟨r, inside, taken', less⟩ := late changes
        exact .inl (Nat.lt_of_lt_of_le less (latest r inside taken'))
  · exact iff_of_true (fun holds => absurd holds changes) (.inr fun holds => absurd holds changes)

theorem betweenPolls_iff (stamped : Stamped stamp inclusive) {calls : List PollCall}
    (ordered : Ordered calls) :
    BetweenPolls Reports o calls ↔ inclusive = true ∨ BetweenPolls ChangesLater o calls := by
  have window : ∀ before since writes at_ after,
      calls = before ++ .poll since :: (writes.map .write ++ .poll at_ :: after) →
        (Reports (writeAll o (before.filterMap PollCall.write?)).2 since writes ↔ inclusive = true ∨
          ChangesLater (writeAll o (before.filterMap PollCall.write?)).2 since writes) := by
    intro before since writes at_ after split
    unfold Ordered at ordered
    rw [split, List.pairwise_append, List.pairwise_cons, List.pairwise_append, List.pairwise_map]
      at ordered
    obtain ⟨_, ⟨later, inside, _⟩, _⟩ := ordered
    refine stamped.reports_iff inside fun w mem => ?_
    exact later (.write w) (List.mem_append_left _ (List.mem_map_of_mem mem))
  cases inclusive with
  | true =>
    refine iff_of_true ?_ (.inl rfl)
    intro before since writes at_ after split
    exact (window before since writes at_ after split).mpr (.inl rfl)
  | false =>
    rw [or_iff_right Bool.false_ne_true]
    constructor
    · intro holds before since writes at_ after split
      exact ((window before since writes at_ after split).mp
        (holds before since writes at_ after split)).resolve_left Bool.false_ne_true
    · intro holds before since writes at_ after split
      exact (window before since writes at_ after split).mpr
        (.inr (holds before since writes at_ after split))

end Stamped
end Polls

theorem reports_from {α : Type} {a : α} {items : List α} {since stamp : Instant} (mem : a ∈ items) :
    a ∈ (if since.nanos ≤ stamp.nanos then items else []) ↔
      since.nanos < stamp.nanos ∨ true = true ∧ since.nanos = stamp.nanos := by
  by_cases from_ : since.nanos ≤ stamp.nanos
  · rw [if_pos from_]
    exact iff_of_true mem ((Nat.lt_or_eq_of_le from_).imp_right fun same => ⟨rfl, same⟩)
  · rw [if_neg from_]
    exact iff_of_false List.not_mem_nil (by omega)

theorem reports_after {α : Type} {a : α} {items : List α} {since stamp : Instant} (mem : a ∈ items) :
    a ∈ (if since.nanos < stamp.nanos then items else []) ↔
      since.nanos < stamp.nanos ∨ false = true ∧ since.nanos = stamp.nanos := by
  by_cases after : since.nanos < stamp.nanos
  · rw [if_pos after]
    exact iff_of_true mem (.inl after)
  · rw [if_neg after]
    exact iff_of_false List.not_mem_nil fun holds => holds.elim after fun both => nomatch both.1

theorem AnalogInput.stamped : Stamped AnalogInput.lastChanged true where
  writes o w := by
    obtain ⟨now, p, i, v, pri⟩ := w
    simp only [Write.applyTo, BacnetObject.writeProperty, writeProperty]
    split
    · exact .other (by simp) fun _ => rfl
    · split
      · exact .refused
      · exact .present rfl fun _ => rfl
    · exact .other (by simp) fun _ => rfl
    · exact .other (by simp) fun _ => rfl
    · exact .refused
  reports o since := reports_from List.mem_cons_self

theorem AnalogOutput.stamped : Stamped AnalogOutput.lastChanged true where
  writes o w := by
    obtain ⟨now, p, i, v, pri⟩ := w
    simp only [Write.applyTo, BacnetObject.writeProperty, writeProperty]
    split
    · split
      · rcases null_or_value v with rfl | value
        · rfl
        · rw [command_value value]
          exact .present rfl fun _ => rfl
      · exact .refused
    · exact .other (by simp) fun _ => rfl
    · exact .other (by simp) fun _ => rfl
    · exact .refused
  reports o since := reports_from List.mem_cons_self

theorem AnalogValue.stamped : Stamped AnalogValue.lastChanged false where
  writes o w := by
    obtain ⟨now, p, i, v, pri⟩ := w
    simp only [Write.applyTo, BacnetObject.writeProperty, writeProperty]
    split
    · exact .present rfl fun _ => rfl
    · exact .other (by simp) fun _ => rfl
    · exact .other (by simp) fun _ => rfl
    · exact .refused
  reports o since := reports_after List.mem_cons_self

theorem BinaryInput.stamped : Stamped BinaryInput.lastChanged true where
  writes o w := by
    obtain ⟨now, p, i, v, pri⟩ := w
    simp only [Write.applyTo, BacnetObject.writeProperty, writeProperty]
    split
    · exact .other (by simp) fun _ => rfl
    · split
      · exact .present rfl fun _ => rfl
      · exact .refused
    · exact .refused
  reports o since := reports_from List.mem_cons_self

theorem BinaryOutput.stamped : Stamped BinaryOutput.lastChanged false where
  writes o w := by
    obtain ⟨now, p, i, v, pri⟩ := w
    simp only [Write.applyTo, BacnetObject.writeProperty, writeProperty]
    split
    · exact .present rfl fun _ => rfl
    · exact .other (by simp) fun _ => rfl
    · exact .refused
  reports o since := reports_after List.mem_cons_self

theorem BinaryValue.stamped : Stamped BinaryValue.lastChanged false where
  writes o w := by
    obtain ⟨now, p, i, v, pri⟩ := w
    simp only [Write.applyTo, BacnetObject.writeProperty, writeProperty]
    split
    · exact .present rfl fun _ => rfl
    · exact .other (by simp) fun _ => rfl
    · exact .refused
  reports o since := reports_after List.mem_cons_self

theorem MultiStateInput.stamped : Stamped MultiStateInput.lastChanged false where
  writes o w := by
    obtain ⟨now, p, i, v, pri⟩ := w
    simp only [Write.applyTo, BacnetObject.writeProperty, writeProperty]
    split
    · exact .other (by simp) fun _ => rfl
    · split
      · split
        · split
          · rfl
          · exact .refused
        · exact .refused
      · exact .refused
    · exact .refused
  reports o since := reports_after List.mem_cons_self

inductive Polled : (Obj : Type) → BacnetObject Obj → Bool → Prop
  | analogInput : Polled AnalogInput inferInstance true
  | analogOutput : Polled AnalogOutput inferInstance true
  | analogValue : Polled AnalogValue inferInstance false
  | binaryInput : Polled BinaryInput inferInstance true
  | binaryOutput : Polled BinaryOutput inferInstance false
  | binaryValue : Polled BinaryValue inferInstance false
  | multiStateInput : Polled MultiStateInput inferInstance false

/-- Every change between two polls is reported by the second one exactly where the type
counts the very time of the first poll, or where each such window with a change has one
that is later than its first poll. -/
theorem polling_reports_iff {Obj : Type} [object : BacnetObject Obj] {inclusive : Bool}
    (polled : Polled Obj object inclusive) (o : Obj) {calls : List PollCall} (ordered : Ordered calls) :
    BetweenPolls Reports o calls ↔ inclusive = true ∨ BetweenPolls ChangesLater o calls := by
  cases polled with
  | analogInput => exact AnalogInput.stamped.betweenPolls_iff ordered
  | analogOutput => exact AnalogOutput.stamped.betweenPolls_iff ordered
  | analogValue => exact AnalogValue.stamped.betweenPolls_iff ordered
  | binaryInput => exact BinaryInput.stamped.betweenPolls_iff ordered
  | binaryOutput => exact BinaryOutput.stamped.betweenPolls_iff ordered
  | binaryValue => exact BinaryValue.stamped.betweenPolls_iff ordered
  | multiStateInput => exact MultiStateInput.stamped.betweenPolls_iff ordered

def sameInstantCalls : List PollCall :=
  [.poll ⟨5⟩, .write ⟨⟨⟨5⟩, ⟨5⟩⟩, .presentValue, none, .boolean true, none⟩, .poll ⟨6⟩]

theorem sameInstantCalls_reports :
    BetweenPolls Reports (BinaryInput.new ⟨⟨0⟩, ⟨0⟩⟩ ⟨1⟩ 1 "BI-1") sameInstantCalls :=
  (polling_reports_iff .binaryInput _ (by unfold Ordered; decide)).mpr (.inl rfl)

theorem binaryValue_loses_change : ¬ ∀ (Obj : Type) (object : BacnetObject Obj) (inclusive : Bool),
    Polled Obj object inclusive → ∀ (o : Obj) (calls : List PollCall), Ordered calls →
      BetweenPolls Reports o calls := by
  intro claim
  have reports := claim BinaryValue inferInstance false .binaryValue
    (.new ⟨⟨0⟩, ⟨0⟩⟩ ⟨1⟩ 1 "BV-1") sameInstantCalls (by unfold Ordered; decide)
    [] ⟨5⟩ [⟨⟨⟨5⟩, ⟨5⟩⟩, .presentValue, none, .boolean true, none⟩] ⟨6⟩ [] rfl
  have reported := reports ⟨_, List.mem_cons_self, rfl⟩
  exact absurd reported (by decide)

end BacnetSim
