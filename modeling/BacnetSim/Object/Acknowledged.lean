import BacnetSim.Object.LogBuffer
import BacnetSim.Object.Object

/-! What is read of a property after a write to it was acknowledged: the value, converted
to the kind that the property is read as. The record count of a trend log is the exception. -/
namespace BacnetSim
open Ieee754 PropertyValue

def truth? : PropertyValue → Option Bool
  | .boolean b => some b
  | .enumerated n | .unsigned n => some (n != 0)
  | _ => none

/-- What a property is read as: a real, a Boolean, the state of a binary object, or the value
that was written, as it was. -/
inductive ReadKind where
  | real | boolean | binary | plain
  deriving DecidableEq

def ReadKind.convert : ReadKind → PropertyValue → Option PropertyValue
  | real, v => v.asF32.map .real
  | boolean, v => (truth? v).map .boolean
  | binary, v => (truth? v).map fun b => .enumerated (boolCode b)
  | plain, v => some v

def Object.kind (o : Object) : PropertyIdentifier → ReadKind
  | .presentValue =>
    match o with
    | analogInput _ | analogOutput _ | analogValue _ => .real
    | binaryInput _ | binaryOutput _ => .binary
    | binaryValue _ => .boolean
    | _ => .plain
  | .covIncrement | .relinquishDefault | .highLimit | .lowLimit => .real
  | .outOfService | .enable | .stopWhenFull | .daylightSavingsStatus => .boolean
  | _ => .plain

def Object.IsSchedule : Object → Prop
  | schedule _ => True
  | _ => False

section Answers
variable {Obj α : Type} {o : Obj} {converted : Option PropertyValue}
  {read : Obj → Except BacnetError PropertyValue}

/-- If the write was accepted, what is read afterwards is the converted value. -/
def Acknowledged (converted : Option PropertyValue) (read : Obj → Except BacnetError PropertyValue)
    (r : Except BacnetError Unit × Obj) : Prop :=
  r.1 = .ok () → ∃ x, converted = some x ∧ read r.2 = .ok x

theorem Acknowledged.refused {e : BacnetError} : Acknowledged converted read (.error e, o) := nofun

theorem Acknowledged.assign {v : Option α} {set : α → Obj} {present : α → PropertyValue}
    (converts : ∀ a, v = some a → converted = some (present a))
    (reads : ∀ a, read (set a) = .ok (present a)) : Acknowledged converted read (assign o v set) := by
  intro ok
  obtain ⟨a, accepted, left⟩ := assign_ok ok
  exact ⟨present a, converts a accepted, by rw [left, reads]⟩

end Answers

section Conversions
variable {v : PropertyValue} {b : Bool}

theorem real_of_asF32 {f : F32} (read : v.asF32 = some f) :
    ReadKind.real.convert v = some (.real f) := congrArg (Option.map PropertyValue.real) read

theorem real_of_real? {f : F32} (read : v.real? = some f) :
    ReadKind.real.convert v = some (.real f) := by
  cases v with
  | real g => cases read; rfl
  | _ => cases read

theorem truth_of_asBool (read : v.asBool = some b) : truth? v = some b := by
  cases v with
  | boolean c | enumerated n => cases read; rfl
  | _ => cases read

theorem truth_of_boolean? (read : v.boolean? = some b) : truth? v = some b := by
  cases v with
  | boolean c => cases read; rfl
  | _ => cases read

theorem boolean_of_truth (read : truth? v = some b) :
    ReadKind.boolean.convert v = some (.boolean b) := congrArg (Option.map PropertyValue.boolean) read

theorem binary_of_truth (read : truth? v = some b) :
    ReadKind.binary.convert v = some (.enumerated (boolCode b)) :=
  congrArg (Option.map fun b => PropertyValue.enumerated (boolCode b)) read

theorem plain_of_string {s : String} (read : v.characterString? = some s) :
    ReadKind.plain.convert v = some (.characterString s) := by
  cases v with
  | characterString t => cases read; rfl
  | _ => cases read

theorem plain_of_unsigned {n : UInt32} (read : v.unsigned? = some n) :
    ReadKind.plain.convert v = some (.unsigned n) := by
  cases v with
  | unsigned m => cases read; rfl
  | _ => cases read

end Conversions

variable (now later : Now) (p : PropertyIdentifier) (v : PropertyValue)

theorem AnalogInput.acknowledged (o : AnalogInput) :
    Acknowledged (((Object.analogInput o).kind p).convert v) (·.readProperty p)
      (o.writeProperty now p v) := by
  unfold writeProperty
  split
  · exact .assign (fun _ read => boolean_of_truth (truth_of_asBool read)) fun _ => rfl
  · split
    · exact .refused
    · exact .assign (fun _ read => real_of_asF32 read) fun _ => rfl
  · exact .assign (fun _ read => real_of_asF32 read) fun _ => rfl
  · exact .assign (fun _ read => plain_of_string read) fun _ => rfl
  · exact .refused

theorem AnalogOutput.acknowledged (o : AnalogOutput) (i : Option UInt32) (pri : Option UInt8)
    (other : p ≠ .presentValue) :
    Acknowledged (((Object.analogOutput o).kind p).convert v) (·.readProperty p i)
      (o.writeProperty now p v pri) := by
  unfold writeProperty
  split
  · exact absurd rfl other
  · exact .assign (fun _ read => boolean_of_truth (truth_of_asBool read)) fun _ => rfl
  · exact .assign (fun _ read => plain_of_string read) fun _ => rfl
  · exact .refused

theorem AnalogValue.acknowledged (o : AnalogValue) :
    Acknowledged (((Object.analogValue o).kind p).convert v) (·.readProperty p)
      (o.writeProperty now p v) := by
  unfold writeProperty
  split
  · exact .assign (fun _ read => real_of_real? read) fun _ => rfl
  · exact .assign (fun _ read => boolean_of_truth (truth_of_boolean? read)) fun _ => rfl
  · exact .assign (fun _ read => plain_of_string read) fun _ => rfl
  · exact .refused

theorem BinaryInput.acknowledged (o : BinaryInput) :
    Acknowledged (((Object.binaryInput o).kind p).convert v) (·.readProperty p)
      (o.writeProperty now p v) := by
  unfold writeProperty
  split
  · exact .assign (fun _ read => boolean_of_truth (truth_of_asBool read)) fun _ => rfl
  · split
    · exact .assign (fun _ read => binary_of_truth (truth_of_asBool read)) fun _ => rfl
    · exact .refused
  · exact .refused

theorem BinaryOutput.acknowledged (o : BinaryOutput) (pri : Option UInt8) (other : p ≠ .presentValue) :
    Acknowledged (((Object.binaryOutput o).kind p).convert v) (·.readProperty p)
      (o.writeProperty now p v pri) := by
  unfold writeProperty
  split
  · exact absurd rfl other
  · exact .assign (fun _ read => boolean_of_truth (truth_of_boolean? read)) fun _ => rfl
  · exact .refused

theorem BinaryValue.presentValueOf_eq (v : PropertyValue) : presentValueOf v = truth? v := by
  cases v <;> rfl

theorem BinaryValue.acknowledged (o : BinaryValue) :
    Acknowledged (((Object.binaryValue o).kind p).convert v) (·.readProperty p)
      (o.writeProperty now p v) := by
  unfold writeProperty
  split
  · rw [presentValueOf_eq]
    exact .assign (fun _ read => boolean_of_truth read) fun _ => rfl
  · exact .assign (fun _ read => boolean_of_truth (truth_of_boolean? read)) fun _ => rfl
  · exact .refused

theorem MultiStateInput.acknowledged (o : MultiStateInput) :
    Acknowledged (((Object.multiStateInput o).kind p).convert v) (·.readProperty p)
      (o.writeProperty now p v) := by
  unfold writeProperty
  split
  · exact .assign (fun _ read => boolean_of_truth (truth_of_boolean? read)) fun _ => rfl
  · split
    · split
      · split
        · exact fun _ => ⟨_, rfl, rfl⟩
        · exact .refused
      · exact .refused
    · exact .refused
  · exact .refused

theorem Schedule.acknowledged (o : Schedule) :
    Acknowledged (((Object.schedule o).kind p).convert v) (·.readProperty p)
      (o.writeProperty p v) := by
  unfold writeProperty
  split
  · split
    · exact fun _ => ⟨v, rfl, rfl⟩
    · exact .refused
  · exact .assign (fun _ read => boolean_of_truth (truth_of_boolean? read)) fun _ => rfl
  · exact fun _ => ⟨v, rfl, rfl⟩
  · exact .refused

theorem asSecs_fromSecs (n : UInt32) : UInt32.ofNat (Duration.fromSecs n.toNat).asSecs = n := by
  rw [Duration.asSecs, Duration.fromSecs, Nat.mul_div_cancel _ (by decide), UInt32.ofNat_toNat]

theorem TrendLog.acknowledged (o : TrendLog) (other : p ≠ .recordCount) :
    Acknowledged (((Object.trendLog o).kind p).convert v) (·.readProperty p)
      (o.writeProperty p v) := by
  unfold writeProperty
  split
  · exact .assign (fun _ read => boolean_of_truth (truth_of_boolean? read)) fun _ => rfl
  · exact .assign (fun _ read => boolean_of_truth (truth_of_boolean? read)) fun _ => rfl
  · exact absurd rfl other
  · refine .assign (fun _ read => plain_of_unsigned read) fun n => ?_
    exact congrArg (fun secs => Except.ok (PropertyValue.unsigned secs)) (asSecs_fromSecs n)
  · exact .refused

/-- The record count takes the value 0, and keeps any other value that it has already. -/
theorem TrendLog.recordCount_reads_iff (o : TrendLog) :
    (o.writeProperty .recordCount v).2.readProperty .recordCount = .ok v ↔
      v = .unsigned 0 ∨ v = .unsigned o.recordCount := by
  by_cases zero : v = .unsigned 0
  · subst zero
    exact iff_of_true rfl (.inl rfl)
  · rw [write_recordCount zero, or_iff_right zero]
    exact ⟨fun read => (Except.ok.inj read).symm, fun same => congrArg Except.ok same.symm⟩

variable {now p v}

def Object.Counts (v : PropertyValue) : Object → Prop
  | trendLog log => v = .unsigned 0 ∨ v = .unsigned log.recordCount
  | _ => True

/-- What is read after an acknowledged write is what was written, as the property's kind,
exactly when it was not a trend log's record count, or that was cleared or had the value. -/
theorem acknowledged_reads_iff (o : Object) (command : p = .presentValue → ¬ o.IsOutput)
    (ok : (BacnetObject.writeProperty now o p none v none).1 = .ok ()) :
    (∃ x, (o.kind p).convert v = some x ∧
        BacnetObject.readProperty later (BacnetObject.writeProperty now o p none v none).2 p none = .ok x) ↔
      (p = .recordCount → o.Counts v) := by
  cases o with
  | analogInput o => exact iff_of_true (o.acknowledged now p v ok) fun _ => trivial
  | analogOutput o =>
    exact iff_of_true (o.acknowledged now p v none none (fun present => command present trivial) ok)
      fun _ => trivial
  | analogValue o => exact iff_of_true (o.acknowledged now p v ok) fun _ => trivial
  | binaryInput o => exact iff_of_true (o.acknowledged now p v ok) fun _ => trivial
  | binaryOutput o =>
    exact iff_of_true (o.acknowledged now p v none (fun present => command present trivial) ok)
      fun _ => trivial
  | binaryValue o => exact iff_of_true (o.acknowledged now p v ok) fun _ => trivial
  | multiStateInput o => exact iff_of_true (o.acknowledged now p v ok) fun _ => trivial
  | notificationClass o => cases ok
  | schedule o => exact iff_of_true (o.acknowledged p v ok) fun _ => trivial
  | trendLog o =>
    by_cases counter : p = .recordCount
    · subst counter
      rw [imp_iff_right rfl]
      refine Iff.trans ?_ (o.recordCount_reads_iff v)
      constructor
      · rintro ⟨x, converted, read⟩
        cases converted
        exact read
      · exact fun read => ⟨v, rfl, read⟩
    · exact iff_of_true (o.acknowledged p v counter ok) fun count => absurd count counter
  | device o => cases ok

def newLog : Object := .trendLog (.new ⟨⟨0⟩, ⟨0⟩⟩ ⟨1⟩ 1 "TL-1")

theorem newLog_interval_reads : ∃ x, (newLog.kind .logInterval).convert (.unsigned 5) = some x ∧
    BacnetObject.readProperty ⟨⟨1⟩, ⟨1⟩⟩ (BacnetObject.writeProperty ⟨⟨0⟩, ⟨0⟩⟩ newLog .logInterval none
      (.unsigned 5) none).2 .logInterval none = .ok x :=
  (acknowledged_reads_iff (p := .logInterval) ⟨⟨1⟩, ⟨1⟩⟩ newLog nofun rfl).mpr nofun

theorem newLog_count_dropped :
    ¬ ∀ (now later : Now) (o : Object) (p : PropertyIdentifier) (v : PropertyValue),
      (p = .presentValue → ¬ o.IsOutput) →
        (BacnetObject.writeProperty now o p none v none).1 = .ok () →
          ∃ x, (o.kind p).convert v = some x ∧
            BacnetObject.readProperty later (BacnetObject.writeProperty now o p none v none).2 p none =
              .ok x := by
  intro claim
  obtain ⟨x, converted, read⟩ := claim ⟨⟨0⟩, ⟨0⟩⟩ ⟨⟨1⟩, ⟨1⟩⟩ newLog .recordCount (.unsigned 5) nofun rfl
  cases converted
  cases read

end BacnetSim
