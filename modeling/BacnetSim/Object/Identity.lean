import BacnetSim.Object.Command
import BacnetSim.Object.Object

/-! What writes and ticks leave alone: a refused write the whole object, any write or tick what
the object is called. -/
namespace BacnetSim

section Names
variable {Obj : Type} [BacnetObject Obj]

def ids (o : Obj) : DeviceId × ObjectId := (BacnetObject.deviceId o, BacnetObject.objectId o)

structure KeepsIds (Obj : Type) [BacnetObject Obj] : Prop where
  writes : ∀ (now : Now) (o : Obj) (p : PropertyIdentifier) (i : Option UInt32) (v : PropertyValue)
    (pri : Option UInt8), ids (BacnetObject.writeProperty now o p i v pri).2 = ids o
  ticks : ∀ (now : Now) (o : Obj) (system : SystemTime) (period : Duration),
    ids (BacnetObject.tick now o system period) = ids o

theorem forced_invariant {I : Obj → Prop} {now : Now}
    (writes : ∀ o p v, I o → I (BacnetObject.writeProperty now o p none v none).2) {o : Obj}
    (p : PropertyIdentifier) (v : PropertyValue) (held : I o) :
    I (BacnetObject.forceWriteProperty now o p v).2 := by
  have plain := writes o p v held
  unfold BacnetObject.forceWriteProperty
  generalize BacnetObject.writeProperty now o p none v none = written at plain ⊢
  obtain ⟨result, left⟩ := written
  cases result with
  | ok u => exact plain
  | error e =>
    dsimp only at plain ⊢
    by_cases present : p = .presentValue
    · rw [if_pos present]
      split
      · exact plain
      · exact writes _ _ _ (writes _ _ _ (writes _ _ _ plain))
    · rw [if_neg present]
      exact plain

theorem forced_keeps {α : Type} {f : Obj → α} {now : Now}
    (writes : ∀ o p v, f (BacnetObject.writeProperty now o p none v none).2 = f o) (o : Obj)
    (p : PropertyIdentifier) (v : PropertyValue) :
    f (BacnetObject.forceWriteProperty now o p v).2 = f o :=
  forced_invariant (I := fun left => f left = f o) (fun left p v held => (writes left p v).trans held)
    p v rfl

theorem KeepsIds.forced (keeps : KeepsIds Obj) (now : Now) (o : Obj) (p : PropertyIdentifier)
    (v : PropertyValue) : ids (BacnetObject.forceWriteProperty now o p v).2 = ids o :=
  forced_keeps (fun o p v => keeps.writes now o p none v none) o p v

/-- What a write makes of an object: refused, it stays as it was; accepted, it keeps its ids, and
unless the write was to `OutOfService` also its flag. -/
inductive Written {β : Type} (flag : Obj → β) (p : PropertyIdentifier) (o : Obj) :
    Except BacnetError Unit × Obj → Prop
  | refused (e : BacnetError) : Written flag p o (.error e, o)
  | accepted {left : Obj} (names : ids left = ids o)
      (service : p ≠ .outOfService → flag left = flag o) : Written flag p o (.ok (), left)

namespace Written
variable {β : Type} {flag : Obj → β} {p : PropertyIdentifier} {o : Obj}
  {r : Except BacnetError Unit × Obj}

theorem assign {α : Type} {v : Option α} {set : α → Obj} (names : ∀ a, ids (set a) = ids o)
    (service : ∀ a, p ≠ .outOfService → flag (set a) = flag o) :
    Written flag p o (assign o v set) := by
  cases v with
  | none => exact .refused _
  | some a => exact .accepted (names a) (service a)

theorem unchanged (written : Written flag p o r) (failed : r.1 ≠ .ok ()) : r.2 = o := by
  cases written with
  | refused e => rfl
  | accepted names service => exact absurd rfl failed

theorem ids_eq (written : Written flag p o r) : ids r.2 = ids o := by
  cases written with
  | refused e => rfl
  | accepted names service => exact names

theorem flag_eq (written : Written flag p o r) (other : p ≠ .outOfService) : flag r.2 = flag o := by
  cases written with
  | refused e => rfl
  | accepted names service => exact service other

end Written
end Names

theorem AnalogInput.written (now : Now) (o : AnalogInput) (p : PropertyIdentifier) (i : Option UInt32)
    (v : PropertyValue) (pri : Option UInt8) :
    Written (fun o => (o.outOfService, o.statusFlags)) p o (BacnetObject.writeProperty now o p i v pri) := by
  simp only [BacnetObject.writeProperty, writeProperty]
  split
  · exact .assign (fun _ => rfl) fun _ other => absurd rfl other
  · split
    · exact .refused _
    · exact .assign (fun _ => rfl) fun _ _ => rfl
  · exact .assign (fun _ => rfl) fun _ _ => rfl
  · exact .assign (fun _ => rfl) fun _ _ => rfl
  · exact .refused _

theorem AnalogInput.keepsIds : KeepsIds AnalogInput where
  writes now o p i v pri := (written now o p i v pri).ids_eq
  ticks _ _ _ _ := rfl

theorem AnalogOutput.written_command {now : Now} {o : AnalogOutput} {slot : Fin numPriorities}
    {v : PropertyValue} {p : PropertyIdentifier} :
    Written (fun o => (o.outOfService, o.statusFlags)) p o (o.command now slot v) := by
  rcases null_or_value v with rfl | value
  · exact .accepted rfl fun _ => rfl
  · rw [command_value value]
    exact .assign (fun _ => rfl) fun _ _ => rfl

theorem AnalogOutput.written (now : Now) (o : AnalogOutput) (p : PropertyIdentifier) (i : Option UInt32)
    (v : PropertyValue) (pri : Option UInt8) :
    Written (fun o => (o.outOfService, o.statusFlags)) p o (BacnetObject.writeProperty now o p i v pri) := by
  simp only [BacnetObject.writeProperty, writeProperty]
  split
  · split
    · exact written_command
    · exact .refused _
  · exact .assign (fun _ => rfl) fun _ other => absurd rfl other
  · exact .assign (fun _ => rfl) fun _ _ => rfl
  · exact .refused _

theorem AnalogOutput.keepsIds : KeepsIds AnalogOutput where
  writes now o p i v pri := (written now o p i v pri).ids_eq
  ticks _ _ _ _ := rfl

theorem AnalogValue.written (now : Now) (o : AnalogValue) (p : PropertyIdentifier) (i : Option UInt32)
    (v : PropertyValue) (pri : Option UInt8) :
    Written (fun o => (o.outOfService, o.statusFlags)) p o (BacnetObject.writeProperty now o p i v pri) := by
  simp only [BacnetObject.writeProperty, writeProperty]
  split
  · exact .assign (fun _ => rfl) fun _ _ => rfl
  · exact .assign (fun _ => rfl) fun _ other => absurd rfl other
  · exact .assign (fun _ => rfl) fun _ _ => rfl
  · exact .refused _

theorem AnalogValue.keepsIds : KeepsIds AnalogValue where
  writes now o p i v pri := (written now o p i v pri).ids_eq
  ticks _ _ _ _ := rfl

theorem BinaryInput.written (now : Now) (o : BinaryInput) (p : PropertyIdentifier) (i : Option UInt32)
    (v : PropertyValue) (pri : Option UInt8) :
    Written (fun o => (o.outOfService, o.statusFlags)) p o (BacnetObject.writeProperty now o p i v pri) := by
  simp only [BacnetObject.writeProperty, writeProperty]
  split
  · exact .assign (fun _ => rfl) fun _ other => absurd rfl other
  · split
    · exact .assign (fun _ => rfl) fun _ _ => rfl
    · exact .refused _
  · exact .refused _

theorem BinaryInput.keepsIds : KeepsIds BinaryInput where
  writes now o p i v pri := (written now o p i v pri).ids_eq
  ticks _ _ _ _ := rfl

theorem BinaryOutput.written (now : Now) (o : BinaryOutput) (p : PropertyIdentifier) (i : Option UInt32)
    (v : PropertyValue) (pri : Option UInt8) :
    Written (fun o => (o.outOfService, o.statusFlags)) p o (BacnetObject.writeProperty now o p i v pri) := by
  simp only [BacnetObject.writeProperty, writeProperty]
  split
  · exact .assign (fun _ => rfl) fun _ _ => rfl
  · exact .assign (fun _ => rfl) fun _ other => absurd rfl other
  · exact .refused _

theorem BinaryOutput.keepsIds : KeepsIds BinaryOutput where
  writes now o p i v pri := (written now o p i v pri).ids_eq
  ticks _ _ _ _ := rfl

theorem BinaryValue.written (now : Now) (o : BinaryValue) (p : PropertyIdentifier) (i : Option UInt32)
    (v : PropertyValue) (pri : Option UInt8) :
    Written (fun o => (o.outOfService, o.statusFlags)) p o (BacnetObject.writeProperty now o p i v pri) := by
  simp only [BacnetObject.writeProperty, writeProperty]
  split
  · exact .assign (fun _ => rfl) fun _ _ => rfl
  · exact .assign (fun _ => rfl) fun _ other => absurd rfl other
  · exact .refused _

theorem BinaryValue.keepsIds : KeepsIds BinaryValue where
  writes now o p i v pri := (written now o p i v pri).ids_eq
  ticks _ _ _ _ := rfl

theorem MultiStateInput.written (now : Now) (o : MultiStateInput) (p : PropertyIdentifier) (i : Option UInt32)
    (v : PropertyValue) (pri : Option UInt8) :
    Written (fun o => (o.outOfService, o.statusFlags)) p o (BacnetObject.writeProperty now o p i v pri) := by
  simp only [BacnetObject.writeProperty, writeProperty]
  split
  · exact .assign (fun _ => rfl) fun _ other => absurd rfl other
  · split
    · split
      · split
        · exact .accepted rfl fun _ => rfl
        · exact .refused _
      · exact .refused _
    · exact .refused _
  · exact .refused _

theorem MultiStateInput.keepsIds : KeepsIds MultiStateInput where
  writes now o p i v pri := (written now o p i v pri).ids_eq
  ticks _ _ _ _ := rfl

theorem NotificationClass.keepsIds : KeepsIds NotificationClass where
  writes _ _ _ _ _ _ := rfl
  ticks _ _ _ _ := rfl

theorem Schedule.written (now : Now) (o : Schedule) (p : PropertyIdentifier) (i : Option UInt32)
    (v : PropertyValue) (pri : Option UInt8) :
    Written outOfService p o (BacnetObject.writeProperty now o p i v pri) := by
  simp only [BacnetObject.writeProperty, writeProperty]
  split
  · split
    · exact .accepted rfl fun _ => rfl
    · exact .refused _
  · exact .assign (fun _ => rfl) fun _ other => absurd rfl other
  · exact .accepted rfl fun _ => rfl
  · exact .refused _

theorem Schedule.keepsIds : KeepsIds Schedule where
  writes now o p i v pri := (written now o p i v pri).ids_eq
  ticks now o system period := by
    simp only [BacnetObject.tick, tick]
    split <;> rfl

theorem TrendLog.written (now : Now) (o : TrendLog) (p : PropertyIdentifier) (i : Option UInt32)
    (v : PropertyValue) (pri : Option UInt8) :
    Written outOfService p o (BacnetObject.writeProperty now o p i v pri) := by
  simp only [BacnetObject.writeProperty, writeProperty]
  split
  · exact .assign (fun _ => rfl) fun _ _ => rfl
  · exact .assign (fun _ => rfl) fun _ other => absurd rfl other
  · split
    · exact .accepted rfl fun _ => rfl
    · exact .accepted rfl fun _ => rfl
  · exact .assign (fun _ => rfl) fun _ _ => rfl
  · exact .refused _

theorem TrendLog.keepsIds : KeepsIds TrendLog where
  writes now o p i v pri := (written now o p i v pri).ids_eq
  ticks now o system period := by
    simp only [BacnetObject.tick, tick]
    split
    · rfl
    · split <;> rfl

theorem DeviceObject.keepsIds : KeepsIds DeviceObject where
  writes _ _ _ _ _ _ := rfl
  ticks _ _ _ _ := rfl

theorem Object.keepsIds : KeepsIds Object where
  writes now o p i v pri := by
    cases o with
    | analogInput o => exact AnalogInput.keepsIds.writes now o p i v pri
    | analogOutput o => exact AnalogOutput.keepsIds.writes now o p i v pri
    | analogValue o => exact AnalogValue.keepsIds.writes now o p i v pri
    | binaryInput o => exact BinaryInput.keepsIds.writes now o p i v pri
    | binaryOutput o => exact BinaryOutput.keepsIds.writes now o p i v pri
    | binaryValue o => exact BinaryValue.keepsIds.writes now o p i v pri
    | multiStateInput o => exact MultiStateInput.keepsIds.writes now o p i v pri
    | notificationClass o => exact NotificationClass.keepsIds.writes now o p i v pri
    | schedule o => exact Schedule.keepsIds.writes now o p i v pri
    | trendLog o => exact TrendLog.keepsIds.writes now o p i v pri
    | device o => exact DeviceObject.keepsIds.writes now o p i v pri
  ticks now o system period := by
    cases o with
    | analogInput o => exact AnalogInput.keepsIds.ticks now o system period
    | analogOutput o => exact AnalogOutput.keepsIds.ticks now o system period
    | analogValue o => exact AnalogValue.keepsIds.ticks now o system period
    | binaryInput o => exact BinaryInput.keepsIds.ticks now o system period
    | binaryOutput o => exact BinaryOutput.keepsIds.ticks now o system period
    | binaryValue o => exact BinaryValue.keepsIds.ticks now o system period
    | multiStateInput o => exact MultiStateInput.keepsIds.ticks now o system period
    | notificationClass o => exact NotificationClass.keepsIds.ticks now o system period
    | schedule o => exact Schedule.keepsIds.ticks now o system period
    | trendLog o => exact TrendLog.keepsIds.ticks now o system period
    | device o => exact DeviceObject.keepsIds.ticks now o system period

end BacnetSim
