import BacnetSim.Object.Acknowledged
import BacnetSim.Object.Force

/-! What is read of an object after a forced write to its present value was acknowledged.
An output is forced at its last priority only, so that any other command shows instead. -/
namespace BacnetSim
open Ieee754 PropertyValue

section Forcible
variable {Obj : Type} [BacnetObject Obj]

/-- A type of which `expected` says what is read after an accepted write to the present
value, whatever `OutOfService` is. -/
structure Forcible (expected : Obj → PropertyValue → Option PropertyValue) : Prop where
  plain : ∀ {now later : Now} {o : Obj} {v : PropertyValue}, isNull v = false →
    Acknowledged (expected o v) (BacnetObject.readProperty later · .presentValue none)
      (BacnetObject.writeProperty now o .presentValue none v none)
  service : ∀ {now : Now} {o : Obj} {v : PropertyValue} {b : Bool},
    expected (BacnetObject.writeProperty now o .outOfService none (.boolean b) none).2 v = expected o v
  shows_ : ∀ {now later : Now} {o : Obj} {b : Bool},
    BacnetObject.readProperty later
      (BacnetObject.writeProperty now o .outOfService none (.boolean b) none).2 .presentValue none =
        BacnetObject.readProperty later o .presentValue none

theorem Forcible.forced {expected : Obj → PropertyValue → Option PropertyValue}
    {flag : Obj → Option Bool} (forcible : Forcible expected) (rules : WriteRules flag)
    (now later : Now) (o : Obj) {v : PropertyValue} (value : isNull v = false) :
    Acknowledged (expected o v) (BacnetObject.readProperty later · .presentValue none)
      (BacnetObject.forceWriteProperty now o .presentValue v) := by
  rcases forceWriteProperty_cases now o .presentValue v rules with
    ⟨plain, _⟩ | failed | ⟨_, _, retry⟩
  · rw [plain]
    exact forcible.plain value
  · rw [failed]
    exact .refused
  · rw [retry]
    intro ok
    have again : Acknowledged _ (BacnetObject.readProperty later · .presentValue none)
      (retried now o v) := forcible.plain value
    obtain ⟨x, converted, read⟩ := again ok
    exact ⟨x, forcible.service.symm.trans converted, forcible.shows_.trans read⟩

theorem Forcible.boxed {expected : Obj → PropertyValue → Option PropertyValue}
    {flag : Obj → Option Bool} {box : Obj → Object} (forcible : Forcible expected)
    (rules : WriteRules flag) (boxes : Boxes box) {now : Now} (later : Now) {o : Obj}
    {v : PropertyValue} (value : isNull v = false)
    (ok : (BacnetObject.forceWriteProperty now (box o) .presentValue v).1 = .ok ()) :
    ∃ x, expected o v = some x ∧
      BacnetObject.readProperty later (BacnetObject.forceWriteProperty now (box o) .presentValue v).2
        .presentValue none = .ok x := by
  rw [boxes.forceWriteProperty] at ok ⊢
  obtain ⟨x, converted, read⟩ := forcible.forced rules now later o value ok
  exact ⟨x, converted, boxes.reads.trans read⟩

theorem forced_refused {flag : Obj → Option Bool} {box : Obj → Object} (rules : WriteRules flag)
    (boxes : Boxes box) {now : Now} {v : PropertyValue}
    (refused : ∀ o : Obj, (BacnetObject.writeProperty now o .presentValue none v none).1 ≠ .ok ())
    (o : Obj) : (BacnetObject.forceWriteProperty now (box o) .presentValue v).1 ≠ .ok () := by
  rw [boxes.forceWriteProperty]
  rcases forceWriteProperty_cases now o .presentValue v rules with
    ⟨_, ok⟩ | failed | ⟨_, _, retry⟩
  · exact absurd ok (refused o)
  · rw [failed]
    nofun
  · rw [retry]
    exact refused _

end Forcible

def AnalogOutput.lastSlot : Fin numPriorities := Fin.last 15

theorem findSome?_set_last {α : Type} (slots : Vector (Option α) numPriorities) (a : α) :
    (slots.set AnalogOutput.lastSlot (some a)).toList.findSome? id =
      some (((slots.toList.take 15).findSome? id).getD a) := by
  have size : slots.toList.length = 16 := slots.length_toList
  have listed : (slots.set AnalogOutput.lastSlot (some a)).toList = slots.toList.take 15 ++ [some a] := by
    rw [Vector.toList_set, List.set_eq_take_append_cons_drop, if_pos (by rw [size]; decide)]
    exact congrArg (fun rest => _ ++ some a :: rest) (List.drop_eq_nil_of_le (by rw [size]; decide))
  rw [listed, List.findSome?_append]
  cases (slots.toList.take 15).findSome? id <;> rfl

/-- The command that a forced write cannot override: the first one above the last slot. -/
def AnalogOutput.override (o : AnalogOutput) : Option F32 := (o.priorityArray.toList.take 15).findSome? id

def BinaryOutput.override (o : BinaryOutput) : Option Bool := (o.priorityArray.toList.take 15).findSome? id

theorem AnalogOutput.effectiveValue_settled (now : Now) (o : AnalogOutput) (f : F32) :
    (settled now o lastSlot (some f)).effectiveValue = o.override.getD f :=
  congrArg (Option.getD · o.relinquishDefault) (findSome?_set_last o.priorityArray f)

theorem AnalogInput.forcible :
    Forcible fun (_ : AnalogInput) v => ReadKind.real.convert v where
  plain {now _ o v} _ := o.acknowledged now .presentValue v
  service := rfl
  shows_ := rfl

theorem AnalogOutput.forcible :
    Forcible fun (o : AnalogOutput) v => v.asF32.map fun f => .real (o.override.getD f) where
  plain {now later o v} value := by
    change Acknowledged _ _ (o.command now lastSlot v)
    rw [command_value value]
    refine .assign (fun f read => congrArg _ read) fun f => ?_
    exact congrArg (fun w => Except.ok (PropertyValue.real w)) (o.effectiveValue_settled now f)
  service := rfl
  shows_ := rfl

theorem AnalogValue.forcible :
    Forcible fun (_ : AnalogValue) v => ReadKind.real.convert v where
  plain {now _ o v} _ := o.acknowledged now .presentValue v
  service := rfl
  shows_ := rfl

theorem BinaryInput.forcible :
    Forcible fun (_ : BinaryInput) v => ReadKind.binary.convert v where
  plain {now _ o v} _ := o.acknowledged now .presentValue v
  service := rfl
  shows_ := rfl

theorem BinaryOutput.slotOf_value {v : PropertyValue} (value : isNull v = false) :
    slotOf v = (truth? v).map some := by
  cases v with
  | null => cases value
  | _ => rfl

theorem BinaryOutput.forcible :
    Forcible fun (o : BinaryOutput) v =>
      (truth? v).map fun b => .enumerated (boolCode (o.override.getD b)) where
  plain {now later o v} value := by
    change Acknowledged _ _ (assign o (slotOf v) _)
    rw [slotOf_value value]
    cases read : truth? v with
    | none => exact .refused
    | some b =>
      refine fun _ => ⟨_, rfl, ?_⟩
      exact congrArg (fun first => Except.ok (PropertyValue.enumerated (boolCode
        (Option.getD first (o.relinquishDefault == .active))))) (findSome?_set_last o.priorityArray b)
  service := rfl
  shows_ := rfl

theorem BinaryValue.forcible :
    Forcible fun (_ : BinaryValue) v => ReadKind.boolean.convert v where
  plain {now _ o v} _ := o.acknowledged now .presentValue v
  service := rfl
  shows_ := rfl

theorem MultiStateInput.forcible :
    Forcible fun (_ : MultiStateInput) v => ReadKind.plain.convert v where
  plain {now _ o v} _ := o.acknowledged now .presentValue v
  service := rfl
  shows_ := rfl

theorem Schedule.forcible :
    Forcible fun (_ : Schedule) v => ReadKind.plain.convert v where
  plain {_ _ o v} _ := o.acknowledged .presentValue v
  service := rfl
  shows_ := rfl

def Object.Yields (v : PropertyValue) : Object → Prop
  | analogOutput o => ∀ w, o.override = some w → v.asF32 = some w
  | binaryOutput o => ∀ w, o.override = some w → truth? v = some w
  | _ => True

theorem boolCode_injective : Function.Injective boolCode := by
  intro a b same
  cases a <;> cases b <;> cases same <;> rfl

theorem reads_converted_iff {α : Type} {converted first : Option α} {present : α → PropertyValue}
    (injective : Function.Injective present) {read : Except BacnetError PropertyValue} {x : PropertyValue}
    (shown : converted.map (fun a => present (first.getD a)) = some x) (here : read = .ok x) :
    (∃ y, converted.map present = some y ∧ read = .ok y) ↔
      ∀ w, first = some w → converted = some w := by
  cases converted with
  | none => cases shown
  | some a =>
    cases shown
    cases here
    constructor
    · rintro ⟨y, there, same⟩ w found
      cases there
      rw [found] at same
      exact congrArg some (injective (Except.ok.inj same)).symm
    · intro yields
      refine ⟨present a, rfl, ?_⟩
      cases first with
      | none => rfl
      | some b =>
        cases yields b rfl
        rfl

/-- After an acknowledged forced write the value is read, as the kind of the object, exactly
when no other command of an output stands against it. -/
theorem forced_reads_iff {now : Now} (later : Now) (o : Object) {v : PropertyValue}
    (value : isNull v = false)
    (ok : (BacnetObject.forceWriteProperty now o .presentValue v).1 = .ok ()) :
    (∃ x, (o.kind .presentValue).convert v = some x ∧
        BacnetObject.readProperty later (BacnetObject.forceWriteProperty now o .presentValue v).2
          .presentValue none = .ok x) ↔ o.Yields v := by
  cases o with
  | analogInput o =>
    exact iff_of_true (AnalogInput.forcible.boxed AnalogInput.serviceFlag.writeRules ⟨rfl, rfl⟩ later
      value ok) trivial
  | analogOutput o =>
    have boxes : Boxes Object.analogOutput := ⟨rfl, rfl⟩
    obtain ⟨x, shown, read⟩ :=
      AnalogOutput.forcible.boxed AnalogOutput.serviceFlag.writeRules boxes later value ok
    exact reads_converted_iff (fun _ _ => PropertyValue.real.inj) shown read
  | analogValue o =>
    exact iff_of_true (AnalogValue.forcible.boxed AnalogValue.serviceFlag.writeRules ⟨rfl, rfl⟩ later
      value ok) trivial
  | binaryInput o =>
    exact iff_of_true (BinaryInput.forcible.boxed BinaryInput.serviceFlag.writeRules ⟨rfl, rfl⟩ later
      value ok) trivial
  | binaryOutput o =>
    have boxes : Boxes Object.binaryOutput := ⟨rfl, rfl⟩
    obtain ⟨x, shown, read⟩ :=
      BinaryOutput.forcible.boxed BinaryOutput.serviceFlag.writeRules boxes later value ok
    refine reads_converted_iff (fun a b same => ?_) shown read
    exact boolCode_injective (PropertyValue.enumerated.inj same)
  | binaryValue o =>
    exact iff_of_true (BinaryValue.forcible.boxed BinaryValue.serviceFlag.writeRules ⟨rfl, rfl⟩ later
      value ok) trivial
  | multiStateInput o =>
    exact iff_of_true (MultiStateInput.forcible.boxed MultiStateInput.serviceFlag.writeRules ⟨rfl, rfl⟩
      later value ok) trivial
  | notificationClass o =>
    exact absurd ok (forced_refused NotificationClass.writeRules ⟨rfl, rfl⟩ (fun _ => nofun) o)
  | schedule o =>
    exact iff_of_true (Schedule.forcible.boxed Schedule.serviceFlag.writeRules ⟨rfl, rfl⟩ later
      value ok) trivial
  | trendLog o =>
    exact absurd ok (forced_refused TrendLog.serviceFlag.writeRules ⟨rfl, rfl⟩ (fun _ => nofun) o)
  | device o =>
    exact absurd ok (forced_refused DeviceObject.writeRules ⟨rfl, rfl⟩ (fun _ => nofun) o)

inductive Object.Fresh : Object → Prop
  | analogInput (now : Now) (deviceId : DeviceId) (n : UInt32) (name : String)
      (units : EngineeringUnits) : Fresh (.analogInput (.new now deviceId n name units))
  | analogOutput (now : Now) (deviceId : DeviceId) (n : UInt32) (name : String)
      (units : EngineeringUnits) : Fresh (.analogOutput (.new now deviceId n name units))
  | analogValue (now : Now) (deviceId : DeviceId) (n : UInt32) (name : String)
      (units : EngineeringUnits) : Fresh (.analogValue (.new now deviceId n name units))
  | binaryInput (now : Now) (deviceId : DeviceId) (n : UInt32) (name : String) :
      Fresh (.binaryInput (.new now deviceId n name))
  | binaryOutput (now : Now) (deviceId : DeviceId) (n : UInt32) (name : String) :
      Fresh (.binaryOutput (.new now deviceId n name))
  | binaryValue (now : Now) (deviceId : DeviceId) (n : UInt32) (name : String) :
      Fresh (.binaryValue (.new now deviceId n name))
  | multiStateInput (now : Now) (deviceId : DeviceId) (n : UInt32) (name : String) (states : UInt32) :
      Fresh (.multiStateInput (.new now deviceId n name states))
  | schedule (deviceId : DeviceId) (n : UInt32) (name : String) :
      Fresh (.schedule (.new deviceId n name))

def freshValve : Object := .analogOutput (.new ⟨⟨0⟩, ⟨0⟩⟩ ⟨1⟩ 1 "AO-1" .percent)

theorem freshValve_forced : ∃ x, (freshValve.kind .presentValue).convert (.real ⟨0x40A00000⟩) = some x ∧
    BacnetObject.readProperty ⟨⟨2⟩, ⟨2⟩⟩ (BacnetObject.forceWriteProperty ⟨⟨1⟩, ⟨1⟩⟩ freshValve .presentValue
      (.real ⟨0x40A00000⟩)).2 .presentValue none = .ok x :=
  (forced_reads_iff ⟨⟨2⟩, ⟨2⟩⟩ freshValve rfl rfl).mpr nofun

theorem commanded_valve_not_forced :
    ¬ ∀ start : Object, start.Fresh → ∀ (writes : List Write) (now later : Now) (v : PropertyValue),
      isNull v = false →
        (BacnetObject.forceWriteProperty now (writeAll start writes).2 .presentValue v).1 = .ok () →
          ∃ x, ((writeAll start writes).2.kind .presentValue).convert v = some x ∧
            BacnetObject.readProperty later
              (BacnetObject.forceWriteProperty now (writeAll start writes).2 .presentValue v).2
              .presentValue none = .ok x := by
  intro claim
  obtain ⟨x, converted, read⟩ := claim freshValve (.analogOutput ..)
    [⟨⟨⟨1⟩, ⟨1⟩⟩, .presentValue, none, .real ⟨0x3F800000⟩, some 8⟩] ⟨⟨2⟩, ⟨2⟩⟩ ⟨⟨3⟩, ⟨3⟩⟩
    (.real ⟨0x40A00000⟩) rfl rfl
  cases converted
  cases read

end BacnetSim
