import BacnetSim.Engine.SimEngine
import BacnetSim.Object.Forced

/-! What the update of a tick leaves of each type of object, and what is read of it then. -/
namespace BacnetSim
open Rust Ieee754 PropertyValue

theorem AnalogInput.forced (now : Now) (o : AnalogInput) (v : F32) :
    (BacnetObject.forceWriteProperty now o .presentValue (.real v)).2 =
      { o with presentValue := v, lastChanged := now.instant } := by
  cases service : o.outOfService <;>
    simp [BacnetObject.forceWriteProperty, BacnetObject.writeProperty, BacnetObject.readProperty,
      writeProperty, readProperty, assign, asF32, asBool, service]

theorem AnalogValue.forced (now : Now) (o : AnalogValue) (v : F32) :
    (BacnetObject.forceWriteProperty now o .presentValue (.real v)).2 =
      { o with presentValue := v, lastChanged := now.instant } := rfl

theorem AnalogOutput.forced (now : Now) (o : AnalogOutput) (v : F32) :
    (BacnetObject.forceWriteProperty now o .presentValue (.real v)).2 =
      settled now o lastSlot (some v) := rfl

/-- Out of service the value stays, in service the tick puts the schedule's own in its place. -/
theorem Schedule.tick_forced (now : Now) (o : Schedule) (v : F32) (system : SystemTime) :
    ((BacnetObject.forceWriteProperty now o .presentValue (.real v)).2.tick system).presentValue =
      if o.outOfService then .real v else o.evaluateAt (UInt64.ofNat system.unixSecs) := by
  cases service : o.outOfService <;>
    simp [BacnetObject.forceWriteProperty, BacnetObject.writeProperty, BacnetObject.readProperty,
      writeProperty, readProperty, assign, boolean?, service, tick, evaluateAt]

section Boxed
variable {Obj : Type} [BacnetObject Obj] {box : Obj → Object} {period : Duration}
  {clock : TickClock} {ref : ObjectRef} {o : Obj} {v : F32}

structure Wraps (box : Obj → Object) : Prop extends Boxes box where
  ticks : ∀ {now : Now} {o : Obj} {system : SystemTime} {period : Duration},
    BacnetObject.tick now (box o) system period = box (BacnetObject.tick now o system period)

namespace Wraps

theorem driven (wraps : Wraps box) :
    driven period clock ref (box o) v = box (driven period clock ref o v) := by
  rw [BacnetSim.driven, wraps.forceWriteProperty]
  exact wraps.ticks

theorem reads_iff (wraps : Wraps box) {value : PropertyValue}
    (reads : ∀ now, BacnetObject.readProperty now (BacnetSim.driven period clock ref o v)
      .presentValue none = .ok value) :
    (∀ now, BacnetObject.readProperty now (BacnetSim.driven period clock ref (box o) v)
      .presentValue none = .ok (.real v)) ↔ value = .real v := by
  simp only [wraps.driven, wraps.reads, reads, Except.ok.injEq]
  exact ⟨fun same => same (clock.update ref), fun same _ => same⟩

theorem never_reads (wraps : Wraps box)
    (never : ∀ now (o : Obj), BacnetObject.readProperty now o .presentValue none ≠ .ok (.real v)) :
    ¬ ∀ now, BacnetObject.readProperty now (BacnetSim.driven period clock ref (box o) v)
      .presentValue none = .ok (.real v) := by
  intro reads
  have read := reads (clock.update ref)
  rw [wraps.driven, wraps.reads] at read
  exact never _ _ read

end Wraps
end Boxed

namespace Object

theorem analogInput_driven (period : Duration) (clock : TickClock) (ref : ObjectRef)
    (o : AnalogInput) (v : F32) :
    driven period clock ref (analogInput o) v = analogInput
      { o with presentValue := v, lastChanged := (clock.update ref).instant } := by
  have wraps : Wraps analogInput := ⟨⟨rfl, rfl⟩, rfl⟩
  rw [wraps.driven]
  exact congrArg analogInput (o.forced _ v)

def Follows (system : SystemTime) (v : F32) : Object → Prop
  | analogInput _ | analogValue _ => True
  | analogOutput o => ∀ w, o.override = some w → w = v
  | schedule o => o.outOfService = true ∨ o.evaluateAt (UInt64.ofNat system.unixSecs) = .real v
  | _ => False

theorem read_driven_iff (period : Duration) (clock : TickClock) (ref : ObjectRef) (v : F32)
    (o : Object) :
    (∀ now, BacnetObject.readProperty now (driven period clock ref o v) .presentValue none =
      .ok (.real v)) ↔ o.Follows clock.system v := by
  cases o with
  | analogInput o =>
    have wraps : Wraps analogInput := ⟨⟨rfl, rfl⟩, rfl⟩
    have reads : ∀ now : Now, BacnetObject.readProperty now (driven period clock ref o v)
        .presentValue none = .ok (.real v) := by
      intro now
      exact congrArg (fun o : AnalogInput => Except.ok (PropertyValue.real o.presentValue))
        (o.forced _ v)
    exact (wraps.reads_iff reads).trans (iff_of_true rfl trivial)
  | analogValue o =>
    have wraps : Wraps analogValue := ⟨⟨rfl, rfl⟩, rfl⟩
    have reads : ∀ now : Now, BacnetObject.readProperty now (driven period clock ref o v)
        .presentValue none = .ok (.real v) := by
      intro now
      exact congrArg (fun o : AnalogValue => Except.ok (PropertyValue.real o.presentValue))
        (o.forced _ v)
    exact (wraps.reads_iff reads).trans (iff_of_true rfl trivial)
  | analogOutput o =>
    have wraps : Wraps analogOutput := ⟨⟨rfl, rfl⟩, rfl⟩
    have reads : ∀ now : Now, BacnetObject.readProperty now (driven period clock ref o v)
        .presentValue none = .ok (.real (o.override.getD v)) := by
      intro now
      exact congrArg (fun w => Except.ok (PropertyValue.real w)) (o.effectiveValue_settled _ v)
    refine (wraps.reads_iff reads).trans ?_
    rw [Follows, PropertyValue.real.injEq]
    cases o.override with
    | none => simp
    | some w => simp
  | schedule o =>
    have wraps : Wraps schedule := ⟨⟨rfl, rfl⟩, rfl⟩
    have reads : ∀ now : Now, BacnetObject.readProperty now (driven period clock ref o v)
        .presentValue none = .ok (if o.outOfService then .real v
          else o.evaluateAt (UInt64.ofNat clock.system.unixSecs)) := by
      intro now
      exact congrArg Except.ok (o.tick_forced _ v clock.system)
    refine (wraps.reads_iff reads).trans ?_
    rw [Follows]
    cases o.outOfService <;> simp
  | binaryInput o =>
    have wraps : Wraps binaryInput := ⟨⟨rfl, rfl⟩, rfl⟩
    exact iff_of_false (wraps.never_reads fun _ _ read => by cases read) id
  | binaryOutput o =>
    have wraps : Wraps binaryOutput := ⟨⟨rfl, rfl⟩, rfl⟩
    exact iff_of_false (wraps.never_reads fun _ _ read => by cases read) id
  | binaryValue o =>
    have wraps : Wraps binaryValue := ⟨⟨rfl, rfl⟩, rfl⟩
    exact iff_of_false (wraps.never_reads fun _ _ read => by cases read) id
  | multiStateInput o =>
    have wraps : Wraps multiStateInput := ⟨⟨rfl, rfl⟩, rfl⟩
    exact iff_of_false (wraps.never_reads fun _ _ read => by cases read) id
  | notificationClass o =>
    have wraps : Wraps notificationClass := ⟨⟨rfl, rfl⟩, rfl⟩
    exact iff_of_false (wraps.never_reads fun _ _ read => by cases read) id
  | trendLog o =>
    have wraps : Wraps trendLog := ⟨⟨rfl, rfl⟩, rfl⟩
    exact iff_of_false (wraps.never_reads fun _ _ read => by cases read) id
  | device o =>
    have wraps : Wraps device := ⟨⟨rfl, rfl⟩, rfl⟩
    exact iff_of_false (wraps.never_reads fun _ _ read => by cases read) id

end Object

end BacnetSim
