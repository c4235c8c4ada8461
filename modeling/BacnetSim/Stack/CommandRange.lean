import BacnetSim.Codec.WriteRequest
import BacnetSim.Object.Command
import BacnetSim.Object.Object
import BacnetSim.Stack.Dispatcher

/-! A WriteProperty request for the `PresentValue` of an output, whatever number its
priority field has. -/
namespace BacnetSim
open Rust Octets Tags

def PriorityInRange (n : Nat) : Prop := 1 ≤ n ∧ n ≤ numPriorities

instance (n : Nat) : Decidable (PriorityInRange n) := inferInstanceAs (Decidable (_ ∧ _))

/-- A WriteProperty PDU with the number `n` in at most four octets of its priority field. -/
def CarriesPriority (pdu : Bytes) (n : Nat) : Prop :=
  ∃ (flags octet invokeId : UInt8) (b : WriteBody) (v : PropertyValue),
    pdu = flags :: octet :: invokeId :: 15 :: b.octets ∧ b.Holds v ∧
      b.priority.content.length ≤ 4 ∧ beNat b.priority.content = n

theorem CarriesPriority.narrowed {pdu : Bytes} {n : Nat} {req : ConfirmedRequest}
    {w : WritePropertyRequest} (carries : CarriesPriority pdu n)
    (decoded : ConfirmedRequest.decode pdu = .ok req) (write : req.service = .writeProperty w) :
    ∃ p : UInt8, w.priority = some p ∧ p.toNat = n % 256 := by
  obtain ⟨flags, octet, invokeId, b, v, rfl, holds, short, rfl⟩ := carries
  simp only [ConfirmedRequest.decode, UInt8.reduceToNat, WriteBody.decode_octets holds,
    ok_bind] at decoded
  cases decoded
  cases write
  refine ⟨_, rfl, ?_⟩
  rw [UInt32.toNat_toUInt8, ofBe32_toNat_of_short short]

namespace Object

/-- Nothing but the slot of one priority, and what follows from the slots: the present
value of an analog output, and the time of the change. -/
def ChangesAtMost (n : Nat) : Object → Object → Prop
  | analogOutput o, analogOutput o' =>
    o' = { o with
      priorityArray := o'.priorityArray
      presentValue := o'.presentValue
      lastChanged := o'.lastChanged } ∧
    ∀ i : Fin numPriorities, i.val + 1 ≠ n → o'.priorityArray.get i = o.priorityArray.get i
  | binaryOutput o, binaryOutput o' =>
    o' = { o with
      priorityArray := o'.priorityArray
      lastChanged := o'.lastChanged } ∧
    ∀ i : Fin numPriorities, i.val + 1 ≠ n → o'.priorityArray.get i = o.priorityArray.get i
  | _, _ => False

/-- A command at a priority octet is refused: by an analog output for the priority or for
the value, by a binary output for the value alone. -/
def Refuses (priority : Nat) (v : PropertyValue) : Object → Prop
  | analogOutput _ => ¬ PriorityInRange priority ∨ (isNull v = false ∧ v.asF32 = none)
  | binaryOutput _ => BinaryOutput.slotOf v = none
  | _ => False

end Object

def CommandsInRange (n : Nat) (o : Object) (result : Result Unit) (left : Object) : Prop :=
  (PriorityInRange n → o.ChangesAtMost n left) ∧
    (¬ PriorityInRange n → (∃ e, result = fail e) ∧ left = o)

theorem ofExcept_failed_iff {r : Except BacnetError Unit} :
    (∃ e, (ofExcept r : Result Unit) = fail e) ↔ r ≠ .ok () := by
  cases r with
  | ok u => exact iff_of_false nofun fun other => other rfl
  | error e => exact iff_of_true ⟨e, rfl⟩ nofun

section Outputs
variable {w : Write}

theorem AnalogOutput.applyTo_outOfRange {o : AnalogOutput} (out : ¬ w.InRange)
    (present : w.propertyId = .presentValue) : w.applyTo o = (.error .valueOutOfRange, o) := by
  have outside : ¬ (1 ≤ (w.priority.getD 16).toNat ∧ (w.priority.getD 16).toNat ≤ 16) := out
  simp only [Write.applyTo, BacnetObject.writeProperty, writeProperty, present, dif_neg outside]

theorem AnalogOutput.applyTo_refused_iff {o : AnalogOutput}
    (present : w.propertyId = .presentValue) :
    (w.applyTo o).1 ≠ .ok () ↔ (Object.analogOutput o).Refuses w.level w.value := by
  by_cases range : w.InRange
  · have within : PriorityInRange w.level := range
    rw [applyTo_present range present, Object.Refuses, or_iff_right (not_not.mpr within)]
    rcases null_or_value w.value with null | value
    · rw [null]
      exact iff_of_false (fun refused => refused rfl) (fun h => by cases h.1)
    · rw [command_value value, assign_refused_iff, and_iff_right value]
  · rw [applyTo_outOfRange range present]
    exact iff_of_true nofun (.inl range)

theorem AnalogOutput.applyTo_unchanged {o : AnalogOutput} (present : w.propertyId = .presentValue)
    (refused : (w.applyTo o).1 ≠ .ok ()) : (w.applyTo o).2 = o := by
  by_cases range : w.InRange
  · rw [applyTo_present range present] at refused ⊢
    exact command_refused refused
  · rw [applyTo_outOfRange range present]

theorem AnalogOutput.applyTo_changes {o : AnalogOutput} (range : w.InRange)
    (present : w.propertyId = .presentValue) :
    (Object.analogOutput o).ChangesAtMost w.level (.analogOutput (w.applyTo o).2) := by
  by_cases ok : (w.applyTo o).1 = .ok ()
  · rw [applyTo_present range present] at ok ⊢
    rw [(command_ok ok).1]
    refine ⟨rfl, fun i other => get_set_of_ne ?_⟩
    rintro rfl
    exact other (Nat.sub_add_cancel range.1)
  · rw [applyTo_unchanged present ok]
    exact ⟨rfl, fun _ _ => rfl⟩

theorem BinaryOutput.applyTo_eq {o : BinaryOutput} (present : w.propertyId = .presentValue) :
    w.applyTo o = assign o (slotOf w.value) fun entry =>
      { o with
        priorityArray := o.priorityArray.set (clampSlot w.level) entry
        lastChanged := w.now.instant } := by
  simp only [Write.applyTo, BacnetObject.writeProperty, writeProperty, present]
  rfl

theorem BinaryOutput.applyTo_changes {o : BinaryOutput} (range : w.InRange)
    (present : w.propertyId = .presentValue) :
    (Object.binaryOutput o).ChangesAtMost w.level (.binaryOutput (w.applyTo o).2) := by
  rw [applyTo_present range present]
  cases slotOf w.value with
  | none => exact ⟨rfl, fun _ _ => rfl⟩
  | some entry =>
    refine ⟨rfl, fun i other => get_set_of_ne ?_⟩
    rintro rfl
    exact other (Nat.sub_add_cancel range.1)

end Outputs

namespace Object
variable {o : Object} {w : Write}

theorem applyTo_refused_iff (output : o.IsOutput) (present : w.propertyId = .presentValue) :
    (w.applyTo o).1 ≠ .ok () ↔ o.Refuses w.level w.value := by
  cases o with
  | analogOutput o => exact AnalogOutput.applyTo_refused_iff present
  | binaryOutput o =>
    change (w.applyTo o).1 ≠ .ok () ↔ _
    rw [BinaryOutput.applyTo_eq present]
    exact assign_refused_iff
  | _ => exact output.elim

theorem applyTo_unchanged (output : o.IsOutput) (present : w.propertyId = .presentValue)
    (refused : (w.applyTo o).1 ≠ .ok ()) : (w.applyTo o).2 = o := by
  cases o with
  | analogOutput o => exact congrArg analogOutput (AnalogOutput.applyTo_unchanged present refused)
  | binaryOutput o =>
    change (w.applyTo o).1 ≠ .ok () at refused
    change binaryOutput (w.applyTo o).2 = _
    rw [BinaryOutput.applyTo_eq present] at refused ⊢
    rw [assign_refused refused]
  | _ => exact output.elim

theorem applyTo_changes (output : o.IsOutput) (range : w.InRange)
    (present : w.propertyId = .presentValue) : o.ChangesAtMost w.level (w.applyTo o).2 := by
  cases o with
  | analogOutput o => exact AnalogOutput.applyTo_changes range present
  | binaryOutput o => exact BinaryOutput.applyTo_changes range present
  | _ => exact output.elim

end Object

def WritePropertyRequest.call (w : WritePropertyRequest) (now : Now) : Write where
  now
  propertyId := w.propertyId
  arrayIndex := w.arrayIndex
  value := w.value
  priority := w.priority

theorem handleWriteProperty_stored {Obj : Type} [BacnetObject Obj] (hash : Hasher) (now : Now)
    {w : WritePropertyRequest} {store : ObjectStore Obj} {deviceId : DeviceId} {o : Obj}
    (stored : store.lookup hash deviceId w.objectId = some o) :
    handleWriteProperty hash now w store deviceId =
      (ofExcept ((w.call now).applyTo o).1,
        (shardKey hash deviceId w.objectId).put store ((w.call now).applyTo o).2) := by
  simp only [handleWriteProperty, ObjectStore.get_of_lookup hash stored, ObjectRef.writeProperty,
    ObjectStore.object_shardKey hash stored, ok_bind]
  rfl

/-- A request's priority number does what it should when it is in range, or when what is
left of it, or the value, is refused. -/
theorem commandsInRange_iff (hash : Hasher) (now : Now) {pdu : Bytes} {n : Nat}
    (carries : CarriesPriority pdu n) {req : ConfirmedRequest} {w : WritePropertyRequest}
    (decoded : ConfirmedRequest.decode pdu = .ok req) (write : req.service = .writeProperty w)
    (present : w.propertyId = .presentValue) {store : ObjectStore Object} {deviceId : DeviceId}
    {o : Object} (stored : store.lookup hash deviceId w.objectId = some o) (output : o.IsOutput) :
    (∃ left, (handleWriteProperty hash now w store deviceId).2.lookup hash deviceId w.objectId =
        some left ∧
      CommandsInRange n o (handleWriteProperty hash now w store deviceId).1 left) ↔
      PriorityInRange n ∨ o.Refuses (n % 256) w.value := by
  obtain ⟨p, priority, narrowed⟩ := carries.narrowed decoded write
  have level : (w.call now).level = n % 256 := by
    rw [← narrowed, Write.level, WritePropertyRequest.call, priority]
    rfl
  have refuses := Object.applyTo_refused_iff (w := w.call now) output present
  rw [level] at refuses
  change _ ↔ o.Refuses (n % 256) w.value at refuses
  rw [handleWriteProperty_stored hash now stored]
  simp only [ObjectStore.lookup_put, if_true, Option.some.injEq, exists_eq_left']
  by_cases range : PriorityInRange n
  · refine iff_of_true ⟨fun _ => ?_, fun out => absurd range out⟩ (.inl range)
    have whole : (w.call now).level = n := by
      have most : n ≤ 16 := range.2
      omega
    have within : (w.call now).InRange := by
      rw [Write.InRange, whole]
      exact range
    rw [← whole]
    exact Object.applyTo_changes output within present
  · rw [or_iff_right range, ← refuses, ← ofExcept_failed_iff]
    constructor
    · intro obeys
      exact (obeys.2 range).1
    · intro failed
      refine ⟨fun within => absurd within range, fun _ => ⟨failed, ?_⟩⟩
      exact Object.applyTo_unchanged output present (ofExcept_failed_iff.mp failed)

def atStart : Now := ⟨⟨0⟩, ⟨0⟩⟩

def pump : Object := .binaryOutput (.new atStart ⟨1⟩ 1 "pump")

def pumpStore : ObjectStore Object := ObjectStore.new.insert (fun _ _ => 0) ⟨1⟩ pump

def activatePdu (priority : UInt8) : Bytes :=
  [0x00, 0x04, 7, 15, 0x0C, 0x01, 0x00, 0x00, 0x01, 0x19, 85, 0x3E, 0x91, 0x01, 0x3F, 0x49, priority]

theorem activatePdu_carries (priority : UInt8) :
    CarriesPriority (activatePdu priority) priority.toNat := by
  let head : WriteHead :=
    ⟨⟨false, [0x01, 0x00, 0x00, 0x01], fits_of_short (by decide)⟩,
      ⟨false, [85], fits_of_short (by decide)⟩, none, rfl⟩
  have octets : head.octets = [0x0C, 0x01, 0x00, 0x00, 0x01, 0x19, 85, 0x3E] := by decide
  let b : WriteBody := ⟨head, [0x91, 0x01], ⟨false, [priority], fits_of_short (by simp)⟩, []⟩
  have body : b.octets = head.octets ++ [0x91, 0x01, 0x3F, 0x49, priority] := by
    have tag : header true 4 1 = 0x49 := by decide
    have bracket : encodeClosingTag 3 = [0x3F] := by decide
    rw [WriteBody.octets, bracket, ← tag]
    rfl
  refine ⟨0x00, 0x04, 7, b, .enumerated 1, ?_, rfl, by simp [b], by simp [b, beNat]⟩
  rw [body, octets]
  rfl

def activate (priority : UInt8) : WritePropertyRequest :=
  ⟨⟨.binaryOutput, 1⟩, .presentValue, none, .enumerated 1, some priority⟩

def activateRequest (priority : UInt8) : ConfirmedRequest :=
  ⟨false, false, true, .unspecified, 480, 7, none, none, .writeProperty (activate priority)⟩

theorem priority_eight_commands :
    ∃ left, (handleWriteProperty (fun _ _ => 0) atStart (activate 8) pumpStore ⟨1⟩).2.lookup
        (fun _ _ => 0) ⟨1⟩ ⟨.binaryOutput, 1⟩ = some left ∧
      CommandsInRange 8 pump
        (handleWriteProperty (fun _ _ => 0) atStart (activate 8) pumpStore ⟨1⟩).1 left :=
  (commandsInRange_iff (fun _ _ => 0) atStart (activatePdu_carries 8)
    (show ConfirmedRequest.decode (activatePdu 8) = .ok (activateRequest 8) from rfl) rfl rfl
    (show pumpStore.lookup (fun _ _ => 0) ⟨1⟩ ⟨.binaryOutput, 1⟩ = some pump from rfl)
    trivial).mpr (.inl (by decide))

/-- A binary output takes priority 0 for its highest. -/
theorem priority_zero_commands :
    ¬ ∀ (hash : Hasher) (now : Now) (pdu : Bytes) (n : Nat), CarriesPriority pdu n →
      ∀ (req : ConfirmedRequest) (w : WritePropertyRequest), ConfirmedRequest.decode pdu = .ok req →
      req.service = .writeProperty w → w.propertyId = .presentValue →
      ∀ (store : ObjectStore Object) (deviceId : DeviceId) (o : Object),
      store.lookup hash deviceId w.objectId = some o → o.IsOutput →
      ∃ left, (handleWriteProperty hash now w store deviceId).2.lookup hash deviceId w.objectId =
          some left ∧
        CommandsInRange n o (handleWriteProperty hash now w store deviceId).1 left := by
  intro claim
  obtain ⟨left, _, _, rejected⟩ := claim (fun _ _ => 0) atStart (activatePdu 0) 0
    (activatePdu_carries 0) (activateRequest 0) (activate 0) rfl rfl rfl pumpStore ⟨1⟩ pump rfl
    trivial
  obtain ⟨⟨e, error⟩, _⟩ := rejected (by decide)
  cases error

end BacnetSim
