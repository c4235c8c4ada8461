import BacnetSim.Lib.DelayGate
import BacnetSim.Object.Property

/-! Intrinsic reporting (`alarm_engine.rs`). The limits are of any type with an order, a sum
and a difference; the machine's own is that of binary32. -/
namespace BacnetSim
open Ieee754 DelayGate

instance : LT F32 := ⟨fun x y => x.lt y = true⟩

instance : DecidableLT F32 := fun x y => inferInstanceAs (Decidable (x.lt y = true))

instance : Sub F32 := ⟨F32.sub⟩

instance : Add F32 := ⟨F32.add⟩

inductive IntrinsicAlgorithm (K : Type) where
  | outOfRange (highLimit lowLimit deadband : K)
  | changeOfValue (covIncrement : K)
  | commandFailure (feedbackTimeout : Duration)

structure EventNotification where
  eventObject : ObjectId
  fromState : EventState
  toState : EventState
  timestamp : Instant
  deriving DecidableEq, Repr

structure AlarmStateMachine (K : Type) where
  currentState : EventState
  timeDelay : Duration
  notificationClass : UInt32
  algorithm : IntrinsicAlgorithm K
  transitionStart : Option Instant

section Evaluate
variable {K : Type} [LT K] [DecidableLT K] [Add K] [Sub K]

def newState (highLimit lowLimit deadband : K) (current : EventState) (v : K) : EventState :=
  if highLimit < v then .highLimit
  else if v < lowLimit then .lowLimit
  else
    let inDead : Bool :=
      match current with
      | .highLimit => highLimit - deadband < v
      | .lowLimit => v < lowLimit + deadband
      | _ => false
    if inDead then current else .normal

namespace AlarmStateMachine

/-- `evaluate` on the number that `value.as_f32()` gives. -/
def evaluate (m : AlarmStateMachine K) (value : Option K) (now : Instant) (objectId : ObjectId) :
    Option EventNotification × AlarmStateMachine K :=
  match m.algorithm with
  | .outOfRange highLimit lowLimit deadband =>
    match value with
    | none => (none, m)
    | some v =>
      let newState := newState highLimit lowLimit deadband m.currentState v
      if newState = m.currentState then (none, { m with transitionStart := none })
      else
        let start := m.transitionStart.getD now
        if (now.durationSince start).nanos < m.timeDelay.nanos then
          (none, { m with transitionStart := some start })
        else
          (some ⟨objectId, m.currentState, newState, now⟩,
            { m with currentState := newState, transitionStart := none })
  | _ => (none, m)

end AlarmStateMachine

end Evaluate

def AlarmStateMachine.evaluateValue (m : AlarmStateMachine F32) (value : PropertyValue)
    (now : Instant) (objectId : ObjectId) : Option EventNotification × AlarmStateMachine F32 :=
  m.evaluate value.asF32 now objectId

-- 101 is above a limit of 100.
example : ((AlarmStateMachine.mk .normal ⟨0⟩ 0 (.outOfRange ⟨0x42C80000⟩ ⟨0⟩ ⟨0⟩) none).evaluateValue
    (.unsigned 101) ⟨5⟩ ⟨.analogInput, 1⟩).2.currentState = .highLimit := by decide

structure AlarmCall (K : Type) where
  value : K
  now : Instant
  objectId : ObjectId

section Gate
variable {K : Type} [LT K] [DecidableLT K] [Add K] [Sub K] {high low deadband : K}
  {delay : Duration} {m : AlarmStateMachine K}

def alarmGate (high low deadband : K) (delay : Duration) :
    Gate (AlarmStateMachine K) (AlarmCall K) EventState EventNotification where
  delay := delay.nanos
  current m := m.currentState
  pending m := m.transitionStart.map Instant.nanos
  target m c := newState high low deadband m.currentState c.value
  now c := c.now.nanos
  next m c := (m.evaluate (some c.value) c.now c.objectId).2
  report m c := (m.evaluate (some c.value) c.now c.objectId).1
  left n := n.fromState
  entered n := n.toState
  stamp n := n.timestamp.nanos

structure Configured (high low deadband : K) (delay : Duration) (m : AlarmStateMachine K) : Prop where
  algorithm : m.algorithm = .outOfRange high low deadband
  timeDelay : m.timeDelay = delay

theorem evaluate_outOfRange (set : Configured high low deadband delay m) (c : AlarmCall K) :
    m.evaluate (some c.value) c.now c.objectId =
      if newState high low deadband m.currentState c.value = m.currentState then
        (none, { m with transitionStart := none })
      else if (c.now.durationSince (m.transitionStart.getD c.now)).nanos < delay.nanos then
        (none, { m with transitionStart := some (m.transitionStart.getD c.now) })
      else
        (some ⟨c.objectId, m.currentState, newState high low deadband m.currentState c.value, c.now⟩,
          { m with
            currentState := newState high low deadband m.currentState c.value
            transitionStart := none }) := by
  rw [AlarmStateMachine.evaluate, set.algorithm, set.timeDelay]

theorem alarmGate_start (m : AlarmStateMachine K) (c : AlarmCall K) :
    (alarmGate high low deadband delay).start m c = (m.transitionStart.getD c.now).nanos := by
  change (m.transitionStart.map Instant.nanos).getD c.now.nanos = _
  cases m.transitionStart <;> rfl

theorem alarmGate_lawful :
    (alarmGate high low deadband delay).Lawful (Configured high low deadband delay) where
  kept {m} c set := by
    simp only [alarmGate]
    rw [evaluate_outOfRange set c]
    split
    · exact ⟨set.algorithm, set.timeDelay⟩
    · split
      · exact ⟨set.algorithm, set.timeDelay⟩
      · exact ⟨set.algorithm, set.timeDelay⟩
  outcome {m} c set := by
    have call := evaluate_outOfRange set c
    have start : (alarmGate high low deadband delay).start m c =
        (m.transitionStart.getD c.now).nanos := alarmGate_start m c
    split at call
    · rename_i same
      have stays := congrArg (fun r => r.2.currentState) call
      have stopped := congrArg (fun r => r.2.transitionStart.map Instant.nanos) call
      exact .settled same (congrArg Prod.fst call) stays stopped
    · rename_i differs
      split at call
      · rename_i early
        have stays := congrArg (fun r => r.2.currentState) call
        have runs := congrArg (fun r => r.2.transitionStart.map Instant.nanos) call
        exact .waiting differs (by rw [start]; exact early) (congrArg Prod.fst call) stays
          (by rw [start]; exact runs)
      · rename_i due
        have moved := congrArg (fun r => r.2.currentState) call
        have stopped := congrArg (fun r => r.2.transitionStart.map Instant.nanos) call
        exact .reported _ differs (by rw [start]; exact Nat.not_lt.mp due) (congrArg Prod.fst call)
          rfl rfl rfl moved stopped

end Gate

end BacnetSim
