import BacnetSim.Engine.Alarm
import Mathlib.Algebra.Order.Field.Rat

/-! Runs of the out-of-range alarm: what its notifications say, when a lasting condition is
reported, and when the delay of a report was spent on the reported state. -/
namespace BacnetSim
open Rust DelayGate

namespace AlarmStateMachine
variable {K : Type} [LT K] [DecidableLT K] [Add K] [Sub K]

def run (m : AlarmStateMachine K) (calls : List (AlarmCall K)) :
    List (AlarmStateMachine K × AlarmCall K) × AlarmStateMachine K :=
  runSpec (fun m c => ((m, c), (m.evaluate (some c.value) c.now c.objectId).2)) m calls

def after (m : AlarmStateMachine K) (calls : List (AlarmCall K)) : AlarmStateMachine K :=
  (m.run calls).2

def notifications (m : AlarmStateMachine K) (calls : List (AlarmCall K)) : List EventNotification :=
  (m.run calls).1.filterMap fun x => (x.1.evaluate (some x.2.value) x.2.now x.2.objectId).1

end AlarmStateMachine

def InOrder {K : Type} (calls : List (AlarmCall K)) : Prop :=
  calls.Pairwise fun a b => a.now.nanos ≤ b.now.nanos

section Runs
variable {K : Type} [LinearOrder K] [Add K] [Sub K] {high low deadband : K} {delay : Duration}
  {m : AlarmStateMachine K} {calls : List (AlarmCall K)}

structure Justified (high low deadband : K) (v : K) (n : EventNotification) : Prop where
  above : n.toState = .highLimit → high < v
  below : n.toState = .lowLimit → v < low
  within : n.toState = .normal → low ≤ v ∧ v ≤ high ∧
    (n.fromState = .highLimit → v ≤ high - deadband) ∧ (n.fromState = .lowLimit → low + deadband ≤ v)
  other : n.toState = .highLimit ∨ n.toState = .lowLimit ∨ n.toState = .normal

theorem newState_within {v : K} (notHigh : ¬ high < v) (notLow : ¬ v < low) (current : EventState) :
    newState high low deadband current v = current ∨
      (newState high low deadband current v = .normal ∧
        (current = .highLimit → v ≤ high - deadband) ∧
        (current = .lowLimit → low + deadband ≤ v)) := by
  unfold newState
  rw [if_neg notHigh, if_neg notLow]
  cases current with
  | highLimit =>
    by_cases dead : high - deadband < v
    · exact .inl (if_pos (decide_eq_true dead))
    · refine .inr ⟨if_neg ?_, fun _ => not_lt.mp dead, nofun⟩
      exact fun inDead => dead (of_decide_eq_true inDead)
  | lowLimit =>
    by_cases dead : v < low + deadband
    · exact .inl (if_pos (decide_eq_true dead))
    · refine .inr ⟨if_neg ?_, nofun, fun _ => not_lt.mp dead⟩
      exact fun inDead => dead (of_decide_eq_true inDead)
  | _ => exact .inr ⟨rfl, nofun, nofun⟩

theorem newState_justified {v : K} {n : EventNotification}
    (enters : n.toState = newState high low deadband n.fromState v)
    (differs : n.fromState ≠ n.toState) : Justified high low deadband v n := by
  by_cases isHigh : high < v
  · unfold newState at enters
    rw [if_pos isHigh] at enters
    refine ⟨fun _ => isHigh, ?_, ?_, .inl enters⟩
    · exact fun low => by cases enters.symm.trans low
    · exact fun normal => by cases enters.symm.trans normal
  · by_cases isLow : v < low
    · unfold newState at enters
      rw [if_neg isHigh, if_pos isLow] at enters
      refine ⟨?_, fun _ => isLow, ?_, .inr (.inl enters)⟩
      · exact fun high => by cases enters.symm.trans high
      · exact fun normal => by cases enters.symm.trans normal
    · rcases newState_within isHigh isLow n.fromState with same | ⟨normal, fromHigh, fromLow⟩
      · exact absurd (enters.trans same).symm differs
      · have enters := enters.trans normal
        refine ⟨?_, ?_, fun _ => ⟨not_lt.mp isLow, not_lt.mp isHigh, fromHigh, fromLow⟩,
          .inr (.inr enters)⟩
        · exact fun high => by cases enters.symm.trans high
        · exact fun low => by cases enters.symm.trans low

theorem evaluate_reports (set : Configured high low deadband delay m) {c : AlarmCall K}
    {n : EventNotification} (reported : (m.evaluate (some c.value) c.now c.objectId).1 = some n) :
    n.fromState = m.currentState ∧
      n.toState = newState high low deadband m.currentState c.value ∧
      n.fromState ≠ n.toState ∧ n.timestamp = c.now := by
  rw [evaluate_outOfRange set c] at reported
  split at reported
  · cases reported
  · rename_i differs
    split at reported
    · cases reported
    · cases reported
      exact ⟨rfl, rfl, fun same => differs same.symm, rfl⟩

def exampleAlarm : AlarmStateMachine ℚ := ⟨.normal, ⟨10⟩, 0, .outOfRange 10 0 1, none⟩

theorem exampleAlarm_configured : Configured 10 0 1 ⟨10⟩ exampleAlarm := ⟨rfl, rfl⟩

def callAt (v : ℚ) (t : Nat) : AlarmCall ℚ := ⟨v, ⟨t⟩, ⟨.analogInput, 1⟩⟩

/-- Along every run the notifications lead from the first state to the last, each is justified
by the value of its call, and they are at least the delay apart. -/
theorem notifications_justified (set : Configured high low deadband delay m)
    (calls : List (AlarmCall K)) (ordered : InOrder calls) :
    Linked EventNotification.fromState EventNotification.toState m.currentState
        (m.notifications calls) (m.after calls).currentState ∧
      (∀ x ∈ (m.run calls).1, ∀ n, (x.1.evaluate (some x.2.value) x.2.now x.2.objectId).1 = some n →
        n.timestamp = x.2.now ∧ Justified high low deadband x.2.value n) ∧
      (m.notifications calls).IsChain fun n n' =>
        n.timestamp.nanos + delay.nanos ≤ n'.timestamp.nanos := by
  have lawful : (alarmGate high low deadband delay).Lawful (Configured high low deadband delay) :=
    alarmGate_lawful
  -- `m.run` is the run of the gate, call by call
  refine ⟨lawful.linked set ordered, ?_, (lawful.spaced set ordered).apart⟩
  intro x mem n reported
  have found := lawful.visited set calls x mem
  obtain ⟨leaves, enters, differs, stamp⟩ := evaluate_reports found reported
  exact ⟨stamp, newState_justified (leaves ▸ enters) differs⟩

theorem high_then_normal_justified :
    Linked EventNotification.fromState EventNotification.toState .normal
        (exampleAlarm.notifications [callAt 20 0, callAt 20 10, callAt 9 15, callAt 9 30])
        (exampleAlarm.after [callAt 20 0, callAt 20 10, callAt 9 15, callAt 9 30]).currentState ∧
      (∀ x ∈ (exampleAlarm.run [callAt 20 0, callAt 20 10, callAt 9 15, callAt 9 30]).1, ∀ n,
        (x.1.evaluate (some x.2.value) x.2.now x.2.objectId).1 = some n →
          n.timestamp = x.2.now ∧ Justified 10 0 1 x.2.value n) ∧
      (exampleAlarm.notifications [callAt 20 0, callAt 20 10, callAt 9 15, callAt 9 30]).IsChain
        fun n n' => n.timestamp.nanos + 10 ≤ n'.timestamp.nanos :=
  notifications_justified exampleAlarm_configured
    [callAt 20 0, callAt 20 10, callAt 9 15, callAt 9 30] (by unfold InOrder; decide)

theorem newState_above {v : K} (above : high < v) (current : EventState) :
    newState high low deadband current v = .highLimit := by
  unfold newState
  exact if_pos above

theorem newState_below {v : K} (ordered : low ≤ high) (below : v < low) (current : EventState) :
    newState high low deadband current v = .lowLimit := by
  unfold newState
  rw [if_neg (lt_asymm (lt_of_lt_of_le below ordered)), if_pos below]

theorem timer_before {earlier : List (AlarmCall K)} {first : AlarmCall K}
    (set : Configured high low deadband delay m)
    (started : ∀ start, m.transitionStart = some start → start.nanos ≤ first.now.nanos)
    (before : ∀ c ∈ earlier, c.now.nanos ≤ first.now.nanos) :
    ∀ start, (alarmGate high low deadband delay).pending (m.after earlier) = some start →
      start ≤ first.now.nanos := by
  intro start running
  rcases (alarmGate_lawful (K := K)).started set running with here | ⟨c, mem, same⟩
  · obtain ⟨instant, found, rfl⟩ := Option.map_eq_some_iff.mp here
    exact started instant found
  · exact same ▸ before c mem

/-- Values beyond one limit that last for the delay put the machine into the state of that
limit, whatever calls came before them. -/
theorem lasting_alarm (set : Configured high low deadband delay m) (limits : low ≤ high)
    (earlier : List (AlarmCall K)) (first : AlarmCall K) (rest : List (AlarmCall K))
    (started : ∀ start, m.transitionStart = some start → start.nanos ≤ first.now.nanos)
    (ordered : InOrder (earlier ++ first :: rest))
    (lasts : first.now.nanos + delay.nanos ≤
      ((first :: rest).getLast (List.cons_ne_nil _ _)).now.nanos) :
    ((∀ c ∈ first :: rest, high < c.value) →
      (m.after (earlier ++ first :: rest)).currentState = .highLimit) ∧
    ((∀ c ∈ first :: rest, c.value < low) →
      (m.after (earlier ++ first :: rest)).currentState = .lowLimit) := by
  have lawful : (alarmGate high low deadband delay).Lawful (Configured high low deadband delay) :=
    alarmGate_lawful
  have before : ∀ c ∈ earlier, c.now.nanos ≤ first.now.nanos := fun c mem =>
    (List.pairwise_append.mp ordered).2.2 c mem first List.mem_cons_self
  have timer := timer_before set started before
  have reached := lawful.after_valid set earlier
  have split : m.after (earlier ++ first :: rest) = (m.after earlier).after (first :: rest) :=
    Gate.after_append (g := alarmGate high low deadband delay) m earlier (first :: rest)
  rw [split]
  constructor
  · intro above
    exact lawful.reaches reached (fun c mem t _ => newState_above (above c mem) t.currentState)
      timer lasts
  · intro below
    exact lawful.reaches reached
      (fun c mem t _ => newState_below limits (below c mem) t.currentState) timer lasts

theorem lasting_high_reported :
    (exampleAlarm.after [callAt (-1) 0, callAt 20 7, callAt 30 17]).currentState = .highLimit := by
  refine (lasting_alarm exampleAlarm_configured (by decide) [callAt (-1) 0] (callAt 20 7)
    [callAt 30 17] nofun (by unfold InOrder; decide) (by decide)).1 fun c mem => ?_
  rcases List.mem_pair.mp mem with rfl | rfl
  · exact (by decide : (10 : ℚ) < 20)
  · exact (by decide : (10 : ℚ) < 30)

/-- The pending transition that a call finds is not carried over to another target: it was
started at the time of the call, the call computes the state in force, or it computes the
target that the call before it computed. -/
def SteadyTarget (high low deadband : K) (x y : AlarmStateMachine K × AlarmCall K) : Prop :=
  ∀ start, y.1.transitionStart = some start → start = y.2.now ∨
    newState high low deadband y.1.currentState y.2.value = y.1.currentState ∨
    newState high low deadband y.1.currentState y.2.value =
      newState high low deadband x.1.currentState x.2.value

theorem SteadyTarget.steady {x y : AlarmStateMachine K × AlarmCall K}
    (steady : SteadyTarget high low deadband x y) :
    Gate.Steady (alarmGate high low deadband delay) x y := by
  intro start running
  obtain ⟨instant, found, rfl⟩ := Option.map_eq_some_iff.mp running
  rcases steady instant found with fresh | others
  · exact .inl (congrArg Instant.nanos fresh)
  · exact .inr others

/-- A call at time `t` reports: some call not later than `t` less the delay, and every call
from it on, computed the reported state. -/
def HeldForDelay (high low deadband : K) (delay : Duration)
    (done : List (AlarmStateMachine K × AlarmCall K)) (t : Instant) (n : EventNotification) : Prop :=
  ∃ lead first rest, done = lead ++ first :: rest ∧
    first.2.now.nanos + delay.nanos ≤ t.nanos ∧
    ∀ x ∈ first :: rest, newState high low deadband x.1.currentState x.2.value = n.toState

theorem notification_held (set : Configured high low deadband delay m)
    (fresh : m.transitionStart = none) (calls : List (AlarmCall K)) (c : AlarmCall K)
    (ordered : InOrder (calls ++ [c]))
    (steady : (m.run (calls ++ [c])).1.IsChain (SteadyTarget high low deadband))
    {n : EventNotification}
    (reported : ((m.after calls).evaluate (some c.value) c.now c.objectId).1 = some n) :
    HeldForDelay high low deadband delay (m.run (calls ++ [c])).1 c.now n := by
  have lawful : (alarmGate high low deadband delay).Lawful (Configured high low deadband delay) :=
    alarmGate_lawful
  obtain ⟨u, bound, lead, first, rest, split, rfl, all⟩ := lawful.report_held set
    (congrArg (Option.map Instant.nanos) fresh) ordered (steady.imp fun x y => SteadyTarget.steady) reported
  exact ⟨lead, first, rest, split, bound, all⟩

theorem two_high_calls_held :
    HeldForDelay 10 0 1 ⟨10⟩ (exampleAlarm.run [callAt 20 0, callAt 30 10]).1 ⟨10⟩
      ⟨⟨.analogInput, 1⟩, .normal, .highLimit, ⟨10⟩⟩ := by
  refine notification_held exampleAlarm_configured rfl [callAt 20 0] (callAt 30 10)
    (by unfold InOrder; decide) ?_ rfl
  exact .cons_cons (fun _ _ => .inr (.inr rfl)) (.singleton _)

/-- A value above the limits and, when its delay is over, one below them: the second call
reports the low limit, which no call before it has seen. -/
theorem swing_reports_early : ¬ ∀ (high low deadband : ℚ) (delay : Duration)
    (m : AlarmStateMachine ℚ) (calls : List (AlarmCall ℚ)) (c : AlarmCall ℚ),
    Configured high low deadband delay m → m.transitionStart = none → InOrder (calls ++ [c]) →
      ∀ n, ((m.after calls).evaluate (some c.value) c.now c.objectId).1 = some n →
        HeldForDelay high low deadband delay (m.run (calls ++ [c])).1 c.now n := by
  intro claim
  obtain ⟨lead, first, rest, split, bound, all⟩ := claim 10 0 1 ⟨10⟩ exampleAlarm [callAt 20 0]
    (callAt (-1) 10) ⟨rfl, rfl⟩ rfl (by unfold InOrder; decide)
    ⟨⟨.analogInput, 1⟩, .normal, .lowLimit, ⟨10⟩⟩ rfl
  match lead, split with
  | [], split =>
    cases split
    cases all _ List.mem_cons_self
  | [_], split =>
    cases split
    exact absurd bound (by decide)
  | _ :: _ :: _, split =>
    have sizes := congrArg List.length split
    rw [List.length_append, List.length_cons, List.length_cons, List.length_cons] at sizes
    have two : 2 = _ := sizes
    omega

end Runs

end BacnetSim
