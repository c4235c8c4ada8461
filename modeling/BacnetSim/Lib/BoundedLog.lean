import BacnetSim.Lib.Simulation
import Mathlib.Data.List.DropRight

/-! Queues of bounded length. A queue that loses its oldest entry when it is full, and
all of them when it is cleared, is a function of the history: the last entries pushed
since the last clear. -/
namespace BoundedLog

variable {α : Type} {n : Nat}

inductive Event (α : Type) where
  | pushed (a : α)
  | cleared

def Event.entry? : Event α → Option α
  | pushed a => some a
  | cleared => none

def push (n : Nat) (queue : List α) (a : α) : List α :=
  (if queue.length ≥ n then queue.drop 1 else queue) ++ [a]

def Event.apply (n : Nat) (queue : List α) : Event α → List α
  | pushed a => push n queue a
  | cleared => []

def everPushed (events : List (Event α)) : List α := events.filterMap Event.entry?

def sinceClear (events : List (Event α)) : List α :=
  everPushed (events.rtakeWhile fun e => e.entry?.isSome)

theorem length_rtake (items : List α) : (items.rtake n).length = min items.length n := by
  rw [List.rtake_eq_reverse_take_reverse, List.length_reverse, List.length_take, List.length_reverse,
    Nat.min_comm]

theorem push_rtake (room : 1 ≤ n) (items : List α) (a : α) :
    push n (items.rtake n) a = (items ++ [a]).rtake n := by
  obtain ⟨k, rfl⟩ : ∃ k, n = k + 1 := ⟨n - 1, by omega⟩
  rw [List.rtake_concat_succ, push, length_rtake]
  congr 1
  split
  · rw [List.rtake, List.rtake, List.drop_drop]
    congr 1
    omega
  · rw [List.rtake, List.rtake]
    congr 1
    omega

theorem everPushed_concat (events : List (Event α)) (e : Event α) :
    everPushed (events ++ [e]) = everPushed events ++ e.entry?.toList := by
  rw [everPushed, List.filterMap_append]
  cases e <;> rfl

theorem sinceClear_pushed (events : List (Event α)) (a : α) :
    sinceClear (events ++ [.pushed a]) = sinceClear events ++ [a] := by
  rw [sinceClear, List.rtakeWhile_concat_pos _ _ _ rfl, everPushed_concat]
  rfl

theorem sinceClear_cleared (events : List (Event α)) : sinceClear (events ++ [.cleared]) = [] := by
  rw [sinceClear, List.rtakeWhile_concat_neg _ _ _ Bool.false_ne_true]
  rfl

theorem apply_sinceClear (room : 1 ≤ n) (events : List (Event α)) (e : Event α) :
    e.apply n ((sinceClear events).rtake n) = (sinceClear (events ++ [e])).rtake n := by
  cases e with
  | pushed a => rw [sinceClear_pushed, Event.apply, push_rtake room]
  | cleared =>
    rw [sinceClear_cleared, List.rtake_nil]
    rfl

end BoundedLog
