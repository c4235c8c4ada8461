import BacnetSim.Object.Acknowledged
import BacnetSim.Sim.Walk

/-! A write that was acknowledged is read back by any client, until a step names the object again. -/
namespace BacnetSim
open Rust Ieee754 Transitions PropertyValue

/-- What is read after an acknowledged write. The array indices are ignored, and so is the priority
but for the present value of an output. -/
theorem Object.acknowledged {now : Now} {p : PropertyIdentifier} {v : PropertyValue} (o : Object)
    (later : Now) (i j : Option UInt32) (pri : Option UInt8) (command : p = .presentValue → ¬ o.IsOutput)
    (count : p ≠ .recordCount) :
    Acknowledged ((o.kind p).convert v) (BacnetObject.readProperty later · p j)
      (BacnetObject.writeProperty now o p i v pri) := by
  cases o with
  | analogInput o => exact o.acknowledged now p v
  | analogOutput o => exact o.acknowledged now p v j pri fun present => command present trivial
  | analogValue o => exact o.acknowledged now p v
  | binaryInput o => exact o.acknowledged now p v
  | binaryOutput o => exact o.acknowledged now p v pri fun present => command present trivial
  | binaryValue o => exact o.acknowledged now p v
  | multiStateInput o => exact o.acknowledged now p v
  | notificationClass o => exact .refused
  | schedule o => exact o.acknowledged p v
  | trendLog o => exact o.acknowledged p v count
  | device o => exact .refused

namespace Simulator
variable {M R N : Type} {start s s' : Simulator M R}

/-- What a task has left to send of some frames, when it has sent the others. -/
def Sending (s : Simulator M R) (task : Nat) (frames : List OutboundFrame) : Prop :=
  ∃ given rest, given ++ rest = frames ∧ s.tasks[task]? = some (.sending rest) ∧
    ∀ frame ∈ given, frame ∈ s.outbound

def task? : Event N → Option Nat
  | .start task _ | .serve task _ | .read task _ | .send task => some task
  | _ => none

variable [ValueModel M R] [JsonNumber N] {hash : Hasher} {arith : RealArith} {text : ApiText N}
  {past : List (Event N)} {r : ObjectRef}

theorem next_others {task : Nat} {t : FrameTask} {e : Event N} (taken : s.next hash arith text e = some s')
    (other : task? e ≠ some task) (there : s.tasks[task]? = some t) : s'.tasks[task]? = some t := by
  cases next_effect taken with
  | heard => exact (List.getElem?_append_left (List.getElem?_eq_some_iff.mp there).1).trans there
  | answered | unresolved | resolved | served | entered | read | gathered | sent =>
    exact (List.getElem?_set_ne fun own => other (congrArg some own)).trans there
  | _ => exact there

theorem next_outbound {e : Event N} (taken : s.next hash arith text e = some s') :
    s.outbound <+: s'.outbound := by
  cases next_effect taken with
  | sent => exact List.prefix_append _ _
  | _ => exact List.prefix_refl _

theorem Sending.step {task : Nat} {frames : List OutboundFrame} {e : Event N} (sending : s.Sending task frames)
    (taken : s.next hash arith text e = some s') : s'.Sending task frames := by
  obtain ⟨given, rest, all, there, sent⟩ := sending
  by_cases own : task? e = some task
  · cases next_effect taken with
    | @sent other frame rest' pending =>
      cases own
      cases pending.symm.trans there
      refine ⟨given ++ [frame], rest', by rw [← all, List.append_assoc]; rfl, ?_, ?_⟩
      · exact List.getElem?_set_self (List.getElem?_eq_some_iff.mp there).1
      · intro sentFrame mem
        rcases List.mem_append.mp mem with before | now
        · exact List.mem_append_left _ (sent sentFrame before)
        · exact List.mem_append_right _ now
    | answered pending | unresolved pending | resolved pending | served pending | entered pending
    | read pending | gathered pending =>
      cases own
      cases pending.symm.trans there
    | _ => cases own
  · exact ⟨given, rest, all, next_others taken own there, fun frame mem =>
      (next_outbound taken).subset (sent frame mem)⟩

end Simulator

end BacnetSim
