import BacnetSim.Lib.BoundedLog
import BacnetSim.Object.Special

/-! The buffer and the counters of a trend log, over any run of its calls. -/
namespace BacnetSim
open Rust BoundedLog

inductive LogCall where
  | record (now : Now) (value : PropertyValue)
  | write (now : Now) (p : PropertyIdentifier) (i : Option UInt32) (v : PropertyValue)
    (priority : Option UInt8)
  | tick (now : Now) (system : SystemTime) (period : Duration)

namespace LogCall

def after (o : TrendLog) : LogCall → TrendLog
  | record now value => o.record now value
  | write now p i v priority => (BacnetObject.writeProperty now o p i v priority).2
  | tick now system period => BacnetObject.tick now o system period

/-- What the call means for the log: a value is accepted while the log is enabled and in
service, and writing 0 to the record count clears it. -/
def event? (o : TrendLog) : LogCall → Option (Event TrendLogEntry)
  | record now value =>
    if o.enable = true ∧ o.outOfService = false then some (.pushed ⟨now.system, value⟩) else none
  | write _ .recordCount _ (.unsigned 0) _ => some .cleared
  | _ => none

end LogCall

namespace TrendLog

def run (o : TrendLog) (calls : List LogCall) : List (Option (Event TrendLogEntry)) × TrendLog :=
  runSpec (fun o c => (c.event? o, c.after o)) o calls

def Applied (o o' : TrendLog) : Option (Event TrendLogEntry) → Prop
  | some e => o'.logBuffer = e.apply o.bufferSize o.logBuffer ∧
      o'.recordCount = UInt32.ofNat o'.logBuffer.length ∧
      o'.totalRecordCount.toNat =
        min (o.totalRecordCount.toNat + e.entry?.toList.length) (2 ^ 32 - 1)
  | none => o'.logBuffer = o.logBuffer ∧ o'.recordCount = o.recordCount ∧
      o'.totalRecordCount = o.totalRecordCount

variable {o : TrendLog}

theorem record_applied (now : Now) (o : TrendLog) (value : PropertyValue) :
    (o.record now value).bufferSize = o.bufferSize ∧
      Applied o (o.record now value) ((LogCall.record now value).event? o) := by
  by_cases accepts : o.enable = true ∧ o.outOfService = false
  · have on : (!o.enable || o.outOfService) = false := by simp [accepts]
    have capped : min (o.totalRecordCount.toNat + 1) (2 ^ 32 - 1) < 2 ^ 32 := by omega
    simp only [record, on, LogCall.event?, if_pos accepts, Bool.false_eq_true, if_false]
    refine ⟨trivial, rfl, rfl, ?_⟩
    rw [UInt32.toNat_ofNat']
    exact Nat.mod_eq_of_lt capped
  · have off : (!o.enable || o.outOfService) = true := by
      cases enabled : o.enable <;> cases out : o.outOfService <;> simp [enabled, out] at accepts ⊢
    simp only [record, off, LogCall.event?, if_neg accepts, if_true]
    exact ⟨trivial, rfl, rfl, rfl⟩

/-- Any other value is accepted for the record count, and dropped. -/
theorem write_recordCount {v : PropertyValue} (other : v ≠ .unsigned 0) :
    o.writeProperty .recordCount v = (.ok (), o) := by
  simp only [writeProperty]

theorem write_keeps {p : PropertyIdentifier} (other : p ≠ .recordCount) (v : PropertyValue) :
    (o.writeProperty p v).2.bufferSize = o.bufferSize ∧ Applied o (o.writeProperty p v).2 none := by
  unfold writeProperty
  split
  · cases v.boolean? <;> exact ⟨rfl, rfl, rfl, rfl⟩
  · cases v.boolean? <;> exact ⟨rfl, rfl, rfl, rfl⟩
  · exact absurd rfl other
  · cases v.unsigned? <;> exact ⟨rfl, rfl, rfl, rfl⟩
  · exact ⟨rfl, rfl, rfl, rfl⟩

theorem write_applied (now : Now) (o : TrendLog) (p : PropertyIdentifier) (i : Option UInt32)
    (v : PropertyValue) (priority : Option UInt8) :
    (o.writeProperty p v).2.bufferSize = o.bufferSize ∧
      Applied o (o.writeProperty p v).2 ((LogCall.write now p i v priority).event? o) := by
  unfold LogCall.event?
  split
  · rename_i call
    cases call
  · rename_i call
    cases call
    have low := o.totalRecordCount.toNat_lt
    exact ⟨rfl, rfl, rfl, (Nat.min_eq_left (show o.totalRecordCount.toNat + 0 ≤ _ by omega)).symm⟩
  · rename_i notClear
    by_cases counter : p = .recordCount
    · subst counter
      have other : v ≠ .unsigned 0 := fun zero => notClear now i priority (by rw [zero])
      rw [write_recordCount other]
      exact ⟨rfl, rfl, rfl, rfl⟩
    · exact write_keeps counter v

theorem tick_applied (now : Now) (o : TrendLog) :
    (o.tick now).bufferSize = o.bufferSize ∧ Applied o (o.tick now) none := by
  unfold tick
  split
  · exact ⟨rfl, rfl, rfl, rfl⟩
  · split <;> exact ⟨rfl, rfl, rfl, rfl⟩

theorem after_applied (o : TrendLog) (c : LogCall) :
    (c.after o).bufferSize = o.bufferSize ∧ Applied o (c.after o) (c.event? o) := by
  cases c with
  | record now value => exact record_applied now o value
  | write now p i v priority => exact write_applied now o p i v priority
  | tick now system period => exact tick_applied now o

structure Logged (n : Nat) (events : List (Event TrendLogEntry)) (o : TrendLog) : Prop where
  bufferSize : o.bufferSize = n
  newest : o.logBuffer = (sinceClear events).rtake n
  recordCount : o.recordCount.toNat = o.logBuffer.length
  totalRecordCount : o.totalRecordCount.toNat = min (everPushed events).length (2 ^ 32 - 1)

theorem Logged.step {n : Nat} {events : List (Event TrendLogEntry)} (room : 1 ≤ n)
    (counted : n ≤ 2 ^ 32 - 1) (logged : Logged n events o) (c : LogCall) :
    Logged n (events ++ (c.event? o).toList) (c.after o) := by
  obtain ⟨size, applied⟩ := after_applied o c
  cases meant : c.event? o with
  | none =>
    rw [meant] at applied
    obtain ⟨buffer, count, total⟩ := applied
    rw [Option.toList_none, List.append_nil]
    exact ⟨size.trans logged.bufferSize, buffer.trans logged.newest,
      by rw [count, buffer, logged.recordCount], by rw [total, logged.totalRecordCount]⟩
  | some e =>
    rw [meant] at applied
    obtain ⟨buffer, count, total⟩ := applied
    have newest : (c.after o).logBuffer = (sinceClear (events ++ [e])).rtake n := by
      rw [buffer, logged.bufferSize, logged.newest, apply_sinceClear room]
    have short : (c.after o).logBuffer.length ≤ n := by
      rw [newest, length_rtake]
      exact Nat.min_le_right _ _
    rw [Option.toList_some]
    refine ⟨size.trans logged.bufferSize, newest, ?_, ?_⟩
    · rw [count, UInt32.toNat_ofNat']
      exact Nat.mod_eq_of_lt (by omega)
    · rw [total, logged.totalRecordCount, everPushed_concat, List.length_append]
      omega

/-- Over any run of a new log, the buffer holds the newest of the values accepted since the
last clear, oldest first, and the counters count it and all values ever accepted. -/
theorem run_logged (now : Now) (deviceId : DeviceId) (instanceNumber : UInt32) (name : String)
    {n : Nat} (room : 1 ≤ n) (counted : n ≤ 2 ^ 32 - 1) (calls : List LogCall) :
    Logged n
      ((run { TrendLog.new now deviceId instanceNumber name with bufferSize := n } calls).1.filterMap id)
      (run { TrendLog.new now deviceId instanceNumber name with bufferSize := n } calls).2 := by
  refine runSpec_history (I := fun o answers => Logged n (answers.filterMap id) o)
    ⟨rfl, (List.rtake_nil n).symm, rfl, rfl⟩ ?_ (fun _ _ => trivial : ∀ call ∈ calls, True)
  intro o answers c logged _
  have step := logged.step room counted c
  rw [List.filterMap_append]
  cases meant : c.event? o with
  | none =>
    rw [meant] at step
    exact step
  | some e =>
    rw [meant] at step
    exact step

def smallLog : TrendLog := { TrendLog.new ⟨⟨0⟩, ⟨0⟩⟩ ⟨1⟩ 1 "TL-1" with bufferSize := 2 }

def recordAt (n : Nat) : LogCall := .record ⟨⟨n⟩, ⟨n⟩⟩ (.unsigned (UInt32.ofNat n))

theorem smallLog_logged :
    Logged 2 ((smallLog.run [recordAt 1, recordAt 2, recordAt 3]).1.filterMap id)
      (smallLog.run [recordAt 1, recordAt 2, recordAt 3]).2 :=
  run_logged ⟨⟨0⟩, ⟨0⟩⟩ ⟨1⟩ 1 "TL-1" (by decide) (by decide) _

end TrendLog

end BacnetSim
