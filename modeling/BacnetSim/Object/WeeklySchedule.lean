import BacnetSim.Object.Calendar
import BacnetSim.Object.Special

/-! Which slot of a weekly schedule is active. The pass over a day keeps the slot
that is listed last, which is the latest one only where the order of the list says so. -/
namespace BacnetSim

namespace DailySchedule
variable {d : DailySchedule} {t : UInt32} {slot latest : TimeValue}

def started (d : DailySchedule) (t : UInt32) : List TimeValue :=
  d.slots.filter fun slot => t ≥ slot.timeOfDaySecs

structure Latest (d : DailySchedule) (t : UInt32) (slot : TimeValue) : Prop where
  started : slot ∈ d.started t
  greatest : ∀ other ∈ d.started t, other.timeOfDaySecs ≤ slot.timeOfDaySecs

theorem mem_started : slot ∈ d.started t ↔ slot ∈ d.slots ∧ slot.timeOfDaySecs ≤ t := by
  simp only [started, List.mem_filter, decide_eq_true_eq, ge_iff_le]

/-- Each slot that has started replaces the one before it, so the last one listed stays. -/
theorem activeAt_eq (d : DailySchedule) (t : UInt32) :
    d.activeAt t = (d.started t).getLast?.map TimeValue.value := by
  obtain ⟨slots⟩ := d
  unfold activeAt started
  induction slots using List.reverseRecOn with
  | nil => rfl
  | append_singleton slots slot ih =>
    rw [List.foldl_append, List.filter_append, ih]
    by_cases begun : t ≥ slot.timeOfDaySecs
    · simp [begun]
    · simp [begun]

theorem started_perm {other : DailySchedule} (perm : d.slots.Perm other.slots) (t : UInt32) :
    (d.started t).Perm (other.started t) := perm.filter _

theorem exists_perm_active (begun : slot ∈ d.started t) :
    ∃ slots, d.slots.Perm slots ∧ (⟨slots⟩ : DailySchedule).activeAt t = some slot.value := by
  obtain ⟨mem, inTime⟩ := mem_started.mp begun
  obtain ⟨before, after, split⟩ := List.append_of_mem mem
  refine ⟨before ++ after ++ [slot], ?_, ?_⟩
  · rw [split, List.append_assoc]
    exact (List.perm_append_singleton slot after).symm.append_left before
  · rw [activeAt_eq, started, List.filter_append]
    simp [inTime]

end DailySchedule

namespace Schedule
variable {o : Schedule} {secs : UInt64}

def weekdayAt (secs : UInt64) : Fin 7 :=
  ⟨(Gregorian.Date.next^[secs.toNat / 86400] unixEpoch).weekday, Nat.mod_lt _ (by decide)⟩

def timeOfDayAt (secs : UInt64) : UInt32 := UInt32.ofNat (secs.toNat % 86400)

def today (o : Schedule) (secs : UInt64) : DailySchedule := o.weeklySchedule.get (weekdayAt secs)

def startedAt (o : Schedule) (secs : UInt64) : List TimeValue :=
  (o.today secs).started (timeOfDayAt secs)

theorem weekdayAt_val (secs : UInt64) : (weekdayAt secs).val = (secs.toNat / 86400 + 3) % 7 := by
  change (Gregorian.Date.next^[secs.toNat / 86400] unixEpoch).dayNumber % 7 = _
  rw [Gregorian.Date.dayNumber_iterate, unixEpoch_dayNumber]
  omega

theorem timeOfDayAt_eq (secs : UInt64) : (secs % 86400).toUInt32 = timeOfDayAt secs := by
  apply UInt32.toNat_inj.mp
  rw [UInt64.toNat_toUInt32, UInt64.toNat_mod, timeOfDayAt, UInt32.toNat_ofNat']
  rfl

theorem evaluateAt_eq (o : Schedule) (secs : UInt64) :
    o.evaluateAt secs = ((o.startedAt secs).getLast?.map TimeValue.value).getD o.scheduleDefault := by
  have day : (⟨(secs.toNat / 86400 + 3) % 7, Nat.mod_lt _ (by decide)⟩ : Fin 7) = weekdayAt secs :=
    Fin.ext (weekdayAt_val secs).symm
  rw [evaluateAt, day, timeOfDayAt_eq, DailySchedule.activeAt_eq]
  rfl

def PicksLatest (o : Schedule) (secs : UInt64) : Prop :=
  (∀ slot, (o.today secs).Latest (timeOfDayAt secs) slot → o.evaluateAt secs = slot.value) ∧
    (o.startedAt secs = [] → o.evaluateAt secs = o.scheduleDefault)

def OrderFree (o : Schedule) (secs : UInt64) : Prop :=
  ∀ (day : Fin 7) (slots : List TimeValue), (o.weeklySchedule.get day).slots.Perm slots →
    ({ o with weeklySchedule := o.weeklySchedule.set day ⟨slots⟩ } : Schedule).evaluateAt secs =
      o.evaluateAt secs

def DistinctTimes (o : Schedule) : Prop :=
  ∀ day : Fin 7, ((o.weeklySchedule.get day).slots.map TimeValue.timeOfDaySecs).Nodup

def OneValue (o : Schedule) (secs : UInt64) : Prop :=
  ∀ slot ∈ o.startedAt secs, ∀ other ∈ o.startedAt secs, slot.value = other.value

theorem evaluateAt_none (none_ : o.startedAt secs = []) : o.evaluateAt secs = o.scheduleDefault := by
  rw [evaluateAt_eq, none_]
  rfl

theorem evaluateAt_last {slot : TimeValue} (last : (o.startedAt secs).getLast? = some slot) :
    o.evaluateAt secs = slot.value := by
  rw [evaluateAt_eq, last]
  rfl

theorem evaluateAt_oneValue (one : o.OneValue secs) {slot : TimeValue}
    (begun : slot ∈ o.startedAt secs) : o.evaluateAt secs = slot.value := by
  cases last : (o.startedAt secs).getLast? with
  | none =>
    rw [List.getLast?_eq_none_iff.mp last] at begun
    cases begun
  | some other =>
    rw [evaluateAt_last last]
    exact one other (List.mem_of_getLast? last) slot begun

theorem picksLatest_iff : o.PicksLatest secs ↔
    ∀ last ∈ (o.startedAt secs).getLast?, ∀ slot, (o.today secs).Latest (timeOfDayAt secs) slot →
      last.value = slot.value := by
  constructor
  · intro picks last listed slot latest
    rw [← picks.1 slot latest, evaluateAt_last listed]
  · intro agrees
    refine ⟨?_, evaluateAt_none⟩
    intro slot latest
    cases last : (o.startedAt secs).getLast? with
    | none =>
      have begun := latest.started
      rw [← startedAt, List.getLast?_eq_none_iff.mp last] at begun
      cases begun
    | some listed => rw [evaluateAt_last last, agrees listed last slot latest]

theorem picksLatest_of_ascending
    (ascending : (o.today secs).slots.Pairwise fun s r => s.timeOfDaySecs < r.timeOfDaySecs) :
    o.PicksLatest secs := by
  rw [picksLatest_iff]
  intro last listed slot latest
  have order : (o.startedAt secs).Pairwise fun s r => s.timeOfDaySecs < r.timeOfDaySecs :=
    ascending.filter _
  obtain ⟨before, split⟩ := List.getLast?_eq_some_iff.mp listed
  have begun := latest.started
  rw [← startedAt, split] at begun
  rcases List.mem_append.mp begun with earlier | here
  · rw [split, List.pairwise_append] at order
    have less := order.2.2 slot earlier last List.mem_cons_self
    exact absurd less (UInt32.not_lt.mpr (latest.greatest last (List.mem_of_getLast? listed)))
  · rw [List.mem_singleton.mp here]

theorem today_set (o : Schedule) (secs : UInt64) (slots : List TimeValue) :
    ({ o with weeklySchedule := o.weeklySchedule.set (weekdayAt secs) ⟨slots⟩ } : Schedule).today secs =
      ⟨slots⟩ := by
  change (o.weeklySchedule.set (weekdayAt secs) ⟨slots⟩)[(weekdayAt secs).val] = _
  exact Vector.getElem_set_self _

theorem oneValue_of_orderFree (free : o.OrderFree secs) : o.OneValue secs := by
  have each : ∀ slot ∈ o.startedAt secs, o.evaluateAt secs = slot.value := by
    intro slot begun
    obtain ⟨slots, perm, active⟩ := DailySchedule.exists_perm_active begun
    rw [← free (weekdayAt secs) slots perm, evaluateAt_eq, startedAt, today_set,
      ← DailySchedule.activeAt_eq, active]
    rfl
  intro slot begun other begun'
  exact (each slot begun).symm.trans (each other begun')

theorem orderFree_of_oneValue (one : o.OneValue secs) : o.OrderFree secs := by
  intro day slots perm
  by_cases here : day = weekdayAt secs
  · subst here
    generalize changed : ({ o with weeklySchedule := _ } : Schedule) = o'
    have same : (o.startedAt secs).Perm (o'.startedAt secs) := by
      rw [← changed]
      unfold startedAt
      rw [today_set]
      exact DailySchedule.started_perm perm _
    have one' : o'.OneValue secs := fun slot begun other begun' =>
      one slot (same.mem_iff.mpr begun) other (same.mem_iff.mpr begun')
    cases list : o.startedAt secs with
    | nil =>
      rw [list] at same
      rw [evaluateAt_none list, evaluateAt_none (List.nil_perm.mp same), ← changed]
    | cons slot rest =>
      have begun : slot ∈ o.startedAt secs := by
        rw [list]
        exact List.mem_cons_self
      rw [evaluateAt_oneValue one begun, evaluateAt_oneValue one' (same.mem_iff.mp begun)]
  · have apart : (weekdayAt secs).val ≠ day.val := fun eq => here (Fin.ext eq.symm)
    have kept : (o.weeklySchedule.set day ⟨slots⟩).get (weekdayAt secs) =
        o.weeklySchedule.get (weekdayAt secs) := by
      change (o.weeklySchedule.set day ⟨slots⟩)[(weekdayAt secs).val] = _
      exact Vector.getElem_set_ne _ _ apart.symm
    rw [evaluateAt_eq, evaluateAt_eq, startedAt, startedAt, today, kept]
    rfl

/-- The active slot is the latest one whatever the order of the list exactly when the
slots that have started carry one value, and in the order at hand exactly when the last
of them carries the value of the latest. -/
theorem evaluateAt_latest_iff (o : Schedule) (secs : UInt64) :
    (o.PicksLatest secs ∧ o.OrderFree secs ↔ o.OneValue secs) ∧
      (o.PicksLatest secs ↔
        ∀ last ∈ (o.startedAt secs).getLast?, ∀ slot,
          (o.today secs).Latest (timeOfDayAt secs) slot → last.value = slot.value) := by
  refine ⟨⟨fun holds => oneValue_of_orderFree holds.2, fun one => ⟨?_, orderFree_of_oneValue one⟩⟩,
    picksLatest_iff⟩
  exact ⟨fun slot latest => evaluateAt_oneValue one latest.started, evaluateAt_none⟩

def eveningFirst : Schedule :=
  { Schedule.new ⟨1⟩ 1 "SCHED-01" with
    weeklySchedule := (Vector.replicate 7 ⟨[]⟩).set 0
      ⟨[⟨18 * 3600, .unsigned 18⟩, ⟨8 * 3600, .unsigned 21⟩]⟩ }

theorem eveningFirst_not_latest :
    ¬ ∀ (o : Schedule) (secs : UInt64), o.DistinctTimes → o.PicksLatest secs ∧ o.OrderFree secs := by
  intro claim
  have distinct : eveningFirst.DistinctTimes := by
    unfold DistinctTimes
    decide
  -- Monday, 1 January 2024, at 19:00
  obtain ⟨picks, _⟩ := claim eveningFirst (1704067200 + 19 * 3600) distinct
  have monday : weekdayAt (1704067200 + 19 * 3600) = 0 := Fin.ext (weekdayAt_val _)
  have evening := picks.1 ⟨18 * 3600, .unsigned 18⟩ (by
    rw [today, monday]
    exact ⟨DailySchedule.mem_started.mpr ⟨List.mem_cons_self, by decide⟩, by decide⟩)
  cases evening

end Schedule

end BacnetSim
