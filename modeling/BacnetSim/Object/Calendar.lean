import BacnetSim.Lib.Gregorian
import BacnetSim.Object.Device
import Mathlib.Tactic.IntervalCases

/-! The clock a device reports. The two subtraction loops invert the counting of
days, so the date is reached from 1 January 1970 by as many days as have passed. -/
namespace BacnetSim
open Gregorian

variable {days year : Nat}

theorem isLeap_iff (y : Nat) : isLeap y = true ↔ IsLeap y := by
  have century : 100 ∣ y → 4 ∣ y := Nat.dvd_trans (by decide)
  simp only [isLeap, IsLeap, Bool.or_eq_true, Bool.and_eq_true, beq_iff_eq, bne_iff_ne]
  omega

theorem daysInYear_eq (y : Nat) : daysInYear y = yearLength y := by
  simp only [daysInYear, yearLength, isLeap_iff]

theorem monthLens_eq (y : Nat) : monthLens y = (List.range' 1 12).map (monthLength y) := by
  simp only [monthLens, isLeap_iff]
  rfl

def yearOfWithin : Nat → Nat → Nat → Option (Nat × Nat)
  | 0, _, _ => none
  | turns + 1, days, year =>
    if days < daysInYear year then some (year, days)
    else yearOfWithin turns (days - daysInYear year) (year + 1)

/-- Every turn takes a year off, so a turn for every 365 days is enough. -/
theorem yearOfWithin_eq {turns : Nat} (enough : days < 365 * turns) :
    yearOfWithin turns days year = some (yearOf days year) := by
  induction turns generalizing days year with
  | zero => exact absurd enough (Nat.not_lt_zero _)
  | succ turns ih =>
    rw [yearOfWithin, yearOf]
    split
    · rfl
    · have long := (yearLength_bounds year).1
      rw [← daysInYear_eq] at long
      exact ih (by omega)

theorem yearOf_place (days : Nat) (positive : 1 ≤ year) :
    1 ≤ (yearOf days year).1 ∧ (yearOf days year).2 < yearLength (yearOf days year).1 ∧
      span yearLength 1 year + days =
        span yearLength 1 (yearOf days year).1 + (yearOf days year).2 := by
  induction days, year using yearOf.induct with
  | case1 days year inside =>
    rw [yearOf, if_pos inside]
    rw [daysInYear_eq] at inside
    exact ⟨positive, inside, rfl⟩
  | case2 days year full ih =>
    rw [yearOf, if_neg full]
    obtain ⟨positive', inside, same⟩ := ih (Nat.le_add_left 1 year)
    rw [daysInYear_eq] at full same
    rw [daysInYear_eq] at inside positive' ⊢
    refine ⟨positive', inside, ?_⟩
    rw [← same, span_succ positive]
    omega

theorem monthOf_place (days i n : Nat)
    (inside : span (monthLength year) 1 (i + 1) + days < span (monthLength year) 1 (i + 1 + n)) :
    ∃ month rest, monthOf days i ((List.range' (i + 1) n).map (monthLength year)) = (month, rest) ∧
      i + 1 ≤ month ∧ month ≤ i + n ∧ rest < monthLength year month ∧
      span (monthLength year) 1 (i + 1) + days = span (monthLength year) 1 month + rest := by
  induction n generalizing i days with
  | zero =>
    rw [Nat.add_zero] at inside
    omega
  | succ n ih =>
    rw [List.range'_succ, List.map_cons, monthOf]
    split
    · rename_i here
      exact ⟨i + 1, days, rfl, Nat.le_refl _, by omega, here, rfl⟩
    · rename_i past
      have step : span (monthLength year) 1 (i + 1 + 1) =
          span (monthLength year) 1 (i + 1) + monthLength year (i + 1) := span_succ (by omega)
      have total : i + 1 + (n + 1) = i + 1 + 1 + n := by omega
      rw [total] at inside
      obtain ⟨month, rest, found, after, within, left, same⟩ :=
        ih (days - monthLength year (i + 1)) (i + 1) (by omega)
      exact ⟨month, rest, found, by omega, by omega, left, by omega⟩

def unixEpoch : Gregorian.Date := ⟨1970, 1, 1, by decide, by decide, by decide⟩

theorem loops_place (days : Nat) :
    ∃ d : Gregorian.Date, d = Gregorian.Date.next^[days] unixEpoch ∧
      (yearOf days 1970).1 = d.year ∧
      monthOf (yearOf days 1970).2 0 (monthLens d.year) = (d.month, d.day - 1) := by
  obtain ⟨positive, inside, years⟩ := yearOf_place days (show 1 ≤ 1970 by decide)
  generalize (yearOf days 1970).1 = year, (yearOf days 1970).2 = rest at *
  rw [← span_months] at inside
  obtain ⟨month, day, found, from_, upTo, within, months⟩ :=
    monthOf_place rest 0 12 (by simpa using inside)
  refine ⟨⟨year, month, day + 1, positive, ⟨from_, by omega⟩, by omega, within⟩, ?_, rfl, ?_⟩
  · apply Gregorian.Date.eq_iterate_of_dayNumber
    simp only [Gregorian.Date.dayNumber, unixEpoch, span_self] at months ⊢
    omega
  · rw [monthLens_eq]
    exact found

theorem unixEpoch_dayNumber : unixEpoch.dayNumber = 719162 := by decide +kernel

theorem weekdayOfEpochDay_code (days : Nat) :
    (weekdayOfEpochDay days).code.toNat = (days + 3) % 7 + 1 := by
  have bound := Nat.mod_lt (days + 3) (show 0 < 7 by decide)
  unfold weekdayOfEpochDay
  generalize (days + 3) % 7 = index at *
  interval_cases index <;> rfl

theorem weekdayOfEpochDay_eq (days : Nat) :
    (weekdayOfEpochDay days).code.toNat = (Gregorian.Date.next^[days] unixEpoch).weekday + 1 := by
  rw [weekdayOfEpochDay_code, Gregorian.Date.weekday, Gregorian.Date.dayNumber_iterate,
    unixEpoch_dayNumber]
  omega

def TellsTime (time : BacnetTime) (secs : Nat) : Prop :=
  time.hour < 24 ∧ time.minute < 60 ∧ time.second < 60 ∧
    time.hour.toNat * 3600 + time.minute.toNat * 60 + time.second.toNat = secs

structure ShowsDate (date : BacnetDate) (d : Gregorian.Date) : Prop where
  year : date.year.toNat = d.year
  month : date.month.toNat = d.month
  day : date.day.toNat = d.day
  weekday : date.weekday.code.toNat = d.weekday + 1

theorem currentUtc_tellsTime (now : SystemTime) :
    TellsTime (currentUtc now).2 (now.unixSecs % 86400) := by
  simp only [TellsTime, currentUtc, UInt8.lt_iff_toNat_lt, UInt8.toNat_ofNat']
  change now.unixSecs / 3600 % 24 % 2 ^ 8 < 24 ∧ now.unixSecs / 60 % 60 % 2 ^ 8 < 60 ∧
    now.unixSecs % 60 % 2 ^ 8 < 60 ∧ _
  omega

/-- Before the year 65536 the year fits the field, and the day count its 32 bits. -/
theorem year_lt_of_before {days n : Nat} {d : Gregorian.Date} (reached : d.dayNumber = days)
    (before : days < span yearLength 1 n) : d.year < n := by
  by_contra later
  have years := span_mono yearLength 1 (Nat.le_of_not_lt later)
  have number : span yearLength 1 d.year ≤ d.dayNumber := Nat.le_add_right _ _
  omega

theorem days_lt_of_before {days : Nat} (before : days < span yearLength 1 65536) :
    days < 2 ^ 32 := by
  have bound : span yearLength 1 65536 ≤ span yearLength 1 1 + 65535 * 366 :=
    (span_add_bounds yearLength_bounds (Nat.le_refl 1) 65535).2
  rw [span_self] at bound
  omega

/-- Before the year 65536 the year loop ends, and the device reports the date that is
so many days after 1 January 1970, its weekday, and the time of day. -/
theorem currentUtc_gregorian (now : SystemTime)
    (before : unixEpoch.dayNumber + now.unixSecs / 86400 < span yearLength 1 65536) :
    yearOfWithin (now.unixSecs / 86400 / 365 + 1) (now.unixSecs / 86400 % 2 ^ 32) 1970 =
        some (yearOf (now.unixSecs / 86400 % 2 ^ 32) 1970) ∧
      ShowsDate (currentUtc now).1 (Gregorian.Date.next^[now.unixSecs / 86400] unixEpoch) ∧
      TellsTime (currentUtc now).2 (now.unixSecs % 86400) := by
  have narrow : now.unixSecs / 86400 % 2 ^ 32 = now.unixSecs / 86400 :=
    Nat.mod_eq_of_lt (days_lt_of_before (Nat.lt_of_le_of_lt (Nat.le_add_left _ _) before))
  refine ⟨?_, ?_, currentUtc_tellsTime now⟩
  · rw [narrow]
    exact yearOfWithin_eq (by omega)
  · obtain ⟨d, reached, year, rest⟩ := loops_place (now.unixSecs / 86400)
    have number := Gregorian.Date.dayNumber_iterate unixEpoch (now.unixSecs / 86400)
    rw [← reached] at number ⊢
    have low := year_lt_of_before number before
    have months := d.validMonth
    have days := d.validDay
    have short := (monthLength_bounds d.year d.month).2
    simp only [currentUtc, narrow, rest, year]
    constructor
    · rw [UInt16.toNat_ofNat']
      exact Nat.mod_eq_of_lt low
    · rw [UInt8.toNat_ofNat']
      exact Nat.mod_eq_of_lt (by omega)
    · rw [UInt8.toNat_ofNat']
      omega
    · rw [weekdayOfEpochDay_eq, reached]

theorem currentUtc_gregorian_leapDay :
    ShowsDate (currentUtc ⟨951782400 * 1000000000⟩).1 (Gregorian.Date.next^[11016] unixEpoch) := by
  have long : span yearLength 1 1 + 65535 * 365 ≤ span yearLength 1 65536 :=
    (span_add_bounds yearLength_bounds (Nat.le_refl 1) 65535).1
  rw [span_self] at long
  refine (currentUtc_gregorian ⟨951782400 * 1000000000⟩ (Nat.lt_of_lt_of_le ?_ long)).2.1
  rw [unixEpoch_dayNumber]
  decide

end BacnetSim
