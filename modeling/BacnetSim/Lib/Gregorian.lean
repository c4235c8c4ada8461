import Mathlib.Algebra.BigOperators.Intervals
import Mathlib.Algebra.Order.BigOperators.Group.Finset
import Mathlib.Logic.Function.Iterate

/-! The Gregorian calendar, carried back to the year 1. A date is valid by
construction; its successor is the reference, and counting days agrees with it. -/
namespace Gregorian

section
variable {size : Nat → Nat} {first a b i j : Nat}

def span (size : Nat → Nat) (first stop : Nat) : Nat := ∑ k ∈ Finset.Ico first stop, size k

@[simp] theorem span_self : span size first first = 0 := by simp [span]

theorem span_succ (order : first ≤ a) : span size first (a + 1) = span size first a + size a :=
  Finset.sum_Ico_succ_top order size

variable (size first) in
theorem span_mono (order : a ≤ b) : span size first a ≤ span size first b :=
  Finset.sum_le_sum_of_subset (Finset.Ico_subset_Ico_right order)

theorem span_add_bounds {lo hi : Nat} (bounds : ∀ k, lo ≤ size k ∧ size k ≤ hi)
    (before : first ≤ a) (n : Nat) :
    span size first a + n * lo ≤ span size first (a + n) ∧
      span size first (a + n) ≤ span size first a + n * hi := by
  induction n with
  | zero => simp
  | succ n ih =>
    have last := bounds (a + n)
    have step : span size first (a + n + 1) = span size first (a + n) + size (a + n) :=
      span_succ (by omega)
    rw [Nat.succ_mul, Nat.succ_mul, ← Nat.add_assoc a n 1, step]
    omega

theorem le_of_span (before : first ≤ a) (inside : i < size a)
    (same : span size first a + i = span size first b + j) : b ≤ a := by
  by_contra later
  have next := span_mono size first (Nat.lt_of_not_le later)
  rw [Nat.succ_eq_add_one, span_succ before] at next
  omega

variable (size) in
theorem span_unique (before : first ≤ a) (before' : first ≤ b) (inside : i < size a)
    (inside' : j < size b) (same : span size first a + i = span size first b + j) :
    a = b ∧ i = j := by
  have block : a = b :=
    Nat.le_antisymm (le_of_span before' inside' same.symm) (le_of_span before inside same)
  subst block
  exact ⟨rfl, Nat.add_left_cancel same⟩

end

def IsLeap (y : Nat) : Prop := 4 ∣ y ∧ (100 ∣ y → 400 ∣ y)

instance (y : Nat) : Decidable (IsLeap y) := inferInstanceAs (Decidable (_ ∧ _))

def yearLength (y : Nat) : Nat := if IsLeap y then 366 else 365

def monthLength (y : Nat) : Nat → Nat
  | 2 => if IsLeap y then 29 else 28
  | 4 => 30
  | 6 => 30
  | 9 => 30
  | 11 => 30
  | _ => 31

theorem yearLength_bounds (y : Nat) : 365 ≤ yearLength y ∧ yearLength y ≤ 366 := by
  unfold yearLength
  split <;> omega

theorem monthLength_bounds (y m : Nat) : 1 ≤ monthLength y m ∧ monthLength y m ≤ 31 := by
  unfold monthLength
  repeat' split
  all_goals omega

theorem span_months (y : Nat) : span (monthLength y) 1 13 = yearLength y := by
  by_cases leap : IsLeap y
  · simp [span, yearLength, monthLength, leap, Finset.sum_Ico_succ_top]
  · simp [span, yearLength, monthLength, leap, Finset.sum_Ico_succ_top]

@[ext] structure Date where
  year : Nat
  month : Nat
  day : Nat
  validYear : 1 ≤ year
  validMonth : 1 ≤ month ∧ month ≤ 12
  validDay : 1 ≤ day ∧ day ≤ monthLength year month
  deriving DecidableEq, Repr

namespace Date

def next (d : Date) : Date :=
  if inMonth : d.day < monthLength d.year d.month then
    ⟨d.year, d.month, d.day + 1, d.validYear, d.validMonth, by omega⟩
  else if inYear : d.month < 12 then
    ⟨d.year, d.month + 1, 1, d.validYear, by omega, Nat.le_refl 1, (monthLength_bounds _ _).1⟩
  else ⟨d.year + 1, 1, 1, by omega, by omega, Nat.le_refl 1, (monthLength_bounds _ _).1⟩

def dayNumber (d : Date) : Nat :=
  span yearLength 1 d.year + (span (monthLength d.year) 1 d.month + (d.day - 1))

/-- The first day of the year 1 was a Monday, which is weekday 0. -/
def weekday (d : Date) : Nat := d.dayNumber % 7

theorem dayOfYear_lt (d : Date) :
    span (monthLength d.year) 1 d.month + (d.day - 1) < yearLength d.year := by
  have months := span_mono (monthLength d.year) 1
    (show d.month + 1 ≤ 13 by have := d.validMonth; omega)
  have days := d.validDay
  rw [span_succ d.validMonth.1, span_months] at months
  omega

theorem dayNumber_next (d : Date) : d.next.dayNumber = d.dayNumber + 1 := by
  have days := d.validDay
  have month := d.validMonth
  unfold next
  split
  · simp only [dayNumber]
    omega
  · rename_i monthEnd
    split
    · simp only [dayNumber, span_succ month.1]
      omega
    · rename_i yearEnd
      have december : d.month = 12 := by omega
      have total := span_months d.year
      rw [span_succ (by decide)] at total
      rw [december] at monthEnd days
      simp only [dayNumber, span_succ d.validYear, span_self, december]
      omega

theorem dayNumber_iterate (d : Date) (n : Nat) : (next^[n] d).dayNumber = d.dayNumber + n := by
  induction n with
  | zero => rfl
  | succ n ih => rw [Function.iterate_succ_apply', dayNumber_next, ih, Nat.add_assoc]

theorem dayNumber_injective : Function.Injective dayNumber := by
  intro d e same
  obtain ⟨year, rest⟩ :=
    span_unique yearLength d.validYear e.validYear d.dayOfYear_lt e.dayOfYear_lt same
  have days := d.validDay
  have days' := e.validDay
  rw [year] at rest days
  obtain ⟨month, day⟩ := span_unique (monthLength e.year) d.validMonth.1 e.validMonth.1
    (by omega) (by omega) rest
  exact Date.ext year month (by omega)

theorem eq_iterate_of_dayNumber {d e : Date} {n : Nat} (days : d.dayNumber = e.dayNumber + n) :
    d = next^[n] e := by
  apply dayNumber_injective
  rw [days, dayNumber_iterate]

end Date

end Gregorian
