import Mathlib.Algebra.Order.Group.Abs

/-! Change filters over exact numbers. A filter passes a value on when it is at least a threshold
away from the last one it passed. Behind a second filter with a reference of its own, the two
thresholds add up. -/
namespace ChangeFilter

variable {K : Type} [AddCommGroup K] [LinearOrder K]

def pass (threshold ref v : K) : K := if threshold ≤ |v - ref| then v else ref

structure Cascade (K : Type) where
  value : K
  first : K
  second : K

def Cascade.step (e c : K) (s : Cascade K) (v : K) : Cascade K :=
  if e ≤ |v - s.first| then ⟨v, v, pass c s.second v⟩ else ⟨v, s.first, s.second⟩

variable [IsOrderedAddMonoid K] {e c d v ref : K} {s : Cascade K}

theorem pass_near (positive : 0 < c) : |v - pass c ref v| < c := by
  unfold pass
  split
  · rwa [sub_self, abs_zero]
  · rename_i near
    exact not_le.mp near

namespace Cascade

structure Bounded (e c d : K) (s : Cascade K) : Prop where
  near : |s.value - s.second| < c ∨ |s.value - s.first| < e
  apart : |s.first - s.second| ≤ max c d
  together : d = 0 → c ≤ e → s.first = s.second

theorem Bounded.start (positive : 0 < c) (v first : K) :
    Bounded e c |first - v| ⟨v, first, v⟩ where
  near := by
    refine .inl ?_
    rwa [sub_self, abs_zero]
  apart := le_max_right _ _
  together same _ := sub_eq_zero.mp (abs_eq_zero.mp same)

theorem Bounded.step (bounded : Bounded e c d s) (positive : 0 < c) (v : K) :
    Bounded e c d (s.step e c v) := by
  unfold Cascade.step
  split
  · rename_i far
    have behind : |v - pass c s.second v| < c := pass_near positive
    refine ⟨.inl behind, behind.le.trans (le_max_left _ _), ?_⟩
    intro same within
    rw [bounded.together same within] at far
    exact (if_pos (within.trans far)).symm
  · rename_i near
    exact ⟨.inr (not_le.mp near), bounded.apart, bounded.together⟩

theorem Bounded.gap_of_zero (bounded : Bounded e c d s) (zero : e = 0) :
    |s.value - s.second| < c := by
  rcases bounded.near with near | near
  · exact near
  · rw [zero] at near
    exact absurd near (abs_nonneg _).not_gt

theorem Bounded.gap_lt (bounded : Bounded e c d s) (positive : 0 < e) :
    |s.value - s.second| < e + max c d := by
  rcases bounded.near with near | near
  · calc |s.value - s.second| < c := near
      _ ≤ max c d := le_max_left _ _
      _ ≤ e + max c d := le_add_of_nonneg_left positive.le
  · calc |s.value - s.second| ≤ |s.value - s.first| + |s.first - s.second| := abs_sub_le _ _ _
      _ < e + max c d := add_lt_add_of_lt_of_le near bounded.apart

omit [IsOrderedAddMonoid K] in
theorem Bounded.gap_of_le (bounded : Bounded e c d s) (same : d = 0) (within : c ≤ e) :
    |s.value - s.second| < e := by
  rcases bounded.near with near | near
  · exact near.trans_le within
  · rwa [← bounded.together same within]

end Cascade

end ChangeFilter
