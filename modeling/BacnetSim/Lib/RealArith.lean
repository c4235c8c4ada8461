import BacnetSim.Lib.Ieee754
import Mathlib.Algebra.Order.Group.Abs

/-! The arithmetic of a change filter: as the machine does it, and over exact numbers. -/
namespace Ieee754

structure RealArith where
  /-- `(new - old).abs() >= increment`. -/
  reaches (old new increment : F32) : Bool
  maxZero (v : F32) : F32

def RealArith.ieee : RealArith where
  reaches old new increment := (new.sub old).abs.ge increment
  maxZero := F32.maxZero

theorem RealArith.reaches_same_iff {old new increment : F32} (same : new.eq old = true) :
    RealArith.ieee.reaches old new increment = true ↔
      new.isInfinite = false ∧ increment.isNan = false ∧ increment.scaled ≤ 0 := by
  change (new.sub old).abs.ge increment = true ↔ _
  rw [F32.abs_sub_of_eq same, F32.ge]
  cases inf : new.isInfinite with
  | true => exact iff_of_false (by simp [F32.isNan, F32.exponent, F32.fraction]) (by simp)
  | false =>
    have zero : (⟨0⟩ : F32).isNan = false ∧ (⟨0⟩ : F32).scaled = 0 := by decide
    simp [zero]
/-- The numbers that the patterns stand for, in any ordered group. -/
structure ExactReals (K : Type) [AddCommGroup K] [LinearOrder K] where
  num : F32 → K
  num_zero : num ⟨0⟩ = 0

namespace ExactReals

def scaled : ExactReals Int := ⟨F32.scaled, by decide⟩

variable {K : Type} [AddCommGroup K] [LinearOrder K] (x : ExactReals K)

def arith : RealArith where
  reaches old new increment := x.num increment ≤ |x.num new - x.num old|
  maxZero v := if x.num v < 0 then ⟨0⟩ else v

theorem reaches_iff {old new increment : F32} :
    x.arith.reaches old new increment = true ↔ x.num increment ≤ |x.num new - x.num old| :=
  decide_eq_true_iff

theorem num_maxZero (v : F32) : x.num (x.arith.maxZero v) = max (x.num v) 0 := by
  unfold arith
  simp only
  split
  · rename_i negative
    rw [x.num_zero, max_eq_right negative.le]
  · rename_i positive
    rw [max_eq_left (not_lt.mp positive)]

end ExactReals

end Ieee754
