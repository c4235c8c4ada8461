import Mathlib.Data.Nat.Log
import Mathlib.Tactic.Ring

/-! Bit patterns of binary32 and binary64 numbers, the casts to binary32, and the operations
of binary32. Rounding is to nearest, ties to even; a value past the finite range becomes an
infinity. The payload of a NaN that a cast gives is the truncated one. -/
namespace Ieee754

structure F32 where
  bits : UInt32
  deriving DecidableEq, Repr

structure F64 where
  bits : UInt64
  deriving DecidableEq, Repr

def roundShift (m k : Nat) : Nat :=
  let q := m / 2 ^ k
  let r := 2 * (m % 2 ^ k)
  if 2 ^ k < r || (r == 2 ^ k && q % 2 == 1) then q + 1 else q

def signBit (negative : Bool) : Nat := if negative then 2 ^ 31 else 0

/-- The binary32 pattern of `± m * 2 ^ e`. The quantum `2 ^ q` is that of the
leading bit, or of the subnormals; carries run into the exponent field. -/
def roundF32 (negative : Bool) (m : Nat) (e : Int) : F32 :=
  if m = 0 then ⟨UInt32.ofNat (signBit negative)⟩
  else
    let top := e + Nat.log2 m
    if 127 < top then ⟨UInt32.ofNat (signBit negative + 255 * 2 ^ 23)⟩
    else
      let q := max (top - 23) (-149)
      let r := if e ≤ q then roundShift m (q - e).toNat else m * 2 ^ (e - q).toNat
      ⟨UInt32.ofNat (signBit negative + (q + 149).toNat * 2 ^ 23 + r)⟩

def F32.ofU32 (v : UInt32) : F32 := roundF32 false v.toNat 0

def F32.ofI32 (v : Int32) : F32 := roundF32 (v.toInt < 0) v.toInt.natAbs 0

def F32.ofF64 (v : F64) : F32 :=
  let n := v.bits.toNat
  let negative := n / 2 ^ 63 == 1
  let exponent : Nat := n / 2 ^ 52 % 2 ^ 11
  let fraction := n % 2 ^ 52
  if exponent = 2047 then
    if fraction = 0 then ⟨UInt32.ofNat (signBit negative + 255 * 2 ^ 23)⟩
    else ⟨UInt32.ofNat (signBit negative + 255 * 2 ^ 23 + (2 ^ 22 ||| fraction / 2 ^ 29))⟩
  else if exponent = 0 then roundF32 negative fraction (-1074)
  else roundF32 negative (2 ^ 52 + fraction) (exponent - 1075)

namespace F32

def negative (v : F32) : Bool := v.bits.toNat / 2 ^ 31 == 1

def exponent (v : F32) : Nat := v.bits.toNat / 2 ^ 23 % 2 ^ 8

def fraction (v : F32) : Nat := v.bits.toNat % 2 ^ 23

def isNan (v : F32) : Bool := v.exponent == 255 && v.fraction != 0

def isInfinite (v : F32) : Bool := v.exponent == 255 && v.fraction == 0

/-- The number as a multiple of `2 ^ -149`. An infinity is beyond every finite number. -/
def scaled (v : F32) : Int :=
  let m := if v.exponent = 0 then v.fraction else (2 ^ 23 + v.fraction) * 2 ^ (v.exponent - 1)
  if v.negative then -m else m

def eq (x y : F32) : Bool := !x.isNan && !y.isNan && x.scaled == y.scaled

def ge (x y : F32) : Bool := !x.isNan && !y.isNan && y.scaled ≤ x.scaled

def lt (x y : F32) : Bool := !x.isNan && !y.isNan && x.scaled < y.scaled

def abs (v : F32) : F32 := ⟨v.bits &&& 0x7FFFFFFF⟩

def neg (v : F32) : F32 := ⟨v.bits ^^^ 0x80000000⟩

/-- `x - y`. Of the exact zeros only `-0 - 0` is negative. -/
def sub (x y : F32) : F32 :=
  if x.isNan || y.isNan || (x.isInfinite && y.isInfinite && x.negative == y.negative) then
    ⟨0x7FC00000⟩
  else if x.isInfinite then x
  else if y.isInfinite then y.neg
  else
    let d := x.scaled - y.scaled
    roundF32 (if d = 0 then x.negative && !y.negative else d < 0) d.natAbs (-149)

def add (x y : F32) : F32 := x.sub y.neg

/-- `v.max(0.0)`: a NaN gives way. -/
def maxZero (v : F32) : F32 := if v.isNan || v.scaled < 0 then ⟨0⟩ else v

end F32

namespace F64

def isNan (v : F64) : Bool :=
  v.bits.toNat / 2 ^ 52 % 2 ^ 11 == 2047 && v.bits.toNat % 2 ^ 52 != 0

/-- `x == y`: the two zeros are equal, a NaN is not equal to itself. -/
def eq (x y : F64) : Bool :=
  !x.isNan && !y.isNan && (x.bits == y.bits || (x.bits <<< 1 == 0 && y.bits <<< 1 == 0))

end F64

-- 22.5, and the first integer that binary32 has to round.
example : F32.ofF64 ⟨0x4036800000000000⟩ = ⟨0x41B40000⟩ := by decide
example : F32.ofU32 16777217 = ⟨0x4B800000⟩ := by decide
-- `1.1 - 1.0`, which is not the number nearest to a tenth.
example : F32.sub ⟨0x3F8CCCCD⟩ ⟨0x3F800000⟩ = ⟨0x3DCCCCD0⟩ := by decide

namespace F32
variable {v x y : F32}

def magnitude (v : F32) : Nat :=
  if v.exponent = 0 then v.fraction else (2 ^ 23 + v.fraction) * 2 ^ (v.exponent - 1)

theorem natAbs_scaled (v : F32) : v.scaled.natAbs = v.magnitude := by
  change (if v.negative then -(v.magnitude : Int) else v.magnitude).natAbs = v.magnitude
  split
  · rw [Int.natAbs_neg, Int.natAbs_natCast]
  · exact Int.natAbs_natCast _

theorem magnitude_infinite (infinite : v.isInfinite = true) :
    v.magnitude = 2 ^ 23 * 2 ^ 254 := by
  simp only [isInfinite, Bool.and_eq_true, beq_iff_eq] at infinite
  simp only [magnitude, infinite.1, infinite.2, Nat.add_zero, Nat.reduceEqDiff, if_false,
    Nat.reduceSub]

theorem magnitude_finite (number : v.isNan = false) (finite : v.isInfinite = false) :
    v.magnitude < 2 ^ 23 * 2 ^ 254 := by
  have exponent : v.exponent < 255 := by
    have bound : v.exponent < 256 := Nat.mod_lt _ (by decide)
    have proper : v.exponent ≠ 255 := by
      intro full
      simp [isNan, isInfinite, full] at number finite
      exact finite number
    omega
  have fraction : v.fraction < 2 ^ 23 := Nat.mod_lt _ (by decide)
  unfold magnitude
  split
  · exact Nat.lt_of_lt_of_le fraction (Nat.le_mul_of_pos_right _ (by decide))
  · calc (2 ^ 23 + v.fraction) * 2 ^ (v.exponent - 1)
        ≤ (2 ^ 23 + v.fraction) * 2 ^ 253 :=
          Nat.mul_le_mul_left _ (Nat.pow_le_pow_right (by decide) (by omega))
      _ < (2 ^ 23 + 2 ^ 23) * 2 ^ 253 :=
          Nat.mul_lt_mul_of_pos_right (Nat.add_lt_add_left fraction _) (by decide)
      _ = 2 ^ 23 * 2 ^ 254 := by decide

theorem isInfinite_iff (number : v.isNan = false) :
    v.isInfinite = true ↔ v.magnitude = 2 ^ 23 * 2 ^ 254 := by
  refine ⟨magnitude_infinite, fun top => ?_⟩
  by_contra finite
  exact absurd top (Nat.ne_of_lt (magnitude_finite number (Bool.eq_false_iff.mpr finite)))

theorem negative_of_eq (same : x.scaled = y.scaled) (nonzero : x.magnitude ≠ 0) :
    x.negative = y.negative := by
  have lengths : x.magnitude = y.magnitude := by rw [← natAbs_scaled, same, natAbs_scaled]
  change (if x.negative then -(x.magnitude : Int) else x.magnitude) =
    (if y.negative then -(y.magnitude : Int) else y.magnitude) at same
  rw [← lengths] at same
  cases negX : x.negative <;> cases negY : y.negative <;> simp [negX, negY] at same ⊢ <;> omega

theorem eq_cases (same : x.eq y = true) :
    (x.isInfinite = false ∧ y.isInfinite = false) ∨
      (x.isInfinite = true ∧ y.isInfinite = true ∧ x.negative = y.negative) := by
  simp only [eq, Bool.and_eq_true, Bool.not_eq_true', beq_iff_eq] at same
  obtain ⟨⟨numberX, numberY⟩, same⟩ := same
  have infinite : x.isInfinite = true ↔ y.isInfinite = true := by
    rw [isInfinite_iff numberX, isInfinite_iff numberY, ← natAbs_scaled, ← natAbs_scaled, same]
  cases inf : x.isInfinite with
  | false => exact .inl ⟨rfl, Bool.eq_false_iff.mpr fun infY => by simp [infinite.mpr infY] at inf⟩
  | true =>
    refine .inr ⟨rfl, infinite.mp inf, negative_of_eq same ?_⟩
    rw [magnitude_infinite inf]
    decide

theorem abs_sub_of_eq (same : x.eq y = true) :
    (x.sub y).abs = if x.isInfinite then ⟨0x7FC00000⟩ else ⟨0⟩ := by
  have cases_ := eq_cases same
  simp only [eq, Bool.and_eq_true, Bool.not_eq_true', beq_iff_eq] at same
  obtain ⟨⟨numberX, numberY⟩, same⟩ := same
  rcases cases_ with ⟨finX, finY⟩ | ⟨infX, infY, sign⟩
  · simp only [sub, numberX, numberY, finX, finY, Bool.false_and, Bool.or_false, Bool.false_eq_true,
      if_false, same, Int.sub_self, if_true, Int.natAbs_zero, roundF32]
    cases x.negative && !y.negative <;> rfl
  · simp only [sub, infX, infY, sign, beq_self_eq_true, Bool.and_self, Bool.or_true, if_true]
    rfl

end F32

end Ieee754
