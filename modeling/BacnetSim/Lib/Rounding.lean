import BacnetSim.Lib.Widening

/-! Products of binary32 numbers, values held between bounds, and the order of binary64. What
rounding gives is never a NaN, and its exponent is bounded by that of the number. -/
namespace Ieee754

namespace F64

def scaled (v : F64) : Int :=
  let exponent : Nat := v.bits.toNat / 2 ^ 52 % 2 ^ 11
  let fraction : Nat := v.bits.toNat % 2 ^ 52
  let m : Nat := if exponent = 0 then fraction else (2 ^ 52 + fraction) * 2 ^ (exponent - 1)
  if v.bits.toNat / 2 ^ 63 = 1 then -m else m

def ge (x y : F64) : Bool := !x.isNan && !y.isNan && y.scaled ≤ x.scaled

end F64

namespace F32

def mul (x y : F32) : F32 :=
  let negative := x.negative != y.negative
  if x.isNan || y.isNan || (x.isInfinite && y.magnitude == 0) || (y.isInfinite && x.magnitude == 0) then
    ⟨0x7FC00000⟩
  else if x.isInfinite || y.isInfinite then ⟨UInt32.ofNat (signBit negative + 255 * 2 ^ 23)⟩
  else roundF32 negative (x.magnitude * y.magnitude) (-298)

def clamp (x low high : F32) : F32 :=
  let x := if x.lt low then low else x
  if high.lt x then high else x

def Between (low high x : F32) : Prop := x.ge low = true ∧ high.ge x = true

instance (low high x : F32) : Decidable (Between low high x) :=
  inferInstanceAs (Decidable (_ ∧ _))

-- Half of three times the smallest number is a tie.
example : mul ⟨3⟩ ⟨0x3F000000⟩ = ⟨2⟩ := by decide

variable {x y low high : F32}

theorem ge_iff : x.ge y = true ↔ x.isNan = false ∧ y.isNan = false ∧ y.scaled ≤ x.scaled := by
  simp [ge, and_assoc]

theorem lt_iff (numberX : x.isNan = false) (numberY : y.isNan = false) :
    x.lt y = true ↔ x.scaled < y.scaled := by simp [lt, numberX, numberY]

theorem Between.number (within : Between low high x) : x.isNan = false := (ge_iff.mp within.1).1

theorem Between.trans {least most : F32} (within : Between least most x) (above : least.ge low = true)
    (below : high.ge most = true) : Between low high x := by
  obtain ⟨number, _, overLeast⟩ := ge_iff.mp within.1
  obtain ⟨_, _, underMost⟩ := ge_iff.mp within.2
  obtain ⟨_, numberLow, overLow⟩ := ge_iff.mp above
  obtain ⟨numberHigh, _, underHigh⟩ := ge_iff.mp below
  exact ⟨ge_iff.mpr ⟨number, numberLow, overLow.trans overLeast⟩,
    ge_iff.mpr ⟨numberHigh, number, underMost.trans underHigh⟩⟩

theorem clamp_between (ordered : high.ge low = true) (number : x.isNan = false) :
    Between low high (x.clamp low high) := by
  obtain ⟨numberHigh, numberLow, bounds⟩ := ge_iff.mp ordered
  unfold clamp
  by_cases below : x.lt low = true
  · rw [if_pos below, if_neg (by rw [lt_iff numberHigh numberLow]; omega)]
    exact ⟨ge_iff.mpr ⟨numberLow, numberLow, le_rfl⟩, ordered⟩
  · rw [if_neg below]
    rw [lt_iff number numberLow] at below
    by_cases above : high.lt x = true
    · rw [if_pos above]
      exact ⟨ordered, ge_iff.mpr ⟨numberHigh, numberHigh, le_rfl⟩⟩
    · rw [if_neg above]
      rw [lt_iff numberHigh number] at above
      exact ⟨ge_iff.mpr ⟨number, numberLow, by omega⟩, ge_iff.mpr ⟨numberHigh, number, by omega⟩⟩

theorem roundShift_le (m k : Nat) : roundShift m k ≤ m / 2 ^ k + 1 := by
  dsimp only [roundShift]
  split <;> omega

end F32

/-- Of a number below `2 ^ (top + 1)` the pattern is bounded, the sign apart. The significand has 24
bits, or one more when rounding carries. -/
theorem roundF32_pattern (negative : Bool) {m : Nat} {e top : Int} (nonzero : m ≠ 0)
    (below : e + (Nat.log2 m : Int) ≤ top) (finite : top ≤ 127) :
    ∃ w, w ≤ (max (top - 23) (-149) + 151).toNat * 2 ^ 23 ∧
      roundF32 negative m e = ⟨UInt32.ofNat (signBit negative + w)⟩ := by
  have most : m < 2 ^ (Nat.log2 m + 1) := (Nat.log2_lt nonzero).mp (Nat.lt_succ_self _)
  obtain ⟨r, significand, same⟩ : ∃ r, r ≤ 2 ^ 24 ∧ roundF32 negative m e = ⟨UInt32.ofNat
      (signBit negative + (max (e + (Nat.log2 m : Int) - 23) (-149) + 149).toNat * 2 ^ 23 + r)⟩ := by
    simp only [roundF32, if_neg nonzero, if_neg (show ¬ 127 < e + (Nat.log2 m : Int) by omega)]
    refine ⟨_, ?_, rfl⟩
    split
    · refine (F32.roundShift_le _ _).trans (Nat.succ_le_of_lt ?_)
      refine Nat.div_lt_of_lt_mul (most.trans_le ?_)
      rw [← Nat.pow_add]
      exact Nat.pow_le_pow_right (by decide) (by omega)
    · have shifted : m * 2 ^ (e - max (e + (Nat.log2 m : Int) - 23) (-149)).toNat <
          2 ^ (Nat.log2 m + 1) * 2 ^ (e - max (e + (Nat.log2 m : Int) - 23) (-149)).toNat :=
        Nat.mul_lt_mul_of_pos_right most (Nat.two_pow_pos _)
      refine shifted.le.trans ?_
      rw [← Nat.pow_add]
      exact Nat.pow_le_pow_right (by decide) (by omega)
  refine ⟨(max (e + (Nat.log2 m : Int) - 23) (-149) + 149).toNat * 2 ^ 23 + r, by omega, ?_⟩
  rw [same, Nat.add_assoc]

theorem fields_of_pattern (negative : Bool) {w : Nat} (small : w < 2 ^ 31) :
    (⟨UInt32.ofNat (signBit negative + w)⟩ : F32).exponent = w / 2 ^ 23 ∧
      (⟨UInt32.ofNat (signBit negative + w)⟩ : F32).fraction = w % 2 ^ 23 := by
  have sign : signBit negative = 0 ∨ signBit negative = 2 ^ 31 := by
    cases negative
    · exact .inl rfl
    · exact .inr rfl
  have number : (UInt32.ofNat (signBit negative + w)).toNat = signBit negative + w := by
    rw [UInt32.toNat_ofNat', Nat.mod_eq_of_lt (by omega)]
  rw [F32.exponent, F32.fraction]
  simp only [number]
  omega

theorem isNan_roundF32 (negative : Bool) (m : Nat) (e : Int) : (roundF32 negative m e).isNan = false := by
  obtain ⟨w, bound, same⟩ : ∃ w, w ≤ 255 * 2 ^ 23 ∧
      roundF32 negative m e = ⟨UInt32.ofNat (signBit negative + w)⟩ := by
    by_cases zero : m = 0
    · exact ⟨0, by omega, by simp [roundF32, zero]⟩
    · by_cases top : e + (Nat.log2 m : Int) ≤ 127
      · have largest : (max ((127 : Int) - 23) (-149) + 151).toNat = 255 := by decide
        have pattern := roundF32_pattern negative zero top le_rfl
        rwa [largest] at pattern
      · refine ⟨255 * 2 ^ 23, le_rfl, ?_⟩
        simp only [roundF32, if_neg zero, if_pos (show 127 < e + (Nat.log2 m : Int) by omega)]
  obtain ⟨exponent, fraction⟩ := fields_of_pattern negative (w := w) (by omega)
  rw [same, F32.isNan, exponent, fraction]
  by_cases full : w = 255 * 2 ^ 23
  · rw [full]
    rfl
  · have short : w / 2 ^ 23 ≠ 255 := by omega
    rw [beq_false_of_ne short, Bool.false_and]

theorem exponent_roundF32 (negative : Bool) {m n : Nat} {e top : Int} (bits : m < 2 ^ n)
    (below : e + n ≤ top + 1) (normal : -126 ≤ top) (finite : top ≤ 127) :
    ((roundF32 negative m e).exponent : Int) ≤ top + 128 := by
  by_cases zero : m = 0
  · rw [roundF32, if_pos zero]
    cases negative
    · change (0 : Int) ≤ _
      omega
    · change (0 : Int) ≤ _
      omega
  · have log : Nat.log2 m < n := (Nat.log2_lt zero).mpr bits
    have place : e + (Nat.log2 m : Int) ≤ top := by omega
    obtain ⟨w, bound, same⟩ := roundF32_pattern negative zero place finite
    obtain ⟨exponent, _⟩ := fields_of_pattern negative (w := w) (by omega)
    rw [same, exponent]
    omega

namespace F32
variable {x y low high : F32}

theorem isFinite_iff : x.isFinite = true ↔ x.isNan = false ∧ x.isInfinite = false := by
  cases exponent : x.exponent == 255 <;> simp [isFinite, isNan, isInfinite, bne, exponent]

theorem magnitude_lt (k : Nat) (bound : x.exponent ≤ k + 1) : x.magnitude < 2 ^ (k + 24) := by
  have fraction := x.fraction_lt
  have step : 2 ^ (k + 24) = 2 ^ 24 * 2 ^ k := by rw [Nat.pow_add, Nat.mul_comm]
  rw [step]
  unfold magnitude
  split
  · exact fraction.trans_le ((Nat.pow_le_pow_right (by decide) (by omega)).trans
      (Nat.le_mul_of_pos_right (2 ^ 24) (Nat.two_pow_pos k)))
  · have powers : 2 ^ (x.exponent - 1) ≤ 2 ^ k := Nat.pow_le_pow_right (by decide) (by omega)
    calc (2 ^ 23 + x.fraction) * 2 ^ (x.exponent - 1) ≤ (2 ^ 23 + x.fraction) * 2 ^ k :=
          Nat.mul_le_mul_left _ powers
      _ < 2 ^ 24 * 2 ^ k := Nat.mul_lt_mul_of_pos_right (by omega) (Nat.two_pow_pos k)

theorem isNan_mul (finiteX : x.isFinite = true) (finiteY : y.isFinite = true) :
    (x.mul y).isNan = false := by
  obtain ⟨numberX, boundedX⟩ := isFinite_iff.mp finiteX
  obtain ⟨numberY, boundedY⟩ := isFinite_iff.mp finiteY
  simp only [mul, numberX, numberY, boundedX, boundedY, Bool.false_and, Bool.or_false,
    Bool.false_eq_true, if_false]
  exact isNan_roundF32 _ _ _

theorem neg_fields (v : F32) : v.neg.exponent = v.exponent ∧ v.neg.fraction = v.fraction := by
  have number : v.neg.bits.toNat = v.bits.toNat ^^^ 2 ^ 31 := by rw [neg, UInt32.toNat_xor]; rfl
  constructor
  · rw [exponent, number, Nat.xor_div_two_pow, Nat.xor_mod_two_pow, exponent]
    exact Nat.xor_zero _
  · rw [fraction, number, Nat.xor_mod_two_pow, fraction]
    exact Nat.xor_zero _

theorem isNan_neg (v : F32) : v.neg.isNan = v.isNan := by
  rw [isNan, v.neg_fields.1, v.neg_fields.2, isNan]

theorem isNan_add (finite : x.isFinite = true) (number : y.isNan = false) : (x.add y).isNan = false := by
  obtain ⟨numberX, boundedX⟩ := isFinite_iff.mp finite
  have numberY : y.neg.isNan = false := y.isNan_neg.trans number
  simp only [add, sub, numberX, numberY, boundedX, Bool.false_and, Bool.or_false, Bool.false_eq_true, if_false]
  split
  · exact y.neg.isNan_neg.trans numberY
  · exact isNan_roundF32 _ _ _

theorem isFinite_of_exponent (below : x.exponent < 255) : x.isFinite = true := by
  rw [isFinite, bne_iff_ne]
  omega

theorem exponent_sub (finiteX : x.isFinite = true) (finiteY : y.isFinite = true)
    (small : (x.scaled - y.scaled).natAbs < 2 ^ 150) : (x.sub y).exponent ≤ 128 := by
  obtain ⟨numberX, boundedX⟩ := isFinite_iff.mp finiteX
  obtain ⟨numberY, boundedY⟩ := isFinite_iff.mp finiteY
  simp only [sub, numberX, numberY, boundedX, boundedY, Bool.false_and, Bool.or_false, Bool.false_eq_true,
    if_false]
  have bound : (_ : Int) ≤ 0 + 128 := exponent_roundF32 (if x.scaled - y.scaled = 0 then
    x.negative && !y.negative else decide (x.scaled - y.scaled < 0)) small (e := -149) (by omega) (by omega)
    (by omega)
  omega

theorem isFinite_mul (smallX : x.exponent ≤ 128) (smallY : y.exponent ≤ 128) :
    (x.mul y).isFinite = true := by
  obtain ⟨numberX, boundedX⟩ := isFinite_iff.mp (isFinite_of_exponent (x := x) (by omega))
  obtain ⟨numberY, boundedY⟩ := isFinite_iff.mp (isFinite_of_exponent (x := y) (by omega))
  have small : x.magnitude * y.magnitude < 2 ^ (127 + 24 + (127 + 24)) := by
    rw [Nat.pow_add 2 (127 + 24)]
    exact Nat.mul_lt_mul'' (magnitude_lt 127 smallX) (magnitude_lt 127 smallY)
  simp only [mul, numberX, numberY, boundedX, boundedY, Bool.false_and, Bool.or_false,
    Bool.false_eq_true, if_false]
  have bound : (_ : Int) ≤ 3 + 128 :=
    exponent_roundF32 (x.negative != y.negative) small (e := -298) (by omega) (by omega) (by omega)
  exact isFinite_of_exponent (by omega)

theorem Between.finite (within : Between low high x) (finiteLow : low.isFinite = true)
    (finiteHigh : high.isFinite = true) : x.isFinite = true := by
  obtain ⟨number, numberLow, above⟩ := ge_iff.mp within.1
  obtain ⟨numberHigh, _, below⟩ := ge_iff.mp within.2
  refine isFinite_iff.mpr ⟨number, ?_⟩
  have lowest := magnitude_finite numberLow (isFinite_iff.mp finiteLow).2
  have highest := magnitude_finite numberHigh (isFinite_iff.mp finiteHigh).2
  rw [← natAbs_scaled] at lowest highest
  rw [Bool.eq_false_iff]
  intro infinite
  have size := magnitude_infinite infinite
  rw [← natAbs_scaled] at size
  omega

end F32

end Ieee754
