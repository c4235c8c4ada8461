import BacnetSim.Lib.Ieee754

/-! The casts to binary64. A binary32 number has a binary64 pattern of its own, and the cast back
gives the number that it was. -/
namespace Ieee754

def signBit64 (negative : Bool) : Nat := if negative then 2 ^ 63 else 0

def roundF64 (negative : Bool) (m : Nat) (e : Int) : F64 :=
  if m = 0 then ⟨UInt64.ofNat (signBit64 negative)⟩
  else
    let top := e + Nat.log2 m
    if 1023 < top then ⟨UInt64.ofNat (signBit64 negative + 2047 * 2 ^ 52)⟩
    else
      let q := max (top - 52) (-1074)
      let r := if e ≤ q then roundShift m (q - e).toNat else m * 2 ^ (e - q).toNat
      ⟨UInt64.ofNat (signBit64 negative + (q + 1074).toNat * 2 ^ 52 + r)⟩

/-- `v as f64` for an `f32`. A NaN comes out quiet. -/
def F64.ofF32 (v : F32) : F64 :=
  let sign := signBit64 v.negative
  if v.exponent = 255 then
    if v.fraction = 0 then ⟨UInt64.ofNat (sign + 2047 * 2 ^ 52)⟩
    else ⟨UInt64.ofNat (sign + 2047 * 2 ^ 52 + (2 ^ 51 ||| v.fraction * 2 ^ 29))⟩
  else if v.exponent = 0 then
    if v.fraction = 0 then ⟨UInt64.ofNat sign⟩
    else
      let top := Nat.log2 v.fraction
      ⟨UInt64.ofNat (sign + (top + 874) * 2 ^ 52 + (v.fraction - 2 ^ top) * 2 ^ (52 - top))⟩
  else ⟨UInt64.ofNat (sign + (v.exponent + 896) * 2 ^ 52 + v.fraction * 2 ^ 29)⟩

def F32.isFinite (v : F32) : Bool := v.exponent != 255

def F64.isFinite (v : F64) : Bool := v.bits.toNat / 2 ^ 52 % 2 ^ 11 != 2047

-- 22.5 and the smallest subnormal number.
example : F64.ofF32 ⟨0x41B40000⟩ = ⟨0x4036800000000000⟩ := by decide
example : F64.ofF32 ⟨1⟩ = ⟨0x36A0000000000000⟩ := by decide

theorem F32.bits_eq (v : F32) :
    v = ⟨UInt32.ofNat (signBit v.negative + v.exponent * 2 ^ 23 + v.fraction)⟩ := by
  have bound := v.bits.toNat_lt
  have parts : signBit v.negative + v.exponent * 2 ^ 23 + v.fraction = v.bits.toNat := by
    have sign : signBit v.negative = v.bits.toNat / 2 ^ 31 * 2 ^ 31 := by
      unfold signBit F32.negative
      have small : v.bits.toNat / 2 ^ 31 = 0 ∨ v.bits.toNat / 2 ^ 31 = 1 := by omega
      rcases small with zero | one
      · rw [zero]
        rfl
      · rw [one]
        rfl
    rw [sign, F32.exponent, F32.fraction]
    omega
  rw [parts]
  exact congrArg F32.mk (UInt32.ofNat_toNat).symm

theorem F32.ofF64_fields {negative : Bool} {exponent fraction : Nat} (proper : exponent < 2 ^ 11)
    (inside : fraction < 2 ^ 52) :
    F32.ofF64 ⟨UInt64.ofNat (signBit64 negative + exponent * 2 ^ 52 + fraction)⟩ =
      if exponent = 2047 then
        if fraction = 0 then ⟨UInt32.ofNat (signBit negative + 255 * 2 ^ 23)⟩
        else ⟨UInt32.ofNat (signBit negative + 255 * 2 ^ 23 + (2 ^ 22 ||| fraction / 2 ^ 29))⟩
      else if exponent = 0 then roundF32 negative fraction (-1074)
      else roundF32 negative (2 ^ 52 + fraction) (exponent - 1075) := by
  have sign : signBit64 negative = 0 ∨ signBit64 negative = 2 ^ 63 := by
    cases negative
    · exact .inl rfl
    · exact .inr rfl
  have number : (UInt64.ofNat (signBit64 negative + exponent * 2 ^ 52 + fraction)).toNat =
      signBit64 negative + exponent * 2 ^ 52 + fraction := by
    rw [UInt64.toNat_ofNat', Nat.mod_eq_of_lt (by omega)]
  have top : ((signBit64 negative + exponent * 2 ^ 52 + fraction) / 2 ^ 63 == 1) = negative := by
    have quotient : (signBit64 negative + exponent * 2 ^ 52 + fraction) / 2 ^ 63 =
        signBit64 negative / 2 ^ 63 := by omega
    rw [quotient]
    cases negative <;> rfl
  have middle : (signBit64 negative + exponent * 2 ^ 52 + fraction) / 2 ^ 52 % 2 ^ 11 = exponent := by
    omega
  have low : (signBit64 negative + exponent * 2 ^ 52 + fraction) % 2 ^ 52 = fraction := by
    omega
  simp only [F32.ofF64, number, top, middle, low]

theorem roundShift_exact (a k : Nat) : roundShift (a * 2 ^ k) k = a := by
  have positive : 0 < 2 ^ k := Nat.two_pow_pos k
  simp [roundShift, Nat.mul_div_cancel a positive, Nat.ne_of_lt positive]

theorem log2_shifted {a : Nat} (positive : 0 < a) (k : Nat) : Nat.log2 (a * 2 ^ k) = Nat.log2 a + k := by
  induction k with
  | zero => rw [Nat.pow_zero, Nat.mul_one, Nat.add_zero]
  | succ k ih =>
    have doubled : a * 2 ^ (k + 1) = 2 * (a * 2 ^ k) := by
      rw [Nat.pow_succ]
      ring
    have nonzero : a * 2 ^ k ≠ 0 := Nat.mul_ne_zero (by omega) (Nat.ne_of_gt (Nat.two_pow_pos k))
    rw [doubled, Nat.log2_two_mul nonzero, ih, Nat.add_assoc]

theorem roundF32_exact {negative : Bool} {a k : Nat} {e q : Int} (positive : 0 < a)
    (quantum : max (e + k + Nat.log2 a - 23) (-149) = q) (last : e + k = q)
    (finite : e + k + Nat.log2 a ≤ 127) :
    roundF32 negative (a * 2 ^ k) e =
      ⟨UInt32.ofNat (signBit negative + (q + 149).toNat * 2 ^ 23 + a)⟩ := by
  have nonzero : a * 2 ^ k ≠ 0 := Nat.mul_ne_zero (by omega) (Nat.ne_of_gt (Nat.two_pow_pos k))
  have bits : Nat.log2 (a * 2 ^ k) = Nat.log2 a + k := log2_shifted positive k
  have top : e + ((Nat.log2 (a * 2 ^ k) : Nat) : Int) = e + k + Nat.log2 a := by
    rw [bits]
    push_cast
    omega
  have shift : (q - e).toNat = k := by omega
  simp only [roundF32, if_neg nonzero, top, quantum, if_neg (show ¬ 127 < e + k + Nat.log2 a by omega),
    if_pos (show e ≤ q by omega), shift, roundShift_exact]

theorem F32.exponent_lt (v : F32) : v.exponent < 2 ^ 8 := Nat.mod_lt _ (Nat.two_pow_pos 8)

theorem F32.fraction_lt (v : F32) : v.fraction < 2 ^ 23 := Nat.mod_lt _ (Nat.two_pow_pos 23)

theorem F32.ofF64_subnormal {negative : Bool} {f : Nat} (positive : 0 < f) (inside : f < 2 ^ 23) :
    F32.ofF64 ⟨UInt64.ofNat (signBit64 negative + (Nat.log2 f + 874) * 2 ^ 52 +
        (f - 2 ^ Nat.log2 f) * 2 ^ (52 - Nat.log2 f))⟩ =
      ⟨UInt32.ofNat (signBit negative + f)⟩ := by
  have short : Nat.log2 f < 23 := (Nat.log2_lt (by omega)).mpr inside
  have least : 2 ^ Nat.log2 f ≤ f := Nat.log2_self_le (by omega)
  have most : f < 2 ^ (Nat.log2 f + 1) := (Nat.log2_lt (by omega)).mp (Nat.lt_succ_self _)
  have whole : 2 ^ Nat.log2 f * 2 ^ (52 - Nat.log2 f) = 2 ^ 52 := by
    rw [← Nat.pow_add, Nat.add_sub_cancel' (by omega)]
  have significand : 2 ^ 52 + (f - 2 ^ Nat.log2 f) * 2 ^ (52 - Nat.log2 f) = f * 2 ^ (52 - Nat.log2 f) := by
    rw [← whole, ← Nat.add_mul, Nat.add_sub_cancel' least]
  have fits : (f - 2 ^ Nat.log2 f) * 2 ^ (52 - Nat.log2 f) < 2 ^ 52 := by
    rw [← whole]
    refine Nat.mul_lt_mul_of_pos_right ?_ (Nat.two_pow_pos _)
    rw [Nat.pow_succ] at most
    omega
  rw [F32.ofF64_fields (by omega) fits, if_neg (by omega), if_neg (by omega), significand,
    roundF32_exact (q := -149) positive (by omega) (by omega) (by omega)]
  rw [show ((-149 : Int) + 149).toNat = 0 by decide, Nat.zero_mul, Nat.add_zero]

theorem F32.ofF64_normal {negative : Bool} {x f : Nat} (normal : 0 < x) (finite : x < 255)
    (inside : f < 2 ^ 23) :
    F32.ofF64 ⟨UInt64.ofNat (signBit64 negative + (x + 896) * 2 ^ 52 + f * 2 ^ 29)⟩ =
      ⟨UInt32.ofNat (signBit negative + x * 2 ^ 23 + f)⟩ := by
  have significand : 2 ^ 52 + f * 2 ^ 29 = (2 ^ 23 + f) * 2 ^ 29 := by omega
  have top : Nat.log2 (2 ^ 23 + f) = 23 := (Nat.log2_eq_iff (by omega)).mpr (by omega)
  rw [F32.ofF64_fields (by omega) (by omega), if_neg (by omega), if_neg (by omega), significand,
    roundF32_exact (q := (x : Int) - 150) (by omega) (by omega) (by omega) (by omega)]
  have pattern : signBit negative + ((x : Int) - 150 + 149).toNat * 2 ^ 23 + (2 ^ 23 + f) =
      signBit negative + x * 2 ^ 23 + f := by omega
  rw [pattern]

theorem F32.ofF64_ofF32 {v : F32} (number : v.isNan = false) : F32.ofF64 (F64.ofF32 v) = v := by
  have fields := v.bits_eq
  have exponent := v.exponent_lt
  have fraction := v.fraction_lt
  unfold F64.ofF32
  by_cases special : v.exponent = 255
  · have infinite : v.fraction = 0 := by
      rw [F32.isNan, special] at number
      simpa using number
    rw [special, infinite, Nat.add_zero] at fields
    simp only [if_pos special, if_pos infinite]
    exact (@F32.ofF64_fields v.negative 2047 0 (by decide) (by decide)).trans fields.symm
  · by_cases tiny : v.exponent = 0
    · rw [tiny, Nat.zero_mul, Nat.add_zero] at fields
      by_cases zero : v.fraction = 0
      · rw [zero, Nat.add_zero] at fields
        simp only [if_neg special, if_pos tiny, if_pos zero]
        exact (@F32.ofF64_fields v.negative 0 0 (by decide) (by decide)).trans fields.symm
      · simp only [if_neg special, if_pos tiny, if_neg zero]
        exact (F32.ofF64_subnormal (Nat.pos_of_ne_zero zero) fraction).trans fields.symm
    · simp only [if_neg special, if_neg tiny]
      exact (F32.ofF64_normal (Nat.pos_of_ne_zero tiny) (by omega) fraction).trans fields.symm

end Ieee754
