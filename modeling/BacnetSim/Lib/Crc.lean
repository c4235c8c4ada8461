import Mathlib.Data.Nat.Digits.Lemmas
import Mathlib.Logic.Function.Iterate

/-! Cyclic redundancy checks of octet streams, low bit first. The register is any number
of bits wide. Nothing is used of the polynomial but that its top bit is set, which makes
a shift invertible. -/
namespace Crc

variable {w : Nat}

def shift (poly r : BitVec w) : BitVec w :=
  if r.getLsbD 0 then (r >>> 1) ^^^ poly else r >>> 1

def absorb (poly r : BitVec w) (b : UInt8) : BitVec w := (shift poly)^[8] (r ^^^ b.toBitVec.setWidth w)

def register (poly r : BitVec w) (bs : List UInt8) : BitVec w := bs.foldl (absorb poly) r

theorem register_append (poly r : BitVec w) (bs cs : List UInt8) :
    register poly r (bs ++ cs) = register poly (register poly r bs) cs := List.foldl_append

theorem lowBit_iff (r : BitVec w) : r &&& 1#w ≠ 0#w ↔ r.getLsbD 0 = true := by
  rw [BitVec.and_one_eq_setWidth_ofBool_getLsbD]
  cases w with
  | zero => simp
  | succ w => cases r.getLsbD 0 <;> simp

theorem loop_register {U : Type} {poly : BitVec w} (bits : U → BitVec w) {turn : U → U}
    {mix : U → UInt8 → U} (shifts : ∀ crc, bits (turn crc) = shift poly (bits crc))
    (mixes : ∀ crc b, bits (mix crc b) = bits crc ^^^ b.toBitVec.setWidth w) (crc : U)
    (data : List UInt8) :
    bits (data.foldl (fun crc b => turn^[8] (mix crc b)) crc) = register poly (bits crc) data := by
  induction data generalizing crc with
  | nil => rfl
  | cons b data ih =>
    have eight := Function.Semiconj.iterate_right shifts 8 (mix crc b)
    rw [List.foldl_cons, ih, eight, mixes]
    rfl

/-- The streams differ, but at most in the `k` places from `i` on. -/
structure Burst {α : Type} (i k : Nat) (xs ys : List α) : Prop where
  length : ys.length = xs.length
  differ : ys ≠ xs
  outside : ∀ j, j < i ∨ i + k ≤ j → ys[j]? = xs[j]?

namespace Burst
variable {α : Type} {i k : Nat} {xs ys a b : List α}

theorem take_eq (burst : Burst i k xs ys) {n : Nat} (early : n ≤ i) : ys.take n = xs.take n := by
  apply List.ext_getElem?
  intro j
  rw [List.getElem?_take, List.getElem?_take]
  split
  · exact burst.outside j (.inl (by omega))
  · rfl

theorem drop_eq (burst : Burst i k xs ys) {n : Nat} (late : i + k ≤ n) : ys.drop n = xs.drop n := by
  apply List.ext_getElem?
  intro j
  rw [List.getElem?_drop, List.getElem?_drop]
  exact burst.outside (n + j) (.inr (by omega))

theorem behind (burst : Burst i k (a ++ b) ys) (early : a.length ≤ i) :
    ∃ b', ys = a ++ b' ∧ Burst (i - a.length) k b b' := by
  have start := burst.take_eq early
  rw [List.take_left] at start
  have whole := List.take_append_drop a.length ys
  rw [start] at whole
  refine ⟨ys.drop a.length, whole.symm, ?_, ?_, ?_⟩
  · rw [List.length_drop, burst.length, List.length_append]
    omega
  · intro same
    rw [same] at whole
    exact burst.differ whole.symm
  · intro j out
    have there := burst.outside (a.length + j) (by omega)
    rwa [List.getElem?_append_right (by omega), Nat.add_sub_cancel_left, ← List.getElem?_drop]
      at there

theorem within (burst : Burst i k (a ++ b) ys) (late : i + k ≤ a.length) :
    ∃ a', ys = a' ++ b ∧ Burst i k a a' := by
  have stop := burst.drop_eq late
  rw [List.drop_left] at stop
  have whole := List.take_append_drop a.length ys
  rw [stop] at whole
  have size := burst.length
  rw [List.length_append] at size
  have first : (ys.take a.length).length = a.length := by
    rw [List.length_take]
    omega
  refine ⟨ys.take a.length, whole.symm, first, ?_, ?_⟩
  · intro same
    rw [same] at whole
    exact burst.differ whole.symm
  · intro j out
    by_cases inside : j < a.length
    · have there := burst.outside j out
      rwa [List.getElem?_append_left inside, ← List.getElem?_take_of_lt inside] at there
    · rw [List.getElem?_eq_none (by omega), List.getElem?_eq_none (by omega)]

theorem split (burst : Burst i k xs ys) :
    ∃ before a b after, xs = before ++ a ++ after ∧ ys = before ++ b ++ after ∧
      b.length = a.length ∧ b.length ≤ k ∧ b ≠ a := by
  have parts : ∀ l : List α, l = l.take i ++ (l.drop i).take k ++ l.drop (i + k) := by
    intro l
    rw [List.append_assoc, ← List.drop_drop, List.take_append_drop, List.take_append_drop]
  have size := burst.length
  refine ⟨xs.take i, (xs.drop i).take k, (ys.drop i).take k, xs.drop (i + k), parts xs, ?_, ?_, ?_, ?_⟩
  · rw [← burst.take_eq (Nat.le_refl i), ← burst.drop_eq (Nat.le_refl _)]
    exact parts ys
  · simp only [List.length_take, List.length_drop, size]
  · exact List.length_take_le k _
  · intro same
    apply burst.differ
    rw [parts ys, parts xs, same, burst.take_eq (Nat.le_refl i), burst.drop_eq (Nat.le_refl _)]

end Burst

theorem shift_xor (poly r s : BitVec w) : shift poly (r ^^^ s) = shift poly r ^^^ shift poly s := by
  unfold shift
  rw [BitVec.getLsbD_xor, BitVec.ushiftRight_xor_distrib]
  cases r.getLsbD 0 with
  | false =>
    cases s.getLsbD 0 with
    | false => rfl
    | true => exact BitVec.xor_assoc (r >>> 1) (s >>> 1) poly
  | true =>
    cases s.getLsbD 0 with
    | false =>
      change r >>> 1 ^^^ s >>> 1 ^^^ poly = r >>> 1 ^^^ poly ^^^ s >>> 1
      ac_rfl
    | true =>
      have cancel : poly ^^^ poly = 0#w := BitVec.xor_self
      change r >>> 1 ^^^ s >>> 1 = r >>> 1 ^^^ poly ^^^ (s >>> 1 ^^^ poly)
      calc r >>> 1 ^^^ s >>> 1 = r >>> 1 ^^^ s >>> 1 ^^^ (poly ^^^ poly) := by rw [cancel, BitVec.xor_zero]
        _ = r >>> 1 ^^^ poly ^^^ (s >>> 1 ^^^ poly) := by ac_rfl

theorem shifts_xor (poly : BitVec w) (n : Nat) (r s : BitVec w) :
    (shift poly)^[n] (r ^^^ s) = (shift poly)^[n] r ^^^ (shift poly)^[n] s := by
  induction n generalizing r s with
  | zero => rfl
  | succ n ih =>
    rw [Function.iterate_succ_apply, shift_xor, ih]
    rfl

theorem shifts_shiftLeft (poly v : BitVec w) {n : Nat} (room : v.toNat * 2 ^ n < 2 ^ w) :
    (shift poly)^[n] (v <<< n) = v := by
  induction n with
  | zero => exact BitVec.shiftLeft_zero v
  | succ n ih =>
    have half : v.toNat * 2 ^ n * 2 < 2 ^ w := by rwa [Nat.mul_assoc, ← Nat.pow_succ]
    have even : (v <<< (n + 1)).getLsbD 0 = false := by simp
    have moved : v <<< (n + 1) >>> 1 = v <<< n := by
      apply BitVec.eq_of_toNat_eq
      simp only [BitVec.toNat_ushiftRight, BitVec.toNat_shiftLeft, Nat.shiftLeft_eq,
        Nat.shiftRight_eq_div_pow, Nat.pow_succ, ← Nat.mul_assoc]
      rw [Nat.mod_eq_of_lt half, Nat.mod_eq_of_lt (by omega)]
      omega
    have first : shift poly (v <<< (n + 1)) = v <<< n := by
      rw [shift, even, moved]
      rfl
    rw [Function.iterate_succ_apply, first]
    exact ih (by omega)

/-- The octets of a stream as the register meets them: the first one lowest. -/
def word (bs : List UInt8) : Nat := Nat.ofDigits 256 (bs.map UInt8.toNat)

theorem word_cons (b : UInt8) (bs : List UInt8) : word (b :: bs) = b.toNat + 256 * word bs := rfl

theorem digits_lt (bs : List UInt8) : ∀ d ∈ bs.map UInt8.toNat, d < 256 := by
  intro d mem
  obtain ⟨b, _, rfl⟩ := List.mem_map.mp mem
  exact b.toNat_lt

theorem word_lt (bs : List UInt8) : word bs < 256 ^ bs.length := by
  have bound := Nat.ofDigits_lt_base_pow_length (by decide) (digits_lt bs)
  rwa [List.length_map] at bound

theorem word_injective {xs ys : List UInt8} (len : xs.length = ys.length)
    (same : word xs = word ys) : xs = ys := by
  have digits : xs.map UInt8.toNat = ys.map UInt8.toNat := by
    apply Nat.ofDigits_inj_of_len_eq (by decide) _ (digits_lt xs) (digits_lt ys) same
    simpa using len
  exact List.map_injective_iff.mpr (fun _ _ => UInt8.toNat_inj.mp) digits

theorem ofNat_word_cons (w : Nat) (b : UInt8) (bs : List UInt8) :
    BitVec.ofNat w (word (b :: bs)) = b.toBitVec.setWidth w ^^^ BitVec.ofNat w (word bs) <<< 8 := by
  have small : b.toNat < 2 ^ 8 := b.toNat_lt
  apply BitVec.eq_of_getLsbD_eq
  intro i bound
  have parts := Nat.testBit_two_pow_mul_add (word bs) small i
  rw [Nat.add_comm, ← show word (b :: bs) = b.toNat + 2 ^ 8 * word bs from rfl] at parts
  have first : (b.toBitVec.setWidth w).getLsbD i = b.toNat.testBit i := by
    simp [bound, BitVec.getLsbD]
  simp only [BitVec.getLsbD_ofNat, BitVec.getLsbD_xor, BitVec.getLsbD_shiftLeft, bound, decide_true,
    Bool.true_and, parts, first]
  by_cases low : i < 8
  · simp [low]
  · have clear : b.toNat.testBit i = false := by
      apply Nat.testBit_lt_two_pow
      exact Nat.lt_of_lt_of_le small (Nat.pow_le_pow_right (by decide) (by omega))
    have inside : i - 8 < w := by omega
    simp [low, clear, inside]

theorem register_eq_shifts (poly r : BitVec w) {bs : List UInt8} (short : 8 * bs.length ≤ w) :
    register poly r bs = (shift poly)^[8 * bs.length] (r ^^^ BitVec.ofNat w (word bs)) := by
  induction bs generalizing r with
  | nil =>
    have none : BitVec.ofNat w (word []) = 0#w := rfl
    rw [none, BitVec.xor_zero]
    rfl
  | cons b bs ih =>
    rw [List.length_cons] at short
    have fits : word bs * 2 ^ 8 < 2 ^ w := by
      have bound := word_lt bs
      have width : 256 ^ bs.length * 2 ^ 8 ≤ 2 ^ w := by
        rw [show (256 : Nat) = 2 ^ 8 from rfl, ← Nat.pow_mul, ← Nat.pow_add]
        exact Nat.pow_le_pow_right (by decide) (by omega)
      omega
    have value : (BitVec.ofNat w (word bs)).toNat = word bs := by
      rw [BitVec.toNat_ofNat]
      exact Nat.mod_eq_of_lt (by omega)
    have split := ofNat_word_cons w b bs
    have later : (shift poly)^[8] (BitVec.ofNat w (word bs) <<< 8) = BitVec.ofNat w (word bs) :=
      shifts_shiftLeft poly _ (by rwa [value])
    have rest := ih (absorb poly r b) (by omega)
    calc register poly r (b :: bs) = register poly (absorb poly r b) bs := rfl
      _ = (shift poly)^[8 * bs.length] (absorb poly r b ^^^ BitVec.ofNat w (word bs)) := rest
      _ = (shift poly)^[8 * bs.length]
          ((shift poly)^[8] (r ^^^ b.toBitVec.setWidth w ^^^ BitVec.ofNat w (word bs) <<< 8)) := by
        rw [shifts_xor poly 8, later, absorb]
      _ = (shift poly)^[8 * (b :: bs).length] (r ^^^ BitVec.ofNat w (word (b :: bs))) := by
        rw [split, ← BitVec.xor_assoc, ← Function.iterate_add_apply, List.length_cons, Nat.mul_succ]

/-- The check octets hold the complement of the register after the stream. -/
def Checked (poly r : BitVec w) (bs check : List UInt8) : Prop :=
  BitVec.ofNat w (word check) = ~~~ register poly r bs

theorem register_checked {poly r : BitVec w} {bs check : List UInt8} (whole : 8 * check.length = w)
    (checked : Checked poly r bs check) :
    register poly r (bs ++ check) = (shift poly)^[w] (BitVec.allOnes w) := by
  have ones : register poly r bs ^^^ ~~~ register poly r bs = BitVec.allOnes w := by
    rw [← BitVec.xor_allOnes, ← BitVec.xor_assoc, BitVec.xor_self, BitVec.zero_xor]
  rw [register_append, register_eq_shifts poly _ (Nat.le_of_eq whole), checked, ones, whole]

section Invertible
variable {poly : BitVec w} (top : poly.msb = true)
include top

theorem shift_eq_zero {r : BitVec w} (zero : shift poly r = 0#w) : r = 0#w := by
  unfold shift at zero
  split at zero
  · have same : r >>> 1 = poly := by
      have moved := congrArg (· ^^^ poly) zero
      simpa [BitVec.xor_assoc] using moved
    have clear : (r >>> 1).msb = false := by simp [BitVec.msb_ushiftRight]
    rw [same, top] at clear
    cases clear
  · rename_i low
    apply BitVec.eq_of_getLsbD_eq
    intro i bound
    cases i with
    | zero => simpa using low
    | succ i =>
      have bit := congrArg (·.getLsbD i) zero
      simpa [Nat.add_comm] using bit

theorem shift_injective : Function.Injective (shift poly) := by
  intro r s same
  have zero : shift poly (r ^^^ s) = 0#w := by rw [shift_xor, same, BitVec.xor_self]
  exact BitVec.xor_eq_zero_iff.mp (shift_eq_zero top zero)

theorem shifts_injective (n : Nat) : Function.Injective (shift poly)^[n] :=
  (shift_injective top).iterate n

theorem absorb_injective (b : UInt8) : Function.Injective (absorb poly · b) := by
  intro r s same
  have sums := shifts_injective top 8 same
  exact (BitVec.xor_left_inj _).mp sums

theorem register_start_injective (bs : List UInt8) : Function.Injective (register poly · bs) := by
  induction bs with
  | nil => exact fun _ _ same => same
  | cons b bs ih => exact fun _ _ same => absorb_injective top b (ih same)

theorem register_injective (r : BitVec w) {xs ys : List UInt8} (len : xs.length = ys.length)
    (short : 8 * xs.length ≤ w) (same : register poly r xs = register poly r ys) : xs = ys := by
  rw [register_eq_shifts poly r short, register_eq_shifts poly r (len ▸ short), len] at same
  have sums := shifts_injective top _ same
  have words := congrArg BitVec.toNat ((BitVec.xor_right_inj _).mp sums)
  have bound : ∀ bs : List UInt8, 8 * bs.length ≤ w → word bs < 2 ^ w := by
    intro bs fits
    apply Nat.lt_of_lt_of_le (word_lt bs)
    rw [show (256 : Nat) = 2 ^ 8 from rfl, ← Nat.pow_mul]
    exact Nat.pow_le_pow_right (by decide) fits
  rw [BitVec.toNat_ofNat, BitVec.toNat_ofNat, Nat.mod_eq_of_lt (bound xs short),
    Nat.mod_eq_of_lt (bound ys (len ▸ short))] at words
  exact word_injective len words

/-- A burst no longer than the register is detected, wherever in a stream it is. -/
theorem burst_detected (r : BitVec w) {i k : Nat} {xs ys : List UInt8} (burst : Burst i k xs ys)
    (short : 8 * k ≤ w) : register poly r ys ≠ register poly r xs := by
  intro same
  obtain ⟨before, a, b, after, rfl, rfl, len, size, differ⟩ := burst.split
  simp only [register_append] at same
  apply differ
  apply register_injective top (register poly r before) len (by omega)
  exact register_start_injective top after same

theorem burst_unchecked {r : BitVec w} {bs bs' check check' : List UInt8}
    (whole : 8 * check.length = w) (whole' : 8 * check'.length = w)
    (checked : Checked poly r bs check) {i k : Nat} (short : 8 * k ≤ w)
    (burst : Burst i k (bs ++ check) (bs' ++ check')) : ¬ Checked poly r bs' check' := by
  intro checked'
  apply burst_detected top r burst short
  rw [register_checked whole checked, register_checked whole' checked']

end Invertible

end Crc
