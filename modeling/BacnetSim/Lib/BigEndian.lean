import Mathlib.Data.Nat.Bitwise
import Mathlib.Tactic.Linarith
import Mathlib.Tactic.Ring

/-! Big-endian octet lists and fixed-width words.
The natural-number value of an octet list is the reference; a word of 32 or 64
bits is compared with it through its numerical value. -/
namespace Octets

/-- The big-endian value of an octet list, with no width limit. -/
def beNat (bs : List UInt8) : Nat := bs.foldl (fun n b => n * 256 + b.toNat) 0

theorem beNat_foldl (bs : List UInt8) (n : Nat) :
    bs.foldl (fun n b => n * 256 + b.toNat) n = n * 256 ^ bs.length + beNat bs := by
  induction bs generalizing n with
  | nil => simp [beNat]
  | cons b bs ih =>
    simp only [beNat, List.foldl_cons, List.length_cons]
    rw [ih, ih (0 * 256 + b.toNat), Nat.pow_succ]
    ring

@[simp] theorem beNat_nil : beNat [] = 0 := rfl

theorem beNat_cons (b : UInt8) (bs : List UInt8) :
    beNat (b :: bs) = b.toNat * 256 ^ bs.length + beNat bs := by
  simp only [beNat, List.foldl_cons]
  rw [beNat_foldl]
  simp [beNat]

theorem beNat_lt (bs : List UInt8) : beNat bs < 256 ^ bs.length := by
  induction bs with
  | nil => simp
  | cons b bs ih =>
    have hb : b.toNat < 256 := b.toNat_lt
    rw [beNat_cons, List.length_cons, Nat.pow_succ]
    nlinarith

theorem beNat_cons_div (b : UInt8) (bs : List UInt8) : beNat (b :: bs) / 256 ^ bs.length = b.toNat := by
  rw [beNat_cons, Nat.add_comm, Nat.add_mul_div_right _ _ (by positivity), Nat.div_eq_of_lt (beNat_lt bs),
    Nat.zero_add]

theorem beNat_append (xs ys : List UInt8) :
    beNat (xs ++ ys) = beNat xs * 256 ^ ys.length + beNat ys := by
  rw [beNat, List.foldl_append, beNat_foldl]
  rfl

theorem beNat_eq_zero_iff (bs : List UInt8) : beNat bs = 0 ↔ ∀ b ∈ bs, b = 0 := by
  induction bs with
  | nil => exact iff_of_true rfl nofun
  | cons b bs ih =>
    have weight : 0 < 256 ^ bs.length := by positivity
    rw [beNat_cons, Nat.add_eq_zero_iff, ih, List.forall_mem_cons, Nat.mul_eq_zero,
      or_iff_left weight.ne', ← UInt8.toNat_inj]
    rfl

def Shortest (bs : List UInt8) : Prop :=
  1 ≤ bs.length ∧ ∀ cs : List UInt8, 1 ≤ cs.length → beNat cs = beNat bs → bs.length ≤ cs.length

theorem shortest_of_le {bs : List UInt8} {k : Nat} (len : bs.length = k + 1)
    (large : k = 0 ∨ 256 ^ k ≤ beNat bs) : Shortest bs := by
  refine ⟨by omega, ?_⟩
  intro cs one same
  rcases large with rfl | large
  · omega
  · by_contra fewer
    have wide : 256 ^ cs.length ≤ 256 ^ k := Nat.pow_le_pow_right (by decide) (by omega)
    have narrow := beNat_lt cs
    omega

theorem beNat_lt_iff (bs : List UInt8) (k : Nat) :
    beNat bs < 256 ^ k ↔ ∀ b ∈ bs.take (bs.length - k), b = 0 := by
  have parts := beNat_append (bs.take (bs.length - k)) (bs.drop (bs.length - k))
  have low := beNat_lt (bs.drop (bs.length - k))
  rw [List.take_append_drop] at parts
  rw [← beNat_eq_zero_iff, parts]
  by_cases long : k ≤ bs.length
  · have size : (bs.drop (bs.length - k)).length = k := by
      rw [List.length_drop]
      omega
    rw [size] at low ⊢
    constructor
    · intro fits
      by_contra high
      have one : 1 * 256 ^ k ≤ beNat (bs.take (bs.length - k)) * 256 ^ k :=
        Nat.mul_le_mul_right _ (Nat.pos_of_ne_zero high)
      omega
    · intro zero
      rw [zero]
      omega
  · rw [Nat.sub_eq_zero_of_le (by omega), List.take_zero, List.drop_zero, beNat_nil, Nat.zero_mul,
      Nat.zero_add]
    refine iff_of_true ((beNat_lt bs).trans ?_) rfl
    exact Nat.pow_lt_pow_right (by decide) (by omega)

def beInt (bs : List UInt8) : Int :=
  if 2 * beNat bs < 256 ^ bs.length then beNat bs else beNat bs - 256 ^ bs.length

theorem two_mul_beNat_lt_iff (b : UInt8) (bs : List UInt8) :
    2 * beNat (b :: bs) < 256 ^ (b :: bs).length ↔ b < 0x80 := by
  have low := beNat_lt bs
  have top : b < 0x80 ↔ b.toNat < 128 := UInt8.lt_iff_toNat_lt
  rw [beNat_cons, List.length_cons, Nat.pow_succ, top]
  constructor
  · intro small
    by_contra high
    have := Nat.mul_le_mul_right (256 ^ bs.length) (Nat.le_of_not_lt high)
    omega
  · intro small
    have := Nat.mul_le_mul_right (256 ^ bs.length) (Nat.le_of_lt_succ small)
    omega

theorem beNat_injective {xs ys : List UInt8} (len : xs.length = ys.length)
    (val : beNat xs = beNat ys) : xs = ys := by
  induction xs generalizing ys with
  | nil => exact (List.length_eq_zero_iff.mp len.symm).symm
  | cons x xs ih =>
    cases ys with
    | nil => cases len
    | cons y ys =>
      have tails : xs.length = ys.length := Nat.succ.inj len
      have heads : x.toNat = y.toNat := by
        rw [← beNat_cons_div x xs, ← beNat_cons_div y ys, val, tails]
      rw [beNat_cons, beNat_cons, tails, heads] at val
      rw [UInt8.toNat_inj.mp heads, ih tails (Nat.add_left_cancel val)]

theorem or_eq_add (a b k : Nat) (hb : b < 2 ^ k) : (a * 2 ^ k) ||| b = a * 2 ^ k + b := by
  rw [Nat.mul_comm]
  exact (Nat.two_pow_add_eq_or_of_lt hb a).symm

theorem shift_digit (n : Nat) {j k : Nat} (above : j = k + 8) :
    n >>> j * 256 + n >>> k % 256 = n >>> k := by
  rw [above, Nat.shiftRight_add, Nat.shiftRight_eq_div_pow _ 8]
  exact Nat.div_add_mod' _ _

theorem forall_octet {P : UInt8 → Prop} (each : ∀ i : Fin 256, P (UInt8.ofFin i)) (b : UInt8) : P b :=
  each b.toFin

def ofBe16 (hi lo : UInt8) : UInt16 := (hi.toUInt16 <<< 8) ||| lo.toUInt16

def toBe16 (v : UInt16) : List UInt8 := [(v >>> 8).toUInt8, v.toUInt8]

def toLe16 (v : UInt16) : List UInt8 := [v.toUInt8, (v >>> 8).toUInt8]

theorem ofBe16_toNat (hi lo : UInt8) : (ofBe16 hi lo).toNat = hi.toNat * 256 + lo.toNat := by
  have high := hi.toNat_lt
  have low : lo.toNat < 2 ^ 8 := lo.toNat_lt
  have shifted : hi.toNat * 2 ^ 8 % 2 ^ 16 = hi.toNat * 2 ^ 8 := Nat.mod_eq_of_lt (by omega)
  simp only [ofBe16, UInt16.toNat_or, UInt16.toNat_shiftLeft, UInt8.toNat_toUInt16,
    Nat.shiftLeft_eq]
  change hi.toNat * 2 ^ 8 % 2 ^ 16 ||| lo.toNat = hi.toNat * 2 ^ 8 + lo.toNat
  rw [shifted, or_eq_add _ _ 8 low]

@[simp] theorem toBe16_length (v : UInt16) : (toBe16 v).length = 2 := rfl

@[simp] theorem toBe16_ofBe16 (hi lo : UInt8) : toBe16 (ofBe16 hi lo) = [hi, lo] := by
  have high := hi.toNat_lt
  have low := lo.toNat_lt
  have value := ofBe16_toNat hi lo
  have first : (ofBe16 hi lo >>> 8).toUInt8 = hi := by
    apply UInt8.toNat_inj.mp
    simp only [UInt16.toNat_toUInt8, UInt16.toNat_shiftRight, Nat.shiftRight_eq_div_pow, value]
    change (hi.toNat * 256 + lo.toNat) / 2 ^ 8 % 2 ^ 8 = hi.toNat
    omega
  have second : (ofBe16 hi lo).toUInt8 = lo := by
    apply UInt8.toNat_inj.mp
    simp only [UInt16.toNat_toUInt8, value]
    omega
  rw [toBe16, first, second]

@[simp] theorem ofBe16_toBe16 (v : UInt16) : ofBe16 (v >>> 8).toUInt8 v.toUInt8 = v := by
  have bound := v.toNat_lt
  apply UInt16.toNat_inj.mp
  simp only [ofBe16_toNat, UInt16.toNat_toUInt8, UInt16.toNat_shiftRight, Nat.shiftRight_eq_div_pow]
  change v.toNat / 2 ^ 8 % 2 ^ 8 * 256 + v.toNat % 2 ^ 8 = v.toNat
  omega

/-- One turn of the decoding loops: `v = (v << 8) | b`. -/
def shiftIn32 (v : UInt32) (b : UInt8) : UInt32 := (v <<< 8) ||| b.toUInt32

/-- `u32::from_be_bytes`, and the loop of the variable-width readers. -/
def ofBe32 (bs : List UInt8) : UInt32 := bs.foldl shiftIn32 0

def toBe32 (v : UInt32) : List UInt8 :=
  [(v >>> 24).toUInt8, (v >>> 16).toUInt8, (v >>> 8).toUInt8, v.toUInt8]

theorem shiftIn32_toNat (v : UInt32) (b : UInt8) :
    (shiftIn32 v b).toNat = (v.toNat * 256 + b.toNat) % 2 ^ 32 := by
  have hb : b.toNat < 2 ^ 8 := b.toNat_lt
  have split : v.toNat * 256 % 2 ^ 32 = v.toNat % 2 ^ 24 * 2 ^ 8 := by omega
  simp only [shiftIn32, UInt32.toNat_or, UInt32.toNat_shiftLeft, UInt8.toNat_toUInt32]
  rw [Nat.shiftLeft_eq]
  change v.toNat * 256 % 2 ^ 32 ||| b.toNat = _
  rw [split, or_eq_add _ _ 8 hb]
  omega

theorem foldl_shiftIn32_toNat (bs : List UInt8) (v : UInt32) :
    (bs.foldl shiftIn32 v).toNat = (v.toNat * 256 ^ bs.length + beNat bs) % 2 ^ 32 := by
  induction bs generalizing v with
  | nil => simp
  | cons b bs ih =>
    rw [List.foldl_cons, ih, shiftIn32_toNat, List.length_cons, beNat_cons, Nat.pow_succ]
    rw [Nat.add_mod, Nat.mul_mod, Nat.mod_mod, ← Nat.mul_mod, ← Nat.add_mod]
    congr 1
    ring

theorem ofBe32_toNat (bs : List UInt8) : (ofBe32 bs).toNat = beNat bs % 2 ^ 32 := by
  have h := foldl_shiftIn32_toNat bs 0
  rwa [UInt32.toNat_zero, Nat.zero_mul, Nat.zero_add] at h

theorem ofBe32_toNat_of_short {bs : List UInt8} (short : bs.length ≤ 4) :
    (ofBe32 bs).toNat = beNat bs := by
  rw [ofBe32_toNat]
  have bound : 256 ^ bs.length ≤ 256 ^ 4 := Nat.pow_le_pow_right (by decide) short
  exact Nat.mod_eq_of_lt (lt_of_lt_of_le (beNat_lt bs) bound)

@[simp] theorem toBe32_length (v : UInt32) : (toBe32 v).length = 4 := rfl

theorem beNat_toBe32 (v : UInt32) : beNat (toBe32 v) = v.toNat := by
  have top : v.toNat >>> 24 < 256 := by
    rw [Nat.shiftRight_eq_div_pow]
    exact Nat.div_lt_of_lt_mul v.toNat_lt
  calc beNat (toBe32 v)
      = ((v.toNat >>> 24 % 256 * 256 + v.toNat >>> 16 % 256) * 256 + v.toNat >>> 8 % 256) * 256 +
          v.toNat >>> 0 % 256 := by
        simp only [toBe32, beNat, List.foldl_cons, List.foldl_nil, UInt32.toNat_toUInt8,
          UInt32.toNat_shiftRight, UInt32.toNat_ofNat, Nat.reducePow, Nat.reduceMod, Nat.zero_mul,
          Nat.zero_add, Nat.shiftRight_zero]
    _ = v.toNat := by
      rw [Nat.mod_eq_of_lt top, shift_digit _ (j := 24) rfl, shift_digit _ (j := 16) rfl,
        shift_digit _ (j := 8) rfl, Nat.shiftRight_zero]

theorem ofBe32_eq_iff {bs : List UInt8} (short : bs.length ≤ 4) (v : UInt32) :
    ofBe32 bs = v ↔ beNat bs = v.toNat := by
  rw [← UInt32.toNat_inj, ofBe32_toNat_of_short short]

@[simp] theorem ofBe32_toBe32 (v : UInt32) : ofBe32 (toBe32 v) = v :=
  (ofBe32_eq_iff (by simp) v).mpr (beNat_toBe32 v)

theorem toBe32_ofBe32 {bs : List UInt8} (four : bs.length = 4) : toBe32 (ofBe32 bs) = bs := by
  apply beNat_injective (by rw [toBe32_length, four])
  rw [beNat_toBe32, ofBe32_toNat_of_short (Nat.le_of_eq four)]

theorem toBe32_injective {v w : UInt32} (h : toBe32 v = toBe32 w) : v = w := by
  rw [← ofBe32_toBe32 v, h, ofBe32_toBe32]

def shiftIn64 (v : UInt64) (b : UInt8) : UInt64 := (v <<< 8) ||| b.toUInt64

def ofBe64 (bs : List UInt8) : UInt64 := bs.foldl shiftIn64 0

def toBe64 (v : UInt64) : List UInt8 :=
  [(v >>> 56).toUInt8, (v >>> 48).toUInt8, (v >>> 40).toUInt8, (v >>> 32).toUInt8,
    (v >>> 24).toUInt8, (v >>> 16).toUInt8, (v >>> 8).toUInt8, v.toUInt8]

theorem shiftIn64_toNat (v : UInt64) (b : UInt8) :
    (shiftIn64 v b).toNat = (v.toNat * 256 + b.toNat) % 2 ^ 64 := by
  have hb : b.toNat < 2 ^ 8 := b.toNat_lt
  have split : v.toNat * 256 % 2 ^ 64 = v.toNat % 2 ^ 56 * 2 ^ 8 := by omega
  simp only [shiftIn64, UInt64.toNat_or, UInt64.toNat_shiftLeft, UInt8.toNat_toUInt64]
  rw [Nat.shiftLeft_eq]
  change v.toNat * 256 % 2 ^ 64 ||| b.toNat = _
  rw [split, or_eq_add _ _ 8 hb]
  omega

theorem foldl_shiftIn64_toNat (bs : List UInt8) (v : UInt64) :
    (bs.foldl shiftIn64 v).toNat = (v.toNat * 256 ^ bs.length + beNat bs) % 2 ^ 64 := by
  induction bs generalizing v with
  | nil => simp
  | cons b bs ih =>
    rw [List.foldl_cons, ih, shiftIn64_toNat, List.length_cons, beNat_cons, Nat.pow_succ]
    rw [Nat.add_mod, Nat.mul_mod, Nat.mod_mod, ← Nat.mul_mod, ← Nat.add_mod]
    congr 1
    ring

@[simp] theorem toBe64_length (v : UInt64) : (toBe64 v).length = 8 := rfl

theorem beNat_toBe64 (v : UInt64) : beNat (toBe64 v) = v.toNat := by
  have top : v.toNat >>> 56 < 256 := by
    rw [Nat.shiftRight_eq_div_pow]
    exact Nat.div_lt_of_lt_mul v.toNat_lt
  calc beNat (toBe64 v)
      = ((((((v.toNat >>> 56 % 256 * 256 + v.toNat >>> 48 % 256) * 256 + v.toNat >>> 40 % 256) * 256 +
          v.toNat >>> 32 % 256) * 256 + v.toNat >>> 24 % 256) * 256 + v.toNat >>> 16 % 256) * 256 +
          v.toNat >>> 8 % 256) * 256 + v.toNat >>> 0 % 256 := by
        simp only [toBe64, beNat, List.foldl_cons, List.foldl_nil, UInt64.toNat_toUInt8,
          UInt64.toNat_shiftRight, UInt64.toNat_ofNat, Nat.reducePow, Nat.reduceMod, Nat.zero_mul,
          Nat.zero_add, Nat.shiftRight_zero]
    _ = v.toNat := by
      rw [Nat.mod_eq_of_lt top, shift_digit _ (j := 56) rfl, shift_digit _ (j := 48) rfl,
        shift_digit _ (j := 40) rfl, shift_digit _ (j := 32) rfl, shift_digit _ (j := 24) rfl,
        shift_digit _ (j := 16) rfl, shift_digit _ (j := 8) rfl, Nat.shiftRight_zero]

@[simp] theorem ofBe64_toBe64 (v : UInt64) : ofBe64 (toBe64 v) = v := by
  apply UInt64.toNat_inj.mp
  have h := foldl_shiftIn64_toNat (toBe64 v) 0
  rw [UInt64.toNat_zero, Nat.zero_mul, Nat.zero_add, beNat_toBe64] at h
  rw [ofBe64, h]
  exact Nat.mod_eq_of_lt v.toNat_lt

theorem toBe64_injective {v w : UInt64} (h : toBe64 v = toBe64 w) : v = w := by
  rw [← ofBe64_toBe64 v, h, ofBe64_toBe64]

end Octets
