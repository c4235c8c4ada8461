import BacnetSim.Encoding.Asn1
import BacnetSim.Encoding.Tags

/-! Bit strings octet by octet. The writer packs from the high bit down; the
application reader takes the low bits of the last octet. -/
namespace BacnetSim
open Rust Asn1 Tags

theorem octet_induction {P : List Bool → Prop} (short : ∀ bits, bits.length < 8 → P bits)
    (whole : ∀ b₀ b₁ b₂ b₃ b₄ b₅ b₆ b₇ rest, P rest →
      P (b₀ :: b₁ :: b₂ :: b₃ :: b₄ :: b₅ :: b₆ :: b₇ :: rest)) : ∀ bits, P bits
  | b₀ :: b₁ :: b₂ :: b₃ :: b₄ :: b₅ :: b₆ :: b₇ :: rest =>
    whole b₀ b₁ b₂ b₃ b₄ b₅ b₆ b₇ rest (octet_induction short whole rest)
  | [] | [_] | [_, _] | [_, _, _] | [_, _, _, _] | [_, _, _, _, _] | [_, _, _, _, _, _]
  | [_, _, _, _, _, _, _] => short _ (by simp)

def wholeOctet (b₀ b₁ b₂ b₃ b₄ b₅ b₆ b₇ : Bool) : UInt8 :=
  (packBits 0 0 [b₀, b₁, b₂, b₃, b₄, b₅, b₆, b₇]).headD 0

theorem packBits_add_eight (i : Nat) (byte : UInt8) (bits : List Bool) :
    packBits (i + 8) byte bits = packBits i byte bits := by
  induction bits generalizing i byte with
  | nil => simp [packBits]
  | cons bit bits ih =>
    have next : i + 8 + 1 = i + 1 + 8 := by omega
    simp only [packBits, Nat.add_mod_right, next, ih]

theorem packBits_whole (b₀ b₁ b₂ b₃ b₄ b₅ b₆ b₇ : Bool) (rest : List Bool) :
    packBits 0 0 (b₀ :: b₁ :: b₂ :: b₃ :: b₄ :: b₅ :: b₆ :: b₇ :: rest) =
      wholeOctet b₀ b₁ b₂ b₃ b₄ b₅ b₆ b₇ :: packBits 0 0 rest := by
  simp only [wholeOctet, packBits, Nat.zero_add, Nat.reduceAdd, Nat.reduceMod, Nat.reduceEqDiff,
    if_false, if_true, List.headD_cons]
  rw [← packBits_add_eight 0]

theorem packBits_short : ∀ bits : List Bool, 0 < bits.length → bits.length < 8 →
    ∃ byte, packBits 0 0 bits = [byte]
  | [], h, _ => absurd h (by simp)
  | [_], _, _ | [_, _], _, _ | [_, _, _], _, _ | [_, _, _, _], _, _ | [_, _, _, _, _], _, _
  | [_, _, _, _, _, _], _, _ | [_, _, _, _, _, _, _], _, _ => ⟨_, rfl⟩
  | _ :: _ :: _ :: _ :: _ :: _ :: _ :: _ :: _, _, h => absurd h (by simp)

theorem packBits_length (bits : List Bool) : (packBits 0 0 bits).length = (bits.length + 7) / 8 := by
  induction bits using octet_induction with
  | short bits h =>
    by_cases empty : bits = []
    · subst empty; rfl
    · have positive := List.length_pos_iff.mpr empty
      obtain ⟨byte, hb⟩ := packBits_short bits positive h
      rw [hb, List.length_singleton]
      omega
  | whole b₀ b₁ b₂ b₃ b₄ b₅ b₆ b₇ rest ih =>
    rw [packBits_whole]
    simp only [List.length_cons, ih]
    omega

theorem lowBits_wholeOctet : ∀ b₀ b₁ b₂ b₃ b₄ b₅ b₆ b₇ : Bool,
    lowBits (wholeOctet b₀ b₁ b₂ b₃ b₄ b₅ b₆ b₇) 8 = [b₀, b₁, b₂, b₃, b₄, b₅, b₆, b₇] := by
  decide +kernel

def unusedBits (n : Nat) : Nat := (8 - n % 8) % 8

/-- What the application reader makes of packed bits: whole octets as they were,
and of a last partial octet its low bits instead of its high ones. -/
def readBack : List Bool → List Bool
  | b₀ :: b₁ :: b₂ :: b₃ :: b₄ :: b₅ :: b₆ :: b₇ :: rest =>
    b₀ :: b₁ :: b₂ :: b₃ :: b₄ :: b₅ :: b₆ :: b₇ :: readBack rest
  | bits => (packBits 0 0 bits).flatMap fun byte => lowBits byte bits.length

theorem readBack_short {bits : List Bool} (h : bits.length < 8) :
    readBack bits = (packBits 0 0 bits).flatMap fun byte => lowBits byte bits.length := by
  unfold readBack
  split
  · simp only [List.length_cons] at h
    omega
  · rfl

def unpackOctets (take : UInt8 → Nat → List Bool) (unused : Nat) : Bytes → Result (List Bool)
  | [] => .ok []
  | [byte] => do
    let nbits ← checkedSub 8 unused
    .ok (take byte nbits)
  | byte :: rest => do
    let bits ← unpackOctets take unused rest
    .ok (take byte 8 ++ bits)

theorem unpackBits_eq (unused : Nat) (data : Bytes) :
    unpackBits unused data = unpackOctets lowBits unused data := by
  induction data with
  | nil => rfl
  | cons byte rest ih =>
    cases rest with
    | nil => rfl
    | cons next rest =>
      rw [unpackBits, unpackOctets, ih]
      · simp
      · simp

theorem unpackOctets_packBits {take : UInt8 → Nat → List Bool}
    (octet : ∀ b₀ b₁ b₂ b₃ b₄ b₅ b₆ b₇, take (wholeOctet b₀ b₁ b₂ b₃ b₄ b₅ b₆ b₇) 8 =
      [b₀, b₁, b₂, b₃, b₄, b₅, b₆, b₇])
    (back : List Bool → List Bool)
    (short : ∀ bits, bits.length < 8 →
      back bits = (packBits 0 0 bits).flatMap fun byte => take byte bits.length)
    (whole : ∀ b₀ b₁ b₂ b₃ b₄ b₅ b₆ b₇ rest,
      back (b₀ :: b₁ :: b₂ :: b₃ :: b₄ :: b₅ :: b₆ :: b₇ :: rest) =
        b₀ :: b₁ :: b₂ :: b₃ :: b₄ :: b₅ :: b₆ :: b₇ :: back rest) (bits : List Bool) :
    unpackOctets take (unusedBits bits.length) (packBits 0 0 bits) = .ok (back bits) := by
  induction bits using octet_induction with
  | short bits h =>
    rw [short bits h]
    by_cases empty : bits = []
    · subst empty; rfl
    · have positive := List.length_pos_iff.mpr empty
      obtain ⟨byte, hb⟩ := packBits_short bits positive h
      have unused : unusedBits bits.length = 8 - bits.length := by
        unfold unusedBits
        omega
      have used : 8 - (8 - bits.length) = bits.length := by omega
      simp only [hb, unused, unpackOctets, checkedSub, used]
      simp
  | whole b₀ b₁ b₂ b₃ b₄ b₅ b₆ b₇ rest ih =>
    have unused : unusedBits (b₀ :: b₁ :: b₂ :: b₃ :: b₄ :: b₅ :: b₆ :: b₇ :: rest).length =
        unusedBits rest.length := by
      simp only [unusedBits, List.length_cons]
      omega
    rw [packBits_whole, unused, whole]
    cases hp : packBits 0 0 rest with
    | nil =>
      have none : rest = [] := by
        have len := packBits_length rest
        rw [hp, List.length_nil] at len
        exact List.length_eq_zero_iff.mp (by omega)
      subst none
      have full : checkedSub 8 (unusedBits 0) = (.ok 8 : Result Nat) := rfl
      rw [List.length_nil, unpackOctets, full, ok_bind, octet, short [] (by simp)]
      rfl
    | cons byte more =>
      rw [hp] at ih
      rw [unpackOctets, ih, octet]
      · rfl
      · simp

theorem unpackBits_packBits (bits : List Bool) :
    unpackBits (unusedBits bits.length) (packBits 0 0 bits) = .ok (readBack bits) := by
  rw [unpackBits_eq]
  apply unpackOctets_packBits lowBits_wholeOctet
  · exact fun _ h => readBack_short h
  · exact fun _ _ _ _ _ _ _ _ _ => rfl

def tailBits (bits : List Bool) : List Bool := bits.drop (8 * (bits.length / 8))

theorem tailBits_whole (b₀ b₁ b₂ b₃ b₄ b₅ b₆ b₇ : Bool) (rest : List Bool) :
    tailBits (b₀ :: b₁ :: b₂ :: b₃ :: b₄ :: b₅ :: b₆ :: b₇ :: rest) = tailBits rest := by
  have more : 8 * ((rest.length + 1 + 1 + 1 + 1 + 1 + 1 + 1 + 1) / 8) =
      8 * (rest.length / 8) + 8 := by omega
  simp only [tailBits, List.length_cons, more]
  rfl

/-- A partial octet of `n` bits is its own low bits only when all its bits are clear:
bit `k` is read from where bit `k + 8 - n` was put. -/
theorem readBack_partial : ∀ bits : List Bool, bits.length < 8 →
    (readBack bits = bits ↔ true ∉ bits)
  | [], _ => by decide
  | [b₀], _ => by revert b₀; decide
  | [b₀, b₁], _ => by revert b₀ b₁; decide
  | [b₀, b₁, b₂], _ => by revert b₀ b₁ b₂; decide
  | [b₀, b₁, b₂, b₃], _ => by revert b₀ b₁ b₂ b₃; decide
  | [b₀, b₁, b₂, b₃, b₄], _ => by revert b₀ b₁ b₂ b₃ b₄; decide
  | [b₀, b₁, b₂, b₃, b₄, b₅], _ => by revert b₀ b₁ b₂ b₃ b₄ b₅; decide
  | [b₀, b₁, b₂, b₃, b₄, b₅, b₆], _ => by revert b₀ b₁ b₂ b₃ b₄ b₅ b₆; decide
  | _ :: _ :: _ :: _ :: _ :: _ :: _ :: _ :: _, h => absurd h (by simp)

theorem readBack_eq_iff (bits : List Bool) : readBack bits = bits ↔ true ∉ tailBits bits := by
  induction bits using octet_induction with
  | short bits h =>
    have tail : tailBits bits = bits := by simp [tailBits, Nat.div_eq_of_lt h]
    rw [tail]
    exact readBack_partial bits h
  | whole b₀ b₁ b₂ b₃ b₄ b₅ b₆ b₇ rest ih =>
    rw [tailBits_whole, ← ih]
    simp only [readBack, List.cons.injEq, true_and]

end BacnetSim
