import Mathlib.Data.List.Basic

/-! Octets of strings. A string is valid UTF-8 by construction; reading octets
that are not substitutes U+FFFD for each maximal invalid part. -/
namespace Utf8

def octets (s : String) : List UInt8 := s.toByteArray.data.toList

def isCont (b : UInt8) : Bool := b &&& 0xC0 == 0x80

def secondAllowed (first second : UInt8) : Bool :=
  if first == 0xE0 then 0xA0 ≤ second && second ≤ 0xBF
  else if first == 0xED then 0x80 ≤ second && second ≤ 0x9F
  else if first == 0xF0 then 0x90 ≤ second && second ≤ 0xBF
  else if first == 0xF4 then 0x80 ≤ second && second ≤ 0x8F
  else isCont second

def headSequence (first : UInt8) (rest : List UInt8) : Nat × Bool :=
  let at_ (i : Nat) := rest[i]?.getD 0
  if first < 0x80 then (1, true)
  else if 0xC2 ≤ first && first ≤ 0xDF then
    if isCont (at_ 0) then (2, true) else (1, false)
  else if 0xE0 ≤ first && first ≤ 0xEF then
    if !secondAllowed first (at_ 0) then (1, false)
    else if isCont (at_ 1) then (3, true) else (2, false)
  else if 0xF0 ≤ first && first ≤ 0xF4 then
    if !secondAllowed first (at_ 0) then (1, false)
    else if !isCont (at_ 1) then (2, false)
    else if isCont (at_ 2) then (4, true) else (3, false)
  else (1, false)

def sequenceChar (first : UInt8) (conts : List UInt8) : Char :=
  let lead := match conts.length with
    | 0 => first.toNat
    | 1 => first.toNat % 32
    | 2 => first.toNat % 16
    | _ => first.toNat % 8
  Char.ofNat (conts.foldl (fun n b => n * 64 + b.toNat % 64) lead)

def lossyChars : Nat → List UInt8 → List Char
  | 0, _ => []
  | _ + 1, [] => []
  | fuel + 1, first :: rest =>
    let (n, valid) := headSequence first rest
    let c := if valid then sequenceChar first (rest.take (n - 1)) else '\uFFFD'
    c :: lossyChars fuel (rest.drop (n - 1))

/-- `String::from_utf8_lossy(bs).into_owned()`. -/
def fromUtf8Lossy (bs : List UInt8) : String :=
  match String.fromUTF8? ⟨bs.toArray⟩ with
  | some s => s
  | none => String.ofList (lossyChars bs.length bs)

@[simp] theorem fromUtf8Lossy_octets (s : String) : fromUtf8Lossy (octets s) = s := by
  have data : (⟨(octets s).toArray⟩ : ByteArray) = s.toByteArray := by
    simp [octets]
  simp [fromUtf8Lossy, data, String.fromUTF8?, String.fromUTF8, s.isValidUTF8]

theorem octets_injective {s t : String} (h : octets s = octets t) : s = t := by
  rw [← fromUtf8Lossy_octets s, h, fromUtf8Lossy_octets]

example : lossyChars 4 [0x41, 0xC3, 0xA9, 0xE2] = ['A', 'é', '\uFFFD'] := by decide

end Utf8
