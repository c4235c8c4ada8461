import BacnetSim.Encoding.Asn1

/-! The application-tag readers of `encoding/asn1.rs`. Each returns its value with the
number of octets it consumed. They stay inside the buffer but for one kind of input: a bit
string without its unused-bits octet, or with more than eight unused bits. -/
namespace BacnetSim.Asn1
open Rust Octets Ieee754

def decodeApplicationUnsigned (buf : Bytes) : Result (UInt32 × Nat) :=
  if buf.isEmpty then fail (.decodeError "buffer empty")
  else do
    let tag ← index buf 0
    if tag >>> 4 ≠ 2 then fail (.decodeError s!"expected unsigned tag, got {hex 2 tag}")
    else
      let len := (tag &&& 0x07).toNat
      if buf.length < 1 + len then fail (.decodeError "buffer too short for unsigned")
      else
        let bytes ← slice buf 1 (1 + len)
        .ok (ofBe32 bytes, 1 + len)

def wordAfterTag (buf : Bytes) : Result UInt32 := do
  let b₁ ← index buf 1
  let b₂ ← index buf 2
  let b₃ ← index buf 3
  let b₄ ← index buf 4
  .ok (ofBe32 [b₁, b₂, b₃, b₄])

def decodeApplicationReal (buf : Bytes) : Result (F32 × Nat) :=
  if buf.length < 5 then fail (.decodeError "buffer too short for real")
  else do
    let tag ← index buf 0
    if tag >>> 4 ≠ 4 ∨ tag &&& 0x07 ≠ 4 then
      fail (.decodeError s!"expected real tag, got {hex 2 tag}")
    else
      let v ← wordAfterTag buf
      .ok (⟨v⟩, 5)

def decodeApplicationObjectId (buf : Bytes) : Result (ObjectId × Nat) :=
  if buf.length < 5 then fail (.decodeError "buffer too short for object-id")
  else do
    let tag ← index buf 0
    if tag ≠ 0xC4 then fail (.decodeError s!"expected object-id tag, got {hex 2 tag}")
    else
      let raw ← wordAfterTag buf
      let typeCode := (raw >>> 22).toUInt16
      let instanceNumber := raw &&& 0x3FFFFF
      let objectType ← okOr (ObjectType.fromU16 typeCode)
        (.decodeError s!"unknown object type {typeCode}")
      .ok (⟨objectType, instanceNumber⟩, 5)

/-- Every weekday octet but 1 to 7 is read as unspecified. -/
def readWeekday (raw : UInt8) : Weekday :=
  match raw.toNat with
  | 1 => .monday
  | 2 => .tuesday
  | 3 => .wednesday
  | 4 => .thursday
  | 5 => .friday
  | 6 => .saturday
  | 7 => .sunday
  | _ => .unspecified

/-- The length bits of the tag are not looked at. -/
def decodeApplicationDate (buf : Bytes) : Result (BacnetDate × Nat) :=
  if buf.length < 5 then fail (.decodeError "buffer too short for date")
  else do
    let tag ← index buf 0
    if tag >>> 4 ≠ 10 then fail (.decodeError s!"expected date tag, got {hex 2 tag}")
    else
      let year ← index buf 1
      let month ← index buf 2
      let day ← index buf 3
      let weekday ← index buf 4
      .ok (⟨year.toUInt16 + 1900, month, day, readWeekday weekday⟩, 5)

def highBits (byte : UInt8) (limit : Nat) : List Bool :=
  (List.range limit).map fun j => byte &&& (0x80 >>> UInt8.ofNat j) != 0

def unpackHighBits (unused : Nat) : Bytes → Result (List Bool)
  | [] => .ok []
  | [byte] => do
    let limit ← checkedSub 8 unused
    .ok (highBits byte limit)
  | byte :: rest => do
    let bits ← unpackHighBits unused rest
    .ok (highBits byte 8 ++ bits)

def bitstringLength (buf : Bytes) (lvt : Nat) : Result (Nat × Nat) :=
  if lvt ≤ 4 then .ok (lvt, 1)
  else if lvt = 5 then
    if buf.length < 3 then
      fail (.decodeError "buffer too short for extended-length bitstring")
    else do
      let total ← index buf 1
      .ok (total.toNat, 2)
  else fail (.decodeError s!"unsupported bitstring extended-length type LVT={lvt}")

def bitCount (data : Bytes) (unused : Nat) : Result Nat :=
  if data.isEmpty then .ok 0 else checkedSub (data.length * 8) unused

def decodeApplicationBitstring (buf : Bytes) : Result (BitString × Nat) :=
  if buf.length < 2 then fail (.decodeError "buffer too short for bitstring")
  else do
    let tag ← index buf 0
    if tag >>> 4 ≠ 8 then fail (.decodeError s!"expected bitstring tag, got {hex 2 tag}")
    else
      let (totalLen, valueStart) ← bitstringLength buf (tag &&& 0x07).toNat
      if buf.length < valueStart + totalLen then
        fail (.decodeError "buffer too short for bitstring data")
      else
        let unused ← index buf valueStart
        let dataBytes ← slice buf (valueStart + 1) (valueStart + totalLen)
        let _bitCount ← bitCount dataBytes unused.toNat
        let bits ← unpackHighBits unused.toNat dataBytes
        .ok (⟨bits⟩, valueStart + totalLen)

structure Within {α : Type} (buf : Bytes) (r : Result (α × Nat)) : Prop where
  safe : Safe r
  consumed : ∀ {v n}, r = .ok (v, n) → 1 ≤ n ∧ n ≤ buf.length

namespace Within
variable {α β : Type} {buf : Bytes}

theorem fail (e : BacnetError) : Within buf (Rust.fail e : Result (α × Nat)) :=
  ⟨safe_fail e, fun accepted => absurd accepted (fail_ne_ok _ _)⟩

theorem ok {v : α} {n : Nat} (some : 1 ≤ n) (inside : n ≤ buf.length) :
    Within buf (.ok (v, n) : Result (α × Nat)) := by
  refine ⟨safe_ok _, fun accepted => ?_⟩
  cases accepted
  exact ⟨some, inside⟩

theorem bind {x : Result β} {f : β → Result (α × Nat)} (first : Safe x)
    (next : ∀ a, x = .ok a → Within buf (f a)) : Within buf (x >>= f) := by
  refine ⟨first.bind fun a read => (next a read).safe, fun accepted => ?_⟩
  obtain ⟨a, read, rest⟩ := bind_eq_ok accepted
  exact (next a read).consumed rest

end Within

section Total
variable (buf : Bytes)

theorem decodeApplicationUnsigned_within : Within buf (decodeApplicationUnsigned buf) := by
  unfold decodeApplicationUnsigned
  split
  · exact .fail _
  · rename_i empty
    have long : 0 < buf.length := List.length_pos_iff.mpr fun none => empty (by simp [none])
    refine .bind (safe_index long) fun tag _ => ?_
    split
    · exact .fail _
    · dsimp only
      split
      · exact .fail _
      · exact .bind (safe_slice (by omega) (by omega)) fun bytes _ => .ok (by omega) (by omega)

theorem wordAfterTag_safe {buf : Bytes} (long : 5 ≤ buf.length) : Safe (wordAfterTag buf) :=
  (safe_index (by omega)).bind fun _ _ => (safe_index (by omega)).bind fun _ _ =>
    (safe_index (by omega)).bind fun _ _ => (safe_index (by omega)).bind fun _ _ => safe_ok _

theorem decodeApplicationReal_within : Within buf (decodeApplicationReal buf) := by
  unfold decodeApplicationReal
  split
  · exact .fail _
  · refine .bind (safe_index (by omega)) fun tag _ => ?_
    split
    · exact .fail _
    · exact .bind (wordAfterTag_safe (by omega)) fun v _ => .ok (by omega) (by omega)

theorem decodeApplicationObjectId_within : Within buf (decodeApplicationObjectId buf) := by
  unfold decodeApplicationObjectId
  split
  · exact .fail _
  · refine .bind (safe_index (by omega)) fun tag _ => ?_
    split
    · exact .fail _
    · refine .bind (wordAfterTag_safe (by omega)) fun raw _ => ?_
      exact .bind (safe_okOr _ _) fun objectType _ => .ok (by omega) (by omega)

theorem decodeApplicationDate_within : Within buf (decodeApplicationDate buf) := by
  unfold decodeApplicationDate
  split
  · exact .fail _
  · refine .bind (safe_index (by omega)) fun tag _ => ?_
    split
    · exact .fail _
    · refine .bind (safe_index (by omega)) fun year _ => ?_
      refine .bind (safe_index (by omega)) fun month _ => ?_
      refine .bind (safe_index (by omega)) fun day _ => ?_
      exact .bind (safe_index (by omega)) fun weekday _ => .ok (by omega) (by omega)

end Total

def announced : Bytes → Option (Nat × Bytes)
  | tag :: next :: rest =>
    let lvt := (tag &&& 0x07).toNat
    if tag >>> 4 ≠ 8 then none
    else if lvt ≤ 4 then
      if lvt ≤ rest.length + 1 then some (1, (next :: rest).take lvt) else none
    else if lvt = 5 ∧ rest ≠ [] ∧ next.toNat ≤ rest.length then some (2, rest.take next.toNat)
    else none
  | _ => none

theorem announced_direct {tag : UInt8} (next : UInt8) (rest : Bytes) {n : Nat}
    (bitString : tag >>> 4 = 8)
    (length : (tag &&& 0x07).toNat = n) (direct : n ≤ 4) (room : n ≤ rest.length + 1) :
    announced (tag :: next :: rest) = some (1, (next :: rest).take n) := by
  simp only [announced, bitString, length, ne_eq, not_true_eq_false, if_false, if_pos direct,
    if_pos room]

theorem announced_extended {tag : UInt8} (len : UInt8) (rest : Bytes) (bitString : tag >>> 4 = 8)
    (length : (tag &&& 0x07).toNat = 5) (more : rest ≠ []) (room : len.toNat ≤ rest.length) :
    announced (tag :: len :: rest) = some (2, rest.take len.toNat) := by
  have held : 5 = 5 ∧ rest ≠ [] ∧ len.toNat ≤ rest.length := ⟨rfl, more, room⟩
  have long : ¬ 5 ≤ 4 := by decide
  rw [announced, length, if_neg (not_not.mpr bitString), if_neg long, if_pos held]

/-- Content that the reader takes apart unchecked: no unused-bits octet, or one above
eight before some data. -/
def Unchecked : Bytes → Prop
  | [] => True
  | unused :: data => data ≠ [] ∧ 8 < unused.toNat

instance : DecidablePred Unchecked
  | [] => .isTrue trivial
  | _ :: _ => inferInstanceAs (Decidable (_ ∧ _))

def readContent (stop : Nat) : Bytes → Result (BitString × Nat)
  | [] => .error .panicked
  | unused :: data => do
    let _bitCount ← bitCount data unused.toNat
    let bits ← unpackHighBits unused.toNat data
    .ok (⟨bits⟩, stop)

/-- The reader on content that starts at `start`: without any, its slice would end before
it starts. -/
theorem readContent_of_cursor {buf content rest : Bytes} {start : Nat}
    (at_ : Cursor buf start (content ++ rest)) (inside : start < buf.length) :
    (do
      let unused ← index buf start
      let dataBytes ← slice buf (start + 1) (start + content.length)
      let _bitCount ← bitCount dataBytes unused.toNat
      let bits ← unpackHighBits unused.toNat dataBytes
      .ok (⟨bits⟩, start + content.length)) = readContent (start + content.length) content := by
  cases content with
  | nil =>
    have crossed : (slice buf (start + 1) (start + 0) : Result Bytes) = .error .panicked :=
      if_neg (by omega)
    rw [index_of_lt inside, ok_bind, List.length_nil, crossed]
    rfl
  | cons unused data =>
    have first : (index buf start : Result UInt8) = .ok unused := at_.index (i := 0) rfl
    have others : (slice buf (start + 1) (start + (unused :: data).length) : Result Bytes) =
        .ok data := by
      rw [List.length_cons, show start + (data.length + 1) = start + 1 + data.length by omega]
      exact at_.next.slice
    rw [first, ok_bind, others, ok_bind]
    rfl

theorem decodeApplicationBitstring_tagged {tag next : UInt8} {rest : Bytes}
    (bitString : tag >>> 4 = 8) :
    decodeApplicationBitstring (tag :: next :: rest) = (do
      let (totalLen, valueStart) ← bitstringLength (tag :: next :: rest) (tag &&& 0x07).toNat
      if (tag :: next :: rest).length < valueStart + totalLen then
        fail (.decodeError "buffer too short for bitstring data")
      else
        let unused ← index (tag :: next :: rest) valueStart
        let dataBytes ← slice (tag :: next :: rest) (valueStart + 1) (valueStart + totalLen)
        let _bitCount ← bitCount dataBytes unused.toNat
        let bits ← unpackHighBits unused.toNat dataBytes
        .ok (⟨bits⟩, valueStart + totalLen)) := by
  have enough : ¬ (tag :: next :: rest).length < 2 := by simp
  have first : (index (tag :: next :: rest) 0 : Result UInt8) = .ok tag := rfl
  rw [decodeApplicationBitstring, if_neg enough, first, ok_bind, if_neg (not_not.mpr bitString)]

def Settled (buf : Bytes) : Prop :=
  (announced buf = none ∧ ∃ e, decodeApplicationBitstring buf = fail e) ∨
    ∃ start content, announced buf = some (start, content) ∧ 1 ≤ start ∧
      start + content.length ≤ buf.length ∧
      decodeApplicationBitstring buf = readContent (start + content.length) content

section Tagged
variable {tag next : UInt8} {rest : Bytes}

theorem settled_held {content after : Bytes} {start : Nat} (bitString : tag >>> 4 = 8)
    (found : announced (tag :: next :: rest) = some (start, content))
    (length : bitstringLength (tag :: next :: rest) (tag &&& 0x07).toNat =
      .ok (content.length, start))
    (at_ : Cursor (tag :: next :: rest) start (content ++ after)) (positive : 1 ≤ start)
    (inside : start < (tag :: next :: rest).length) : Settled (tag :: next :: rest) := by
  have total := at_.length
  rw [List.length_append] at total
  have held : ¬ (tag :: next :: rest).length < start + content.length := by omega
  refine .inr ⟨start, content, found, positive, by omega, ?_⟩
  rw [decodeApplicationBitstring_tagged bitString, length, ok_bind]
  exact (if_neg held).trans (readContent_of_cursor at_ inside)

theorem settled_short {start n : Nat} (bitString : tag >>> 4 = 8)
    (missing : announced (tag :: next :: rest) = none)
    (length : bitstringLength (tag :: next :: rest) (tag &&& 0x07).toNat = .ok (n, start))
    (lacking : (tag :: next :: rest).length < start + n) : Settled (tag :: next :: rest) := by
  refine .inl ⟨missing, ?_⟩
  rw [decodeApplicationBitstring_tagged bitString, length, ok_bind]
  exact ⟨_, if_pos lacking⟩

theorem settled_direct {n : Nat} (bitString : tag >>> 4 = 8) (lvt : (tag &&& 0x07).toNat = n)
    (direct : n ≤ 4) : Settled (tag :: next :: rest) := by
  have length : bitstringLength (tag :: next :: rest) (tag &&& 0x07).toNat = .ok (n, 1) := by
    rw [lvt, bitstringLength, if_pos direct]
  by_cases room : n ≤ rest.length + 1
  · have size : ((next :: rest).take n).length = n := List.length_take_of_le room
    have at_ : Cursor (tag :: next :: rest) 1 ((next :: rest).take n ++ (next :: rest).drop n) :=
      ⟨[tag], by rw [List.take_append_drop]; rfl, rfl⟩
    exact settled_held bitString (announced_direct next rest bitString lvt direct room)
      (by rw [size]; exact length) at_ (Nat.le_refl 1) (by simp)
  · refine settled_short bitString ?_ length ?_
    · simp only [announced, bitString, lvt, ne_eq, not_true_eq_false, if_false, if_pos direct,
        if_neg room]
    · simp only [List.length_cons]
      omega

theorem settled_extended (bitString : tag >>> 4 = 8) (lvt : (tag &&& 0x07).toNat = 5) :
    Settled (tag :: next :: rest) := by
  have long : ¬ 5 ≤ 4 := by decide
  cases rest with
  | nil =>
    refine .inl ⟨?_, ?_⟩
    · rw [announced, lvt, if_neg (not_not.mpr bitString), if_neg long]
      exact if_neg fun held => held.2.1 rfl
    · rw [decodeApplicationBitstring_tagged bitString, lvt]
      exact ⟨_, rfl⟩
  | cons after others =>
    have length : bitstringLength (tag :: next :: after :: others) (tag &&& 0x07).toNat =
        .ok (next.toNat, 2) := by
      rw [lvt]
      rfl
    by_cases room : next.toNat ≤ (after :: others).length
    · have size : ((after :: others).take next.toNat).length = next.toNat :=
        List.length_take_of_le room
      have at_ : Cursor (tag :: next :: after :: others) 2
          ((after :: others).take next.toNat ++ (after :: others).drop next.toNat) :=
        ⟨[tag, next], by rw [List.take_append_drop]; rfl, rfl⟩
      have found := announced_extended next (after :: others) bitString lvt (List.cons_ne_nil _ _) room
      exact settled_held bitString found (by rw [size]; exact length) at_ (Nat.le_succ 1) (by simp)
    · refine settled_short bitString ?_ length ?_
      · rw [announced, lvt, if_neg (not_not.mpr bitString), if_neg long]
        exact if_neg fun held => room held.2.2
      · simp only [List.length_cons] at room ⊢
        omega

end Tagged

theorem settled (buf : Bytes) : Settled buf := by
  match buf with
  | [] => exact .inl ⟨rfl, _, rfl⟩
  | [_] => exact .inl ⟨rfl, _, rfl⟩
  | tag :: next :: rest =>
    by_cases bitString : tag >>> 4 = 8
    · by_cases direct : (tag &&& 0x07).toNat ≤ 4
      · exact settled_direct bitString rfl direct
      · by_cases extended : (tag &&& 0x07).toNat = 5
        · exact settled_extended bitString extended
        · refine .inl ⟨?_, ?_⟩
          · rw [announced, if_neg (not_not.mpr bitString), if_neg direct]
            exact if_neg fun held => extended held.1
          · rw [decodeApplicationBitstring_tagged bitString, bitstringLength, if_neg direct,
              if_neg extended]
            exact ⟨_, rfl⟩
    · exact .inl ⟨if_pos bitString, _, if_pos bitString⟩

theorem decodeApplicationBitstring_announced {buf content : Bytes} {start : Nat}
    (found : announced buf = some (start, content)) :
    decodeApplicationBitstring buf = readContent (start + content.length) content := by
  rcases settled buf with ⟨missing, _⟩ | ⟨_, _, found', _, _, read⟩
  · cases found.symm.trans missing
  · cases found.symm.trans found'
    exact read

theorem unpackHighBits_ok {unused : Nat} (few : unused ≤ 8) (data : Bytes) :
    ∃ bits, unpackHighBits unused data = .ok bits := by
  induction data with
  | nil => exact ⟨[], rfl⟩
  | cons byte rest ih =>
    cases rest with
    | nil => exact ⟨_, by rw [unpackHighBits, checkedSub, if_pos few, ok_bind]⟩
    | cons next rest =>
      obtain ⟨bits, others⟩ := ih
      exact ⟨_, by rw [unpackHighBits, others, ok_bind]; simp⟩

theorem unpackHighBits_panics {unused : Nat} (many : 8 < unused) {data : Bytes} (some : data ≠ []) :
    unpackHighBits unused data = .error .panicked := by
  induction data with
  | nil => exact absurd rfl some
  | cons byte rest ih =>
    cases rest with
    | nil => rw [unpackHighBits, checkedSub_panicked_iff.mpr many, error_bind]
    | cons next rest =>
      rw [unpackHighBits, ih (List.cons_ne_nil _ _), error_bind]
      simp

theorem bitCount_some {data : Bytes} (some : data ≠ []) (unused : Nat) :
    bitCount data unused = checkedSub (data.length * 8) unused :=
  if_neg fun empty => some (List.isEmpty_iff.mp empty)

theorem readContent_panics {content : Bytes} (unchecked : Unchecked content) (stop : Nat) :
    readContent stop content = .error .panicked := by
  cases content with
  | nil => rfl
  | cons unused data =>
    obtain ⟨some, many⟩ := unchecked
    refine bind_eq_panicked.mpr ?_
    rw [bitCount_some some]
    rcases Nat.lt_or_ge (data.length * 8) unused.toNat with less | enough
    · exact .inl (checkedSub_panicked_iff.mpr less)
    · exact .inr ⟨_, if_pos enough, by rw [unpackHighBits_panics many some, error_bind]⟩

theorem readContent_ok {content : Bytes} (checked : ¬ Unchecked content) (stop : Nat) :
    ∃ bits, readContent stop content = .ok (⟨bits⟩, stop) := by
  cases content with
  | nil => exact absurd trivial checked
  | cons unused data =>
    by_cases none : data = []
    · subst none
      exact ⟨[], rfl⟩
    · have few : unused.toNat ≤ 8 := Nat.not_lt.mp fun many => checked ⟨none, many⟩
      have positive := List.length_pos_iff.mpr none
      have enough : unused.toNat ≤ data.length * 8 := by omega
      obtain ⟨bits, read⟩ := unpackHighBits_ok few data
      refine ⟨bits, ?_⟩
      rw [readContent, bitCount_some none, checkedSub, if_pos enough, ok_bind, read, ok_bind]

theorem decodeApplicationBitstring_within (buf : Bytes) :
    Within buf (decodeApplicationBitstring buf) ↔
      ∀ start content, announced buf = some (start, content) → ¬ Unchecked content := by
  constructor
  · intro total start content found unchecked
    apply total.safe
    rw [decodeApplicationBitstring_announced found, readContent_panics unchecked]
  · intro checked
    rcases settled buf with
      ⟨_, e, refused⟩ | ⟨start, content, found, positive, inside, read⟩
    · exact refused ▸ .fail e
    · obtain ⟨bits, accepted⟩ := readContent_ok (checked start content found) (start + content.length)
      rw [read, accepted]
      exact .ok (by omega) inside

/-- The readers stay inside every buffer exactly when it does not start as a bit string
with content that the last of them leaves unchecked. -/
theorem readers_within_iff (buf : Bytes) :
    (Within buf (decodeApplicationUnsigned buf) ∧ Within buf (decodeApplicationReal buf) ∧
      Within buf (decodeApplicationObjectId buf) ∧ Within buf (decodeApplicationDate buf) ∧
      Within buf (decodeApplicationBitstring buf)) ↔
      ∀ start content, announced buf = some (start, content) → ¬ Unchecked content := by
  rw [← decodeApplicationBitstring_within]
  exact ⟨fun total => total.2.2.2.2, fun last =>
    ⟨decodeApplicationUnsigned_within buf, decodeApplicationReal_within buf,
      decodeApplicationObjectId_within buf, decodeApplicationDate_within buf, last⟩⟩

/-- A bit-string tag of length 0: the slice of the data octets starts behind its end. -/
theorem bitstring_without_content : ¬ ∀ buf : Bytes,
    Within buf (decodeApplicationUnsigned buf) ∧ Within buf (decodeApplicationReal buf) ∧
      Within buf (decodeApplicationObjectId buf) ∧ Within buf (decodeApplicationDate buf) ∧
      Within buf (decodeApplicationBitstring buf) := by
  intro claim
  have failed : decodeApplicationBitstring [0x80, 0x00] = .error .panicked := by rfl
  exact (claim [0x80, 0x00]).2.2.2.2.safe failed

end BacnetSim.Asn1
