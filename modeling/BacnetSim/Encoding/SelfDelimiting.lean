import BacnetSim.Encoding.Accepted
import BacnetSim.Encoding.RoundTrip
import BacnetSim.Lib.Reader

/-! An application-tagged value is read from its own octets, wherever they stand. -/
namespace BacnetSim.Tags
open Rust Octets Ieee754

theorem decodeLvtLen_selfDelimiting (lvt : UInt8) :
    SelfDelimiting fun (buf : Bytes) pos => decodeLvtLen buf pos lvt := by
  intro buf pos stream r at_ read
  unfold decodeLvtLen at read
  split at read
  · rename_i direct
    cases read
    exact ⟨[], stream, rfl, rfl, fun _ _ _ _ => decodeLvtLen_direct direct⟩
  · split at read
    · rename_i extended
      obtain ⟨l, here, eq⟩ := bind_eq_ok read
      cases eq
      obtain ⟨rest, rfl⟩ := at_peek at_ (okOr_eq_ok here)
      rw [eq_of_beq extended]
      exact ⟨[l], rest, rfl, rfl, fun _ _ _ at_ => decodeLvtLen_extended at_⟩
    · cases read

theorem readUint_selfDelimiting (len : Nat) :
    SelfDelimiting fun (buf : Bytes) pos => readUint buf pos len := by
  have shape : (fun buf pos => readUint buf pos len) =
      (Reader.take len (.decodeError "integer value truncated")).bind fun bytes =>
        .ret (.ok (ofBe32 bytes)) := by
    funext buf pos
    simp only [readUint, Reader.bind, Reader.take, Reader.ret, ok_bind]
    split
    · rfl
    · cases (slice buf pos (pos + len) : Result Bytes) <;> rfl
  rw [shape]
  exact (selfDelimiting_take _ _).bind fun _ => selfDelimiting_ret _

theorem readDeclared_selfDelimiting (lvt : UInt8) (msg : String) :
    SelfDelimiting fun (buf : Bytes) pos => readDeclared buf pos lvt msg :=
  (decodeLvtLen_selfDelimiting lvt).bind fun len => selfDelimiting_take len (BacnetError.decodeError msg)

theorem readFixed_selfDelimiting (lvt : UInt8) (len : Nat) (msg : String) :
    SelfDelimiting fun (buf : Bytes) pos => readFixed buf pos lvt len msg :=
  (decodeLvtLen_selfDelimiting lvt).bind fun _ => selfDelimiting_take len (BacnetError.decodeError msg)

theorem readLed_selfDelimiting (lvt : UInt8) (msg : String) :
    SelfDelimiting fun (buf : Bytes) pos =>
      readLed buf pos lvt msg >>= fun r => .ok ((r.1, r.2.1), r.2.2) := by
  intro buf pos stream r at_ read
  obtain ⟨led, inner, eq⟩ := bind_eq_ok read
  cases eq
  have again := inner
  obtain ⟨⟨len, start⟩, length, content⟩ := bind_eq_ok inner
  obtain ⟨e, rest, rfl, stop, reads⟩ := decodeLvtLen_selfDelimiting lvt at_ length
  obtain rfl : start = pos + e.length := stop
  have total := at_.advance.length
  dsimp only at content
  split at content
  · cases content
  · rename_i room
    have size : (rest.take len).length = len := List.length_take_of_le (by omega)
    obtain ⟨lead, data, taken⟩ := List.exists_cons_of_length_pos
      (show 0 < (rest.take len).length by omega)
    have parts : rest = (lead :: data) ++ rest.drop len := by
      rw [← taken, List.take_append_drop]
    rw [taken] at size
    have field {buf : Bytes} {pos : Nat} {rest : Bytes} (at_ : Cursor buf pos (e ++ (lead :: data ++ rest))) :
        readLed buf pos lvt msg = .ok (lead, data, pos + e.length + (lead :: data).length) := by
      have length := reads at_
      simp only at length
      rw [← size] at length
      exact readLed_field length at_.advance msg rfl
    rw [parts] at at_
    cases again.symm.trans (field at_)
    refine ⟨e ++ (lead :: data), rest.drop len, ?_, ?_, ?_⟩
    · rw [List.append_assoc, ← parts]
    · rw [List.length_append, Nat.add_assoc]
    · intro buf pos rest at_
      rw [List.append_assoc] at at_
      simp only [field at_, ok_bind, List.length_append, Nat.add_assoc]

theorem decodeApplicationValue_behind (b : UInt8) :
    ∃ inner : Reader BacnetError UInt8 PropertyValue, SelfDelimiting inner ∧
      ∀ {buf : Bytes} {pos : Nat}, peek buf pos = some b →
        decodeApplicationValue buf pos = inner buf (pos + 1) := by
  have declared := readDeclared_selfDelimiting (lvtOf b)
  have fixed := readFixed_selfDelimiting (lvtOf b)
  have led := readLed_selfDelimiting (lvtOf b)
  have number (value : UInt32 → PropertyValue) :=
    (decodeLvtLen_selfDelimiting (lvtOf b)).bind fun len => (readUint_selfDelimiting len).bind
      fun v => selfDelimiting_ret (.ok (value v) : Result PropertyValue)
  cases application : isContext b with
  | true =>
    refine ⟨_, selfDelimiting_ret (fail (.decodeError
      s!"expected application tag, got context byte {hex 4 b}")), fun here => ?_⟩
    simp only [decodeApplicationValue, here, okOr_some, ok_bind, application, if_true]
    rfl
  | false =>
    -- a case for each tag number, from 0 on as in the reader, and the last for what it refuses
    rcases tag : (tagNumber b).toNat with
      _ | _ | _ | _ | _ | _ | _ | _ | _ | _ | _ | _ | _ | n
    · refine ⟨_, selfDelimiting_ret (.ok .null), fun here => ?_⟩
      simp only [decodeApplicationValue, here, okOr_some, ok_bind, application, tag]
      rfl
    · refine ⟨_, selfDelimiting_ret (.ok (.boolean (lvtOf b != 0))), fun here => ?_⟩
      simp only [decodeApplicationValue, here, okOr_some, ok_bind, application, tag]
      rfl
    · refine ⟨_, number .unsigned, fun here => ?_⟩
      simp only [decodeApplicationValue, here, okOr_some, ok_bind, application, tag]
      rfl
    · refine ⟨_, (declared "integer truncated").bind fun bytes =>
        selfDelimiting_ret (.ok (.integer (bytes.foldl shiftInI32 0))), fun here => ?_⟩
      simp only [decodeApplicationValue, here, okOr_some, ok_bind, application, tag]
      rfl
    · refine ⟨_, (fixed 4 "real truncated").bind fun bytes =>
        selfDelimiting_ret (.ok (.real ⟨ofBe32 bytes⟩)), fun here => ?_⟩
      simp only [decodeApplicationValue, here, okOr_some, ok_bind, application, tag]
      rfl
    · refine ⟨_, (fixed 8 "double truncated").bind fun bytes =>
        selfDelimiting_ret (.ok (.double ⟨ofBe64 bytes⟩)), fun here => ?_⟩
      simp only [decodeApplicationValue, here, okOr_some, ok_bind, application, tag]
      rfl
    · refine ⟨_, (declared "octet-string truncated").bind fun data =>
        selfDelimiting_ret (.ok (.octetString data)), fun here => ?_⟩
      simp only [decodeApplicationValue, here, okOr_some, ok_bind, application, tag]
      rfl
    · refine ⟨_, (led "character-string invalid").bind fun content =>
        selfDelimiting_ret (.ok (.characterString (Utf8.fromUtf8Lossy content.2))), fun {buf pos} here => ?_⟩
      simp only [decodeApplicationValue, here, okOr_some, ok_bind, application, tag, Reader.bind]
      cases readLed buf (pos + 1) (lvtOf b) "character-string invalid" <;> rfl
    · refine ⟨_, (led "bit-string invalid").bind fun content => selfDelimiting_ret (do
        let _total ← checkedSub (content.2.length * 8) content.1.toNat
        let bits ← unpackBits content.1.toNat content.2
        .ok (.bitString ⟨bits⟩)), fun {buf pos} here => ?_⟩
      simp only [decodeApplicationValue, here, okOr_some, ok_bind, application, tag, Reader.bind]
      cases readLed buf (pos + 1) (lvtOf b) "bit-string invalid" with
      | error e => rfl
      | ok r =>
        simp only [ok_bind, Reader.ret]
        cases (checkedSub (r.2.1.length * 8) r.1.toNat : Result Nat) with
        | error e => rfl
        | ok total => cases unpackBits r.1.toNat r.2.1 <;> rfl
    · refine ⟨_, number .enumerated, fun here => ?_⟩
      simp only [decodeApplicationValue, here, okOr_some, ok_bind, application, tag]
      rfl
    · refine ⟨_, (fixed 4 "date truncated").bind fun bytes =>
        selfDelimiting_ret (.ok (.date
          { year := bytes[0]!.toUInt16 + 1900
            month := bytes[1]!
            day := bytes[2]!
            weekday := weekdayOf bytes[3]! })), fun here => ?_⟩
      simp only [decodeApplicationValue, here, okOr_some, ok_bind, application, tag]
      rfl
    · refine ⟨_, (fixed 4 "time truncated").bind fun bytes =>
        selfDelimiting_ret (.ok (.time
          { hour := bytes[0]!
            minute := bytes[1]!
            second := bytes[2]!
            hundredths := bytes[3]! })), fun here => ?_⟩
      simp only [decodeApplicationValue, here, okOr_some, ok_bind, application, tag]
      rfl
    · refine ⟨_, (fixed 4 "object-id truncated").bind fun bytes =>
        selfDelimiting_ret (.ok (.objectId (objectIdOfRaw (ofBe32 bytes)))), fun here => ?_⟩
      simp only [decodeApplicationValue, here, okOr_some, ok_bind, application, tag]
      rfl
    · refine ⟨_, selfDelimiting_ret (fail (.decodeError
        s!"unsupported application tag {hex 3 (tagNumber b)}")), fun here => ?_⟩
      simp only [decodeApplicationValue, here, okOr_some, ok_bind, application, tag]
      rfl

theorem decodeApplicationValue_selfDelimiting :
    SelfDelimiting (decodeApplicationValue : Reader BacnetError UInt8 PropertyValue) := by
  intro buf pos stream r at_ read
  obtain ⟨b, here, _⟩ := bind_eq_ok read
  have here := okOr_eq_ok here
  obtain ⟨tail, rfl⟩ := at_peek at_ here
  obtain ⟨inner, self, behind⟩ := decodeApplicationValue_behind b
  rw [behind here] at read
  obtain ⟨e, rest, rfl, stop, reads⟩ := self at_.next read
  refine ⟨b :: e, rest, rfl, ?_, ?_⟩
  · rw [stop, List.length_cons]
    omega
  · intro buf pos rest at_
    have here : peek buf pos = some b := at_.peek
    rw [behind here, reads at_.next, List.length_cons]
    simp only [Nat.add_assoc, Nat.add_comm 1]

end BacnetSim.Tags
