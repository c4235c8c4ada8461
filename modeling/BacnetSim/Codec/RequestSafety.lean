import BacnetSim.Codec.Unconfirmed
import BacnetSim.Codec.WriteRequest
import BacnetSim.Encoding.RoundTrip

/-! The one way in which decoding a request panics: a WriteProperty request whose value is
a bit string with more unused bits than its last octet has. -/
namespace BacnetSim
open Rust Octets Tags

theorem decodeReadProperty_safe (body : Bytes) : Safe (decodeReadProperty body) :=
  (decodeCtxObjectId_safe _).bind fun _ _ =>
    (decodeCtxPropertyId_safe _).bind fun _ _ =>
      (decodeOptional_safe (decodeCtxU32_safe _)).bind fun _ _ => safe_ok _

theorem decodeSubscribeCov_safe (body : Bytes) : Safe (decodeSubscribeCov body) :=
  (decodeCtxU32_safe _).bind fun _ _ =>
    (decodeCtxObjectId_safe _).bind fun _ _ =>
      (decodeOptional_safe (decodeCtxBool_safe _)).bind fun _ _ =>
        (decodeOptional_safe (decodeCtxU32_safe _)).bind fun _ _ => safe_ok _

theorem decodeReference_safe (body : Bytes) (pos : Nat) : Safe (decodeReference body pos) :=
  (decodeCtxPropertyId_safe _).bind fun _ _ =>
    (decodeOptional_safe (decodeCtxU32_safe _)).bind fun _ _ => safe_ok _

theorem referenceLoop_safe (body : Bytes) (pos : Nat) : Safe ((referenceLoop body).run pos) := by
  apply Loop.run_safe
  intro pos
  simp only [referenceLoop]
  split
  · exact safe_ok _
  · split
    · exact safe_fail _
    · exact (decodeReference_safe body pos).bind fun _ _ => safe_ok _

theorem decodeSpec_safe (body : Bytes) (pos : Nat) : Safe (decodeSpec body pos) := by
  refine (decodeCtxObjectId_safe _).bind fun ⟨object, start⟩ _ => ?_
  dsimp only
  split
  · exact safe_fail _
  · exact (referenceLoop_safe body _).bind fun _ _ => safe_ok _

theorem decodeRpm_safe (body : Bytes) : Safe (decodeRpm body) := by
  have loop : Safe ((specLoop body).run 0) := by
    apply Loop.run_safe
    intro pos
    simp only [specLoop]
    split
    · exact (decodeSpec_safe body pos).bind fun _ _ => safe_ok _
    · exact safe_ok _
  exact loop.bind fun _ _ => safe_ok _

theorem decodeWhoIs_safe (body : Bytes) : Safe (UnconfirmedRequest.decodeWhoIs body) :=
  (decodeOptional_safe (decodeCtxU32_safe _)).bind fun _ _ =>
    (decodeOptional_safe (decodeCtxU32_safe _)).bind fun _ _ => safe_ok _

theorem decode_unconfirmed_safe (b : Bytes) : Safe (UnconfirmedRequest.decode b) := by
  unfold UnconfirmedRequest.decode
  split
  · split
    · exact safe_fail _
    · split
      · exact (decodeWhoIs_safe _).bind fun _ _ => safe_ok _
      · exact safe_ok _
      · exact safe_fail _
  · exact safe_fail _

def lastOctetBits (data : Bytes) : Nat := if data.isEmpty then 0 else 8

theorem unpackBits_panicked_iff (unused : Nat) : ∀ data : Bytes,
    unpackBits unused data = .error .panicked ↔ data ≠ [] ∧ 8 < unused
  | [] => iff_of_false nofun fun missing => missing.1 rfl
  | [byte] => by
    rw [unpackBits, bind_eq_panicked, checkedSub_panicked_iff]
    simp
  | byte :: next :: rest => by
    rw [unpackBits, bind_eq_panicked, unpackBits_panicked_iff unused (next :: rest)]
    · simp
    · exact List.cons_ne_nil next rest

theorem readBits_panicked_iff (unused : Nat) (data : Bytes) (stop : Nat) :
    ((checkedSub (data.length * 8) unused : Result Nat) >>= fun _ =>
      unpackBits unused data >>= fun bits =>
        (.ok (PropertyValue.bitString ⟨bits⟩, stop) : Result (PropertyValue × Nat))) =
      .error .panicked ↔ lastOctetBits data < unused := by
  by_cases few : data.length * 8 < unused
  · rw [checkedSub_panicked_iff.mpr few, error_bind]
    refine iff_of_true rfl ?_
    cases data with
    | nil => exact few
    | cons byte rest =>
      rw [List.length_cons] at few
      exact Nat.lt_of_le_of_lt (Nat.le_mul_of_pos_left 8 (Nat.succ_pos _)) few
  · have total : (checkedSub (data.length * 8) unused : Result Nat) = .ok (data.length * 8 - unused) :=
      if_pos (Nat.le_of_not_lt few)
    rw [total, ok_bind, bind_eq_panicked, unpackBits_panicked_iff]
    cases data with
    | nil => simpa [lastOctetBits] using few
    | cons byte rest => simp [lastOctetBits]

/-- A tagged bit string that claims more unused bits than its last octet has. -/
inductive BitsMissing : Bytes → Prop
  | intro {extended : Bool} {unused : UInt8} {data : Bytes} (rest : Bytes)
    (fits : FieldFits extended (unused :: data)) (more : lastOctetBits data < unused.toNat) :
    BitsMissing (field false 8 extended (unused :: data) ++ rest)

section Value
variable {body stream : Bytes} {pos : Nat} {b : UInt8}

theorem decodeApplicationValue_bits (here : peek body pos = some b) (application : isContext b = false)
    (bits : tagNumber b = 8) :
    decodeApplicationValue body pos =
      (readLed body (pos + 1) (lvtOf b) "bit-string invalid" >>= fun r =>
        checkedSub (r.2.1.length * 8) r.1.toNat >>= fun _ =>
          unpackBits r.1.toNat r.2.1 >>= fun bits => .ok (.bitString ⟨bits⟩, r.2.2)) := by
  simp [decodeApplicationValue, here, application, bits]

theorem decodeApplicationValue_safe (here : peek body pos = some b) (other : tagNumber b ≠ 8) :
    Safe (decodeApplicationValue body pos) := by
  simp only [decodeApplicationValue, here, okOr_some, ok_bind]
  split
  · exact safe_fail _
  · split
    · exact safe_ok _
    · exact safe_ok _
    · exact (decodeLvtLen_safe _).bind fun _ _ => (readUint_safe _).bind fun _ _ => safe_ok _
    · exact (readDeclared_safe _ _).bind fun _ _ => safe_ok _
    · exact (readFixed_safe _ _ _).bind fun _ _ => safe_ok _
    · exact (readFixed_safe _ _ _).bind fun _ _ => safe_ok _
    · exact (readDeclared_safe _ _).bind fun _ _ => safe_ok _
    · exact (readLed_safe _ _).bind fun _ _ => safe_ok _
    · rename_i bits
      exact absurd (UInt8.toNat_inj.mp bits) other
    · exact (decodeLvtLen_safe _).bind fun _ _ => (readUint_safe _).bind fun _ _ => safe_ok _
    · exact (readFixed_safe _ _ _).bind fun _ _ => safe_ok _
    · exact (readFixed_safe _ _ _).bind fun _ _ => safe_ok _
    · exact (readFixed_safe _ _ _).bind fun _ _ => safe_ok _
    · exact safe_fail _

theorem readLed_accepted {tail : Bytes} {invalid : String} {r : UInt8 × Bytes × Nat}
    (tag : tagNumber b < 15) (at_ : Cursor body pos (b :: tail))
    (read : readLed body (pos + 1) (lvtOf b) invalid = .ok r) :
    ∃ (extended : Bool) (rest : Bytes), FieldFits extended (r.1 :: r.2.1) ∧
      b :: tail = field (isContext b) (tagNumber b) extended (r.1 :: r.2.1) ++ rest := by
  have again := read
  obtain ⟨⟨len, start⟩, length, read⟩ := bind_eq_ok read
  dsimp only at read
  split at read
  · cases read
  · rename_i room
    obtain ⟨f, rest, size, same⟩ := field_of_length at_ length (by omega)
    obtain ⟨extended, content, fits⟩ := f
    cases content with
    | nil => exact absurd (.inl size.symm) room
    | cons lead data =>
      rw [same] at at_
      obtain ⟨b', start', here, _, _, _, length', there, _⟩ := field_read tag fits at_
      cases (same ▸ at_ : Cursor body pos (b :: tail)).peek.symm.trans here
      rw [readLed_field length' there invalid rfl] at again
      cases again
      exact ⟨extended, rest, fits, same⟩

theorem decodeApplicationValue_panicked_iff (at_ : Cursor body pos stream) :
    decodeApplicationValue body pos = .error .panicked ↔ BitsMissing stream := by
  constructor
  · intro failed
    rcases bind_eq_panicked.mp failed with missing | ⟨b, here, inner⟩
    · exact absurd missing (safe_okOr _ _)
    have here := okOr_eq_ok here
    obtain ⟨tail, rfl⟩ := at_peek at_ here
    by_cases bits : tagNumber b = 8
    · cases application : isContext b with
      | true =>
        simp only [application, if_true] at inner
        cases inner
      | false =>
        rw [decodeApplicationValue_bits here application bits] at failed
        rcases bind_eq_panicked.mp failed with crashed | ⟨⟨unused, data, stop⟩, read, subtraction⟩
        · exact absurd crashed (readLed_safe _ _)
        · obtain ⟨extended, rest, fits, same⟩ := readLed_accepted (by rw [bits]; decide) at_ read
          rw [application, bits] at same
          rw [same]
          exact .intro rest fits ((readBits_panicked_iff _ _ _).mp subtraction)
    · exact absurd failed (decodeApplicationValue_safe here bits)
  · rintro ⟨rest, fits, more⟩
    obtain ⟨b, start, here, application, bits, _, length, there, _⟩ := field_read (by decide) fits at_
    rw [decodeApplicationValue_bits here application bits, readLed_field length there _ rfl, ok_bind]
    exact (readBits_panicked_iff _ _ _).mpr more

end Value

inductive WritesMissingBits : Bytes → Prop
  | intro (object property : FieldBody) (arrayIndex : Option FieldBody) {value : Bytes}
    (identifier : object.content.length = 4) (missing : BitsMissing value) :
    WritesMissingBits (object.octets true 0 ++ (property.octets true 1 ++
      (indexOctets arrayIndex ++ (encodeOpeningTag 3 ++ value))))

section Write
variable {body stream value : Bytes} {pos : Nat}

theorem decodeWriteProperty_panicked_iff (body : Bytes) :
    decodeWriteProperty body = .error .panicked ↔ WritesMissingBits body := by
  constructor
  · intro failed
    rcases WriteHead.refused_or_head body with ⟨e, refused⟩ | ⟨h, rest, rfl⟩
    · rw [refused] at failed
      cases failed
    rw [h.decode_eq_finish] at failed
    rcases bind_eq_panicked.mp failed with crashed | ⟨⟨value, afterValue⟩, _, failed⟩
    · have missing := (decodeApplicationValue_panicked_iff (h.cursor rest)).mp crashed
      rw [h.octets_append]
      exact .intro h.object h.property h.arrayIndex h.identifier missing
    · dsimp only at failed
      split at failed
      · cases failed
      · exact absurd failed ((decodeOptional_safe (decodeCtxU32_safe 4)).bind fun _ _ => safe_ok _)
  · intro form
    obtain @⟨object, property, arrayIndex, value, identifier, missing⟩ := form
    let h : WriteHead := ⟨object, property, arrayIndex, identifier⟩
    rw [← h.octets_append, h.decode_eq_finish, WriteHead.finish,
      (decodeApplicationValue_panicked_iff (h.cursor value)).mpr missing, error_bind]

end Write

def WritesBitsItLacks (b : Bytes) : Prop :=
  ∃ flags octet invokeId body, b = flags :: octet :: invokeId :: 15 :: body ∧ WritesMissingBits body

theorem decode_write_panicked_iff (flags octet invokeId : UInt8) (body : Bytes) :
    ConfirmedRequest.decode (flags :: octet :: invokeId :: 15 :: body) = .error .panicked ↔
      WritesMissingBits body := by
  rw [← decodeWriteProperty_panicked_iff]
  simp only [ConfirmedRequest.decode, UInt8.reduceToNat]
  cases decodeWriteProperty body with
  | ok write => exact iff_of_false nofun nofun
  | error e =>
    cases e with
    | err e => exact iff_of_false nofun nofun
    | panicked => exact iff_of_true rfl rfl

theorem decode_other_safe {flags octet invokeId choice : UInt8} (body : Bytes) (other : choice ≠ 15) :
    Safe (ConfirmedRequest.decode (flags :: octet :: invokeId :: choice :: body)) := by
  simp only [ConfirmedRequest.decode]
  split
  · exact (decodeReadProperty_safe body).bind fun _ _ => safe_ok _
  · exact (decodeRpm_safe body).bind fun _ _ => safe_ok _
  · rename_i write
    exact absurd (UInt8.toNat_inj.mp write) other
  · exact (decodeSubscribeCov_safe body).bind fun _ _ => safe_ok _
  · exact safe_fail _

theorem decode_confirmed_panicked_iff (b : Bytes) :
    ConfirmedRequest.decode b = .error .panicked ↔ WritesBitsItLacks b := by
  match b with
  | [] | [_] | [_, _] | [_, _, _] => exact iff_of_false nofun nofun
  | flags :: octet :: invokeId :: choice :: body =>
    by_cases write : choice = 15
    · subst write
      rw [decode_write_panicked_iff]
      constructor
      · intro missing
        exact ⟨flags, octet, invokeId, body, rfl, missing⟩
      · rintro ⟨_, _, _, _, same, missing⟩
        cases same
        exact missing
    · refine iff_of_false (decode_other_safe body write) ?_
      rintro ⟨_, _, _, _, same, _⟩
      cases same
      exact write rfl

theorem requestDecoders_safe_iff (b : Bytes) :
    Safe (ConfirmedRequest.decode b) ∧ Safe (UnconfirmedRequest.decode b) ↔ ¬ WritesBitsItLacks b := by
  rw [← decode_confirmed_panicked_iff]
  exact and_iff_left (decode_unconfirmed_safe b)

/-- A write of a bit string of no octets with one unused bit. -/
theorem emptyBitString_crashes : ¬ ∀ b,
    Safe (ConfirmedRequest.decode b) ∧ Safe (UnconfirmedRequest.decode b) := by
  intro claim
  exact (claim [0, 4, 1, 15, 0x0C, 0, 0, 0, 1, 0x19, 85, 0x3E, 0x81, 0x01, 0x3F]).1 rfl

end BacnetSim
