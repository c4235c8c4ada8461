import BacnetSim.Codec.RequestSafety
import Mathlib.Algebra.BigOperators.Group.List.Basic

/-! The bodies that the decoder of ReadPropertyMultiple accepts: specs one behind the other,
each with its references between brackets. -/
namespace BacnetSim
open Rust Octets Tags

variable {body stream rest : Bytes} {pos : Nat}

def NoIndex (rest : Bytes) : Prop :=
  ∀ {body : Bytes} {pos : Nat}, Cursor body pos rest → hasContextTag body pos 1 = false

theorem noIndex_closing : NoIndex (encodeClosingTag 1 ++ rest) :=
  fun at_ => hasContextTag_closing (by decide) at_

structure ReferenceBody where
  property : FieldBody
  arrayIndex : Option FieldBody

namespace ReferenceBody

def octets (r : ReferenceBody) : Bytes := r.property.octets true 0 ++ optionalOctets 1 r.arrayIndex

def request (r : ReferenceBody) : PropertyReference :=
  (.fromU32 (ofBe32 r.property.content), r.arrayIndex.map fun f => ofBe32 f.content)

theorem octets_append (r : ReferenceBody) (rest : Bytes) :
    r.octets ++ rest = r.property.octets true 0 ++ (optionalOctets 1 r.arrayIndex ++ rest) :=
  List.append_assoc _ _ _

theorem octets_pos (r : ReferenceBody) : 0 < r.octets.length := by
  have head := r.property.octets_length true 0
  rw [octets, List.length_append]
  omega

theorem decode_octets {r : ReferenceBody} (settled : Settled 1 r.arrayIndex rest)
    (at_ : Cursor body pos (r.octets ++ rest)) :
    decodeReference body pos = .ok (r.request, pos + r.octets.length) := by
  rw [octets_append] at at_
  have first := decodeCtxPropertyId_octets (by decide) at_
  have second := optional_octets (by decide) settled at_.advance
  simp only [decodeReference, first, second, ok_bind, octets, List.length_append, Nat.add_assoc]
  rfl

theorem of_decode {a : PropertyReference × Nat} (at_ : Cursor body pos stream)
    (read : decodeReference body pos = .ok a) :
    ∃ (r : ReferenceBody) (rest : Bytes), stream = r.octets ++ rest ∧
      a = (r.request, pos + r.octets.length) := by
  have again := read
  obtain ⟨⟨id, afterProperty⟩, property, read⟩ := bind_eq_ok read
  obtain ⟨f, rest, rfl, stop⟩ := decodeCtxPropertyId_accepted (by decide) at_ property
  obtain rfl : afterProperty = pos + (f.octets true 0).length := stop
  obtain ⟨index, optional, _⟩ := bind_eq_ok read
  obtain ⟨i, rest, rfl, settled, _⟩ := optional_accepted (by decide) at_.advance optional
  let r : ReferenceBody := ⟨f, i⟩
  rw [← r.octets_append] at at_
  have whole := decode_octets (r := r) settled at_
  refine ⟨r, rest, (r.octets_append rest).symm, ?_⟩
  cases again.symm.trans whole
  rfl

theorem noIndex_octets (r : ReferenceBody) : NoIndex (r.octets ++ rest) := by
  intro body pos at_
  rw [octets_append] at at_
  exact hasContextTag_field (by decide) r.property.fits at_

theorem isClosing_octets {r : ReferenceBody} (at_ : Cursor body pos (r.octets ++ rest)) :
    isClosing body pos 1 = false := by
  rw [octets_append] at at_
  exact isClosing_field (by decide) r.property.fits at_

end ReferenceBody

theorem referenceLoop_item {r : ReferenceBody} (noIndex : NoIndex rest)
    (at_ : Cursor body pos (r.octets ++ rest)) :
    (referenceLoop body).turn pos = .ok (.item r.request (pos + r.octets.length)) := by
  have length := at_.length
  have positive := r.octets_pos
  rw [List.length_append] at length
  have settled : Settled 1 r.arrayIndex rest := fun _ => noIndex (.start rest)
  simp only [referenceLoop, ReferenceBody.isClosing_octets at_, ReferenceBody.decode_octets settled at_]
  rw [if_neg (by decide), if_neg (by omega)]
  rfl

theorem referenceLoop_done (at_ : Cursor body pos (encodeClosingTag 1 ++ rest)) :
    (referenceLoop body).turn pos = .ok (.done (pos + 1)) := by
  simp [referenceLoop, isClosing_encode (by decide) at_]

theorem referenceLoop_octets {refs : List ReferenceBody}
    (at_ : Cursor body pos (refs.flatMap (·.octets) ++ (encodeClosingTag 1 ++ rest))) :
    (referenceLoop body).run pos =
      .ok (refs.map (·.request), pos + (refs.flatMap (·.octets)).length + 1) :=
  Loop.run_inverts NoIndex _ 1 (fun (_ : True) noIndex here => referenceLoop_item noIndex here)
    (ReferenceBody.noIndex_octets _) noIndex_closing referenceLoop_done (fun _ _ => trivial) at_

theorem referenceLoop_accepted {r : List PropertyReference × Nat} (at_ : Cursor body pos stream)
    (ran : (referenceLoop body).run pos = .ok r) :
    ∃ (refs : List ReferenceBody) (rest : Bytes),
      stream = refs.flatMap (·.octets) ++ (encodeClosingTag 1 ++ rest) := by
  refine Loop.run_invariant (I := fun pos _ _ => ∀ stream, Cursor body pos stream →
    ∃ (refs : List ReferenceBody) (rest : Bytes),
      stream = refs.flatMap (·.octets) ++ (encodeClosingTag 1 ++ rest)) ?_ ?_ ran stream at_
  · intro pos stop read stream at_
    simp only [referenceLoop] at read
    split at read
    · rename_i closing
      obtain ⟨rest, rfl⟩ := isClosing_accepted at_ closing
      exact ⟨[], rest, rfl⟩
    · split at read
      · cases read
      · obtain ⟨a, _, eq⟩ := bind_eq_ok read
        cases eq
  · intro pos a next items stop read tail stream at_
    simp only [referenceLoop] at read
    split at read
    · cases read
    · split at read
      · cases read
      · obtain ⟨a, reference, eq⟩ := bind_eq_ok read
        cases eq
        obtain ⟨r, rest, rfl, rfl⟩ := ReferenceBody.of_decode at_ reference
        obtain ⟨refs, rest, rfl⟩ := tail _ at_.advance
        refine ⟨r :: refs, rest, ?_⟩
        rw [List.flatMap_cons, List.append_assoc]

structure SpecBody where
  object : FieldBody
  references : List ReferenceBody
  identifier : object.content.length = 4

namespace SpecBody

def octets (s : SpecBody) : Bytes :=
  s.object.octets true 0 ++ (encodeOpeningTag 1 ++
    (s.references.flatMap (·.octets) ++ encodeClosingTag 1))

def request (s : SpecBody) : ReadAccessSpec :=
  (objectIdOfRaw (ofBe32 s.object.content), s.references.map (·.request))

theorem octets_append (s : SpecBody) (rest : Bytes) :
    s.octets ++ rest = s.object.octets true 0 ++ (encodeOpeningTag 1 ++
      (s.references.flatMap (·.octets) ++ (encodeClosingTag 1 ++ rest))) := by
  simp only [octets, List.append_assoc]

theorem decode_octets {s : SpecBody} (at_ : Cursor body pos (s.octets ++ rest)) :
    decodeSpec body pos = .ok (s.request, pos + s.octets.length) := by
  rw [octets_append] at at_
  have object := decodeCtxObjectId_octets (by decide) s.identifier at_
  have opening := isOpening_encode (by decide) at_.advance
  have refs := referenceLoop_octets at_.advance.advance
  have bracket : (encodeOpeningTag 1).length = 1 := rfl
  have closing : (encodeClosingTag 1).length = 1 := rfl
  rw [bracket] at refs
  simp only [decodeSpec, object, ok_bind, opening, refs, Bool.not_true, Bool.false_eq_true, if_false,
    octets, List.length_append, bracket, closing]
  simp only [Nat.add_assoc]
  rfl

theorem of_decode {a : ReadAccessSpec × Nat} (at_ : Cursor body pos stream)
    (read : decodeSpec body pos = .ok a) :
    ∃ (s : SpecBody) (rest : Bytes), stream = s.octets ++ rest ∧
      a = (s.request, pos + s.octets.length) := by
  have again := read
  obtain ⟨⟨oid, afterObject⟩, object, read⟩ := bind_eq_ok read
  obtain ⟨f, rest, four, rfl, stop⟩ := decodeCtxObjectId_accepted (by decide) at_ object
  obtain rfl : afterObject = pos + (f.octets true 0).length := stop
  dsimp only at read
  split at read
  · cases read
  rename_i bracket
  obtain ⟨rest, rfl⟩ := isOpening_accepted at_.advance (by simpa using bracket)
  obtain ⟨props, loop, _⟩ := bind_eq_ok read
  obtain ⟨refs, rest, rfl⟩ := referenceLoop_accepted at_.advance.advance loop
  let s : SpecBody := ⟨f, refs, four⟩
  rw [← s.octets_append] at at_
  have whole := decode_octets (s := s) at_
  refine ⟨s, rest, (s.octets_append rest).symm, ?_⟩
  cases again.symm.trans whole
  rfl

theorem octets_length (s : SpecBody) : 7 + s.references.length ≤ s.octets.length := by
  have object := s.object.octets_length true 0
  have identifier := s.identifier
  have bracket : (encodeOpeningTag 1).length = 1 := rfl
  have closing : (encodeClosingTag 1).length = 1 := rfl
  have refs : s.references.length ≤ (s.references.flatMap (·.octets)).length := by
    rw [List.length_flatMap, ← List.length_map (·.octets.length)]
    refine List.length_le_sum_of_one_le _ fun n mem => ?_
    obtain ⟨r, _, rfl⟩ := List.mem_map.mp mem
    exact r.octets_pos
  simp only [octets, List.length_append, bracket, closing]
  omega

end SpecBody

theorem specLoop_item {s : SpecBody} (at_ : Cursor body pos (s.octets ++ rest)) :
    (specLoop body).turn pos = .ok (.item s.request (pos + s.octets.length)) := by
  have length := at_.length
  have positive := s.octets_length
  rw [List.length_append] at length
  simp only [specLoop, SpecBody.decode_octets at_]
  rw [if_pos (by omega)]
  rfl

theorem specLoop_done (at_ : Cursor body pos []) : (specLoop body).turn pos = .ok (.done pos) := by
  have length := at_.length
  simp only [specLoop]
  rw [if_neg (by simp [length])]

theorem specLoop_octets {specs : List SpecBody} (at_ : Cursor body pos (specs.flatMap (·.octets))) :
    (specLoop body).run pos = .ok (specs.map (·.request), body.length) := by
  have total := at_.length
  rw [← List.append_nil (specs.flatMap _)] at at_
  have loop : (specLoop body).run pos = _ :=
    Loop.run_inverts (fun _ => True) [] 0 (fun (_ : True) _ here => specLoop_item here)
      trivial trivial specLoop_done (fun _ _ => trivial) at_
  rw [loop, Nat.add_zero, ← total]

theorem specLoop_accepted {r : List ReadAccessSpec × Nat} (at_ : Cursor body pos stream)
    (ran : (specLoop body).run pos = .ok r) :
    ∃ specs : List SpecBody, stream = specs.flatMap (·.octets) := by
  refine Loop.run_invariant (I := fun pos _ _ => ∀ stream, Cursor body pos stream →
    ∃ specs : List SpecBody, stream = specs.flatMap (·.octets)) ?_ ?_ ran stream at_
  · intro pos stop read stream at_
    have total := at_.length
    simp only [specLoop] at read
    split at read
    · obtain ⟨a, _, eq⟩ := bind_eq_ok read
      cases eq
    · refine ⟨[], List.length_eq_zero_iff.mp ?_⟩
      omega
  · intro pos a next items stop read tail stream at_
    simp only [specLoop] at read
    split at read
    · obtain ⟨a, spec, eq⟩ := bind_eq_ok read
      cases eq
      obtain ⟨s, rest, rfl, rfl⟩ := SpecBody.of_decode at_ spec
      obtain ⟨specs, rfl⟩ := tail _ at_.advance
      exact ⟨s :: specs, rfl⟩
    · cases read

theorem decodeRpm_octets (specs : List SpecBody) :
    decodeRpm (specs.flatMap (·.octets)) = .ok (specs.map (·.request)) := by
  rw [decodeRpm, specLoop_octets (.start _), ok_bind]

theorem decodeRpm_accepted {read : List ReadAccessSpec} (decoded : decodeRpm body = .ok read) :
    ∃ specs : List SpecBody, body = specs.flatMap (·.octets) ∧ read = specs.map (·.request) := by
  have again := decoded
  obtain ⟨r, loop, _⟩ := bind_eq_ok decoded
  obtain ⟨specs, rfl⟩ := specLoop_accepted (.start body) loop
  cases again.symm.trans (decodeRpm_octets specs)
  exact ⟨specs, rfl, rfl⟩

theorem specs_length (specs : List SpecBody) :
    7 * specs.length + (specs.map (·.references.length)).sum ≤ (specs.flatMap (·.octets)).length := by
  induction specs with
  | nil => exact Nat.le_refl 0
  | cons s specs ih =>
    have head := s.octets_length
    simp only [List.length_cons, List.map_cons, List.sum_cons, List.flatMap_cons, List.length_append]
    omega

/-- Each loop ends after at most one turn for each octet and a last one, nothing is read outside
the body, and an accepted body is read to its last octet and pays for all that it asks. -/
theorem decodeRpm_ends (body : Bytes) :
    (∀ pos, (referenceLoop body).runWithin (body.length + 1) pos = some ((referenceLoop body).run pos)) ∧
      (specLoop body).runWithin (body.length + 1) 0 = some ((specLoop body).run 0) ∧
      Safe (decodeRpm body) ∧
      ∀ specs, decodeRpm body = .ok specs →
        (specLoop body).run 0 = .ok (specs, body.length) ∧
          7 * specs.length + (specs.map (·.2.length)).sum ≤ body.length := by
  have enough (pos : Nat) : body.length - pos < body.length + 1 := by omega
  refine ⟨fun pos => Loop.runWithin_eq (enough pos), Loop.runWithin_eq (enough 0), decodeRpm_safe body, ?_⟩
  intro read decoded
  obtain ⟨specs, rfl, rfl⟩ := decodeRpm_accepted decoded
  have size := specs_length specs
  refine ⟨specLoop_octets (.start _), ?_⟩
  have same : (specs.map (·.request)).map (·.2.length) = specs.map (·.references.length) := by
    rw [List.map_map]
    refine List.map_congr_left fun s _ => ?_
    exact List.length_map _
  rw [same, List.length_map]
  exact size

def twoReferences : SpecBody where
  object := ⟨false, [0, 0, 0, 1], fits_of_short (by decide)⟩
  references :=
    [⟨⟨false, [85], fits_of_short (by decide)⟩, none⟩,
      ⟨⟨false, [77], fits_of_short (by decide)⟩, some ⟨false, [2], fits_of_short (by decide)⟩⟩]
  identifier := rfl

theorem twoReferences_end : 7 * 1 + 2 ≤
    ([0x0C, 0, 0, 0, 1, 0x1E, 0x09, 85, 0x09, 77, 0x19, 2, 0x1F] : Bytes).length := by
  have octets : [twoReferences].flatMap (·.octets) =
      [0x0C, 0, 0, 0, 1, 0x1E, 0x09, 85, 0x09, 77, 0x19, 2, 0x1F] := by decide
  have decoded := decodeRpm_octets [twoReferences]
  rw [octets] at decoded
  exact ((decodeRpm_ends _).2.2.2 _ decoded).2

end BacnetSim
