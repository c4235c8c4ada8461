import BacnetSim.Encoding.Advance
import BacnetSim.Encoding.Fields
import BacnetSim.Lib.Loop

/-! Confirmed-request PDUs (`apdu/confirmed.rs`). -/
namespace BacnetSim
open Rust Tags

inductive MaxSegments where
  | two | four | eight | sixteen | thirtyTwo | sixtyFour | moreThan64 | unspecified
  deriving DecidableEq, Repr

structure ReadPropertyRequest where
  objectId : ObjectId
  propertyId : PropertyIdentifier
  arrayIndex : Option UInt32
  deriving DecidableEq, Repr

structure WritePropertyRequest where
  objectId : ObjectId
  propertyId : PropertyIdentifier
  arrayIndex : Option UInt32
  value : PropertyValue
  priority : Option UInt8
  deriving Repr

structure SubscribeCovRequest where
  subscriberProcessId : UInt32
  monitoredObject : ObjectId
  issueConfirmed : Option Bool
  lifetime : Option UInt32
  deriving DecidableEq, Repr

abbrev PropertyReference := PropertyIdentifier × Option UInt32

abbrev ReadAccessSpec := ObjectId × List PropertyReference

inductive ConfirmedServiceRequest where
  | readProperty (req : ReadPropertyRequest)
  | writeProperty (req : WritePropertyRequest)
  | subscribeCov (req : SubscribeCovRequest)
  | readPropertyMultiple (specs : List ReadAccessSpec)
  deriving Repr

structure ConfirmedRequest where
  segmentedAccepted : Bool
  moreFollows : Bool
  segmentedResponseAccepted : Bool
  maxSegments : MaxSegments
  maxResponse : UInt16
  invokeId : UInt8
  sequenceNumber : Option UInt8
  proposedWindow : Option UInt8
  service : ConfirmedServiceRequest
  deriving Repr

/-- `if has_context_tag(body, pos, n) { Some(decode(body, &mut pos, n)?) } else { None }`. -/
def decodeOptional {α : Type} (decode : Bytes → Nat → UInt8 → Result (α × Nat)) (body : Bytes)
    (pos : Nat) (number : UInt8) : Result (Option α × Nat) :=
  if hasContextTag body pos number then do
    let (v, pos) ← decode body pos number
    .ok (some v, pos)
  else .ok (none, pos)

section Optional
variable {body rest content : Bytes} {pos : Nat} {t : UInt8}

theorem decodeOptional_absent {α : Type} {decode : Bytes → Nat → UInt8 → Result (α × Nat)}
    (absent : hasContextTag body pos t = false) :
    decodeOptional decode body pos t = .ok (none, pos) := by
  rw [decodeOptional, absent]
  rfl

theorem decodeOptional_field {extended : Bool} (ht : t < 15) (fits : FieldFits extended content)
    (at_ : Cursor body pos (field true t extended content ++ rest)) :
    decodeOptional decodeCtxU32 body pos t =
      .ok (some (Octets.ofBe32 content), pos + (field true t extended content).length) := by
  have present := hasContextTag_field (n := t) ht fits at_
  rw [beq_self_eq_true] at present
  rw [decodeOptional, if_pos present, decodeCtxU32_field ht fits at_, ok_bind]

theorem decodeOptional_written {v : Option UInt32} (ht : t < 15)
    (absent : v = none → hasContextTag body pos t = false)
    (at_ : Cursor body pos ((v.map (encodeCtxU32 t)).getD [] ++ rest)) :
    decodeOptional decodeCtxU32 body pos t =
      .ok (v, pos + ((v.map (encodeCtxU32 t)).getD []).length) := by
  cases v with
  | none => exact decodeOptional_absent (absent rfl)
  | some v =>
    rw [Option.map_some, Option.getD_some, encodeCtxU32_eq] at at_ ⊢
    rw [decodeOptional_field ht (fits_of_short (uintContent_length v).2.2) at_, ofBe32_uintContent]

end Optional

def decodeReadProperty (body : Bytes) : Result ReadPropertyRequest := do
  let (objectId, pos) ← decodeCtxObjectId body 0 0
  let (propertyId, pos) ← decodeCtxPropertyId body pos 1
  let (arrayIndex, _) ← decodeOptional decodeCtxU32 body pos 2
  .ok { objectId, propertyId, arrayIndex }

def decodeWriteProperty (body : Bytes) : Result WritePropertyRequest := do
  let (objectId, pos) ← decodeCtxObjectId body 0 0
  let (propertyId, pos) ← decodeCtxPropertyId body pos 1
  let (arrayIndex, pos) ← decodeOptional decodeCtxU32 body pos 2
  if !isOpening body pos 3 then
    fail (.decodeError "WriteProperty: expected opening tag [3] for property-value")
  else
    let (value, pos) ← decodeApplicationValue body (pos + 1)
    if !isClosing body pos 3 then
      fail (.decodeError "WriteProperty: expected closing tag [3] for property-value")
    else
      let (priority, _) ← decodeOptional decodeCtxU32 body (pos + 1) 4
      .ok { objectId, propertyId, arrayIndex, value, priority := priority.map UInt32.toUInt8 }

def decodeReference (body : Bytes) (pos : Nat) : Result (PropertyReference × Nat) := do
  let (propId, pos) ← decodeCtxPropertyId body pos 0
  let (arrIdx, pos) ← decodeOptional decodeCtxU32 body pos 1
  .ok ((propId, arrIdx), pos)

theorem decodeReference_advances {body : Bytes} {pos : Nat} {r : PropertyReference × Nat}
    (read : decodeReference body pos = .ok r) : pos < r.2 := by
  obtain ⟨prop, first, rest⟩ := bind_eq_ok read
  obtain ⟨idx, second, done⟩ := bind_eq_ok rest
  cases done
  have past := decodeCtxPropertyId_advances first
  unfold decodeOptional at second
  split at second
  · obtain ⟨v, number, stop⟩ := bind_eq_ok second
    cases stop
    exact Nat.lt_trans past (decodeCtxU32_advances number)
  · cases second
    exact past

def referenceLoop (body : Bytes) : Loop BacnetError PropertyReference where
  limit := body.length
  turn pos :=
    if isClosing body pos 1 then .ok (.done (pos + 1))
    else if pos ≥ body.length then
      fail (.decodeError "RPM: unexpected end of buffer in property list")
    else do
      let (prop, next) ← decodeReference body pos
      .ok (.item prop next)
  forward {pos a next} read := by
    split at read
    · cases read
    · split at read
      · cases read
      · obtain ⟨r, reference, eq⟩ := bind_eq_ok read
        cases eq
        exact ⟨by omega, decodeReference_advances reference⟩

def decodeSpec (body : Bytes) (pos : Nat) : Result (ReadAccessSpec × Nat) := do
  let (objectId, pos) ← decodeCtxObjectId body pos 0
  if !isOpening body pos 1 then
    fail (.decodeError "RPM: expected opening tag [1] for property list")
  else
    let (props, pos) ← (referenceLoop body).run (pos + 1)
    .ok ((objectId, props), pos)

theorem referenceLoop_advances {body : Bytes} {pos : Nat} {r : List PropertyReference × Nat}
    (ran : (referenceLoop body).run pos = .ok r) : pos < r.2 := by
  refine Loop.run_invariant (I := fun pos _ stop => pos < stop) ?_ ?_ ran
  · intro pos stop read
    simp only [referenceLoop] at read
    split at read
    · cases read
      exact Nat.lt_succ_self _
    · split at read
      · cases read
      · obtain ⟨r, _, eq⟩ := bind_eq_ok read
        cases eq
  · intro pos a next items stop read tail
    exact Nat.lt_trans ((referenceLoop body).forward read).2 tail

theorem decodeSpec_advances {body : Bytes} {pos : Nat} {r : ReadAccessSpec × Nat}
    (read : decodeSpec body pos = .ok r) : pos < r.2 := by
  obtain ⟨⟨object, start⟩, first, rest⟩ := bind_eq_ok read
  have past := decodeCtxObjectId_advances first
  simp only at past rest
  split at rest
  · cases rest
  · obtain ⟨⟨props, stop⟩, loop, eq⟩ := bind_eq_ok rest
    cases eq
    have onward := referenceLoop_advances loop
    exact Nat.lt_trans past (Nat.lt_of_succ_lt onward)

def specLoop (body : Bytes) : Loop BacnetError ReadAccessSpec where
  limit := body.length
  turn pos :=
    if pos < body.length then do
      let (spec, next) ← decodeSpec body pos
      .ok (.item spec next)
    else .ok (.done pos)
  forward {pos a next} read := by
    split at read
    · obtain ⟨r, spec, eq⟩ := bind_eq_ok read
      cases eq
      exact ⟨by assumption, decodeSpec_advances spec⟩
    · cases read

def decodeRpm (body : Bytes) : Result (List ReadAccessSpec) := do
  let (specs, _) ← (specLoop body).run 0
  .ok specs

def decodeSubscribeCov (body : Bytes) : Result SubscribeCovRequest := do
  let (subscriberProcessId, pos) ← decodeCtxU32 body 0 0
  let (monitoredObject, pos) ← decodeCtxObjectId body pos 1
  let (issueConfirmed, pos) ← decodeOptional decodeCtxBool body pos 2
  let (lifetime, _) ← decodeOptional decodeCtxU32 body pos 3
  .ok { subscriberProcessId, monitoredObject, issueConfirmed, lifetime }

namespace ConfirmedRequest

/-- The request's first four octets; the source writes no body. -/
def encode (r : ConfirmedRequest) : Bytes :=
  let flags : UInt8 :=
    (if r.segmentedAccepted then 0x08 else 0x00) ||| (if r.moreFollows then 0x04 else 0x00)
  let choice : UInt8 :=
    match r.service with
    | .readProperty _ => 12
    | .writeProperty _ => 15
    | .subscribeCov _ => 5
    | .readPropertyMultiple _ => 14
  [flags, 0x04, r.invokeId, choice]

def decode : Bytes → Result ConfirmedRequest
  | flags :: _ :: invokeId :: serviceChoice :: body => do
    let service ← match serviceChoice.toNat with
      | 12 => do .ok (.readProperty (← decodeReadProperty body))
      | 14 => do .ok (.readPropertyMultiple (← decodeRpm body))
      | 15 => do .ok (.writeProperty (← decodeWriteProperty body))
      | 5 => do .ok (.subscribeCov (← decodeSubscribeCov body))
      | other => fail (.decodeError s!"unsupported confirmed service choice {other}")
    .ok
      { segmentedAccepted := flags &&& 0x08 != 0
        moreFollows := flags &&& 0x04 != 0
        segmentedResponseAccepted := true
        maxSegments := .unspecified
        maxResponse := 480
        invokeId
        sequenceNumber := none
        proposedWindow := none
        service }
  | _ => fail (.decodeError "confirmed request too short")

end ConfirmedRequest

end BacnetSim
