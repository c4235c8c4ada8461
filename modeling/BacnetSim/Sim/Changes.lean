import BacnetSim.Sim.Answers

/-! Who can change an object of the simulator, in any run of it. -/
namespace BacnetSim
open Rust Ieee754 Transitions

namespace Simulator
variable {M R N : Type} [ValueModel M R] [JsonNumber N] (hash : Hasher) (arith : RealArith)
  (text : ApiText N)

structure Sound (start : Simulator M R) (past : List (Event N)) (s : Simulator M R) : Prop where
  keeps : Keeps start s
  sessions : ∀ src device, AList.lookup src s.sourceDeviceMap = some device → device.id ∈ start.devices
  ticking : ∀ t, s.ticking = some t → .tick t.clock ∈ past
  driving : ∀ turn pv, s.driving = some (turn, pv) → .look turn ∈ past

variable {hash arith text} {start s s' : Simulator M R} {e : Event N} {past : List (Event N)}

theorem resolved_registered {d : ApduDispatcher Object} {devices : HashMap UInt32 DeviceInfo}
    (same : d.devices = devices) (registered : ∀ info ∈ devices.values, info.deviceId.id ∈ devices)
    (sessions : ∀ src device, AList.lookup src d.sourceDeviceMap = some device → device.id ∈ devices)
    {req : ConfirmedRequest} {src : NetworkAddress} {device : DeviceId}
    (resolved : (d.resolveDevice req src).1 = .ok device) : device.id ∈ devices := by
  have first : ∀ device, d.firstDevice = .ok device → device.id ∈ devices := by
    intro device found
    obtain ⟨info, head, rfl⟩ := Option.map_eq_some_iff.mp (okOr_eq_ok found)
    rw [same] at head
    exact registered info (List.mem_of_mem_head? head)
  cases primary : req.service.primaryObject with
  | none =>
    unfold ApduDispatcher.resolveDevice at resolved
    cases service : req.service with
    | readProperty r =>
      rw [service] at primary
      cases primary
    | writeProperty w =>
      rw [service] at primary
      cases primary
    | readPropertyMultiple specs =>
      rw [service] at primary resolved
      cases specs with
      | nil => cases resolved
      | cons spec specs => cases primary
    | subscribeCov sub =>
      rw [service] at resolved
      exact first device resolved
  | some oid =>
    rw [d.resolveDevice_primary primary] at resolved
    by_cases type : oid.objectType = .device
    · by_cases known : oid.instanceNumber ∈ d.devices
      · rw [ApduDispatcher.resolveTarget_registered d type known] at resolved
        cases resolved
        exact same ▸ known
      · rw [ApduDispatcher.resolveTarget_unregistered d type known] at resolved
        cases resolved
    · rw [ApduDispatcher.resolveTarget_other d type] at resolved
      cases held : AList.lookup src d.sourceDeviceMap with
      | some cached =>
        rw [held] at resolved
        cases resolved
        exact sessions src device held
      | none =>
        rw [held] at resolved
        exact first device resolved

omit [ValueModel M R] [JsonNumber N] in
theorem Sound.session (sound : Sound start past s) (req : ConfirmedRequest) (src client : NetworkAddress)
    {device : DeviceId}
    (held : AList.lookup client (s.dispatcher.resolveDevice req src).2.sourceDeviceMap = some device) :
    device.id ∈ start.devices := by
  have same : s.dispatcher.devices = start.devices := sound.keeps.devices
  obtain ⟨here, others⟩ := s.dispatcher.resolveDevice_session req src
  by_cases own : client = src
  · subst own
    rw [here] at held
    rcases Option.or_eq_some_iff.mp held with named | ⟨_, old⟩
    · exact same ▸ registeredDevice_mem named
    · exact sound.sessions client device old
  · rw [others client own] at held
    exact sound.sessions client device held

theorem Sound.step (sound : Sound start past s) (taken : s.next hash arith text e = some s') :
    Sound start (e :: past) s' := by
  have keeps := sound.keeps.trans (next_keeps taken)
  have earlier : ∀ t, s.ticking = some t → .tick t.clock ∈ e :: past := fun t ticking =>
    List.mem_cons_of_mem e (sound.ticking t ticking)
  have before : ∀ turn pv, s.driving = some (turn, pv) → .look turn ∈ e :: past := fun turn pv driving =>
    List.mem_cons_of_mem e (sound.driving turn pv driving)
  cases next_effect taken with
  | @unresolved task now frame req | @resolved task now frame req =>
    exact ⟨keeps, fun client device => sound.session req frame.src client, earlier, before⟩
  | @ticked clock =>
    refine ⟨keeps, sound.sessions, fun t ticking => ?_, before⟩
    cases ticking
    exact List.mem_cons_self
  | swept ticking =>
    have started := earlier _ ticking
    refine ⟨keeps, sound.sessions, fun t now => ?_, before⟩
    cases now
    exact started
  | tickEnded =>
    refine ⟨keeps, sound.sessions, fun t ticking => ?_, before⟩
    cases ticking
  | @looked turn idle =>
    refine ⟨keeps, sound.sessions, earlier, fun turn' pv driving => ?_⟩
    obtain ⟨_, _, eq⟩ := Option.map_eq_some_iff.mp driving
    cases eq
    exact List.mem_cons_self
  | drove =>
    refine ⟨keeps, sound.sessions, earlier, fun turn pv driving => ?_⟩
    cases driving
  | _ => exact ⟨keeps, sound.sessions, earlier, before⟩

omit [ValueModel M R] [JsonNumber N] in
theorem Fresh.sound (fresh : start.Fresh) : Sound start ([] : List (Event N)) start where
  keeps := .refl start
  sessions src device held := by
    rw [fresh.sessions] at held
    cases held
  ticking t ticking := by
    rw [fresh.idle] at ticking
    cases ticking
  driving turn pv driving := by
    rw [fresh.undriven] at driving
    cases driving

theorem reached_sound (fresh : start.Fresh) (run : reached (next hash arith text) start past = some s) :
    Sound start past s :=
  reached_invariant (I := fun past s => Sound start past s) fresh.sound
    (fun sound taken => sound.step taken) run

theorem Resolves.registered (fresh : start.Fresh) {task : Nat} {src : NetworkAddress}
    {req : ConfirmedRequest} {device : DeviceId}
    (resolves : Resolves hash arith text start past task src req device) : device.id ∈ start.devices := by
  obtain ⟨now, s, ⟨earlier, _, run⟩, resolved⟩ := resolves
  have sound := reached_sound fresh run
  exact resolved_registered sound.keeps.devices fresh.registered sound.sessions resolved

variable (hash arith text)

inductive ChangedBy (start : Simulator M R) (past : List (Event N)) (r : ObjectRef) : Prop
  | request {task : Nat} {frame : InboundFrame} {req : ConfirmedRequest} {w : WritePropertyRequest}
    {device : DeviceId} {now : Clock} {s : Simulator M R} (heard : (framesOf past)[task]? = some frame)
    (asked : frame.confirmedRequest = some req) (writes : req.service = .writeProperty w)
    (resolves : Resolves hash arith text start past task frame.src req device)
    (registered : device.id ∈ start.devices)
    (served : Took (next hash arith text) start past (.serve task now) s)
    (pending : s.tasks[task]? = some (.resolved frame.src req device))
    (here : r = shardKey hash device w.objectId)
  | tick {clock : TickClock} (ticked : .tick clock ∈ past) (moves : start.Moves r)
  | put {now : Now} {devId : UInt32} {objType : String} {inst : UInt32} {prop : String}
    {value : Json N} {t : ObjectType} (asked : .put now devId objType inst prop value ∈ past)
    (type : Rest.parseObjectType text.lowercase objType = .ok t)
    (here : r = shardKey hash ⟨devId⟩ ⟨t, inst⟩)
  | setAnalog {now : Now} {deviceId objectType inst : Int64} {value : F64}
    (called : .setAnalog now deviceId objectType inst value ∈ past)
    (here : r = shardKey hash (Scenario.deviceNamed deviceId)
      (Scenario.objectNamed .analogInput objectType inst))
  | setBinary {now : Now} {deviceId objectType inst : Int64} {value : Bool}
    (called : .setBinary now deviceId objectType inst value ∈ past)
    (here : r = shardKey hash (Scenario.deviceNamed deviceId)
      (Scenario.objectNamed .binaryInput objectType inst))
  | drive {turn : ScheduleTurn} (looked : .look turn ∈ past) (here : r = turn.target hash)

variable {hash arith text} {r : ObjectRef}

theorem ChangedBy.later (by_ : ChangedBy hash arith text start past r) :
    ChangedBy hash arith text start (e :: past) r := by
  cases by_ with
  | request heard asked writes resolves registered served pending here =>
    exact .request (framesOf_later heard) asked writes resolves.later registered served.later pending here
  | tick ticked moves => exact .tick (List.mem_cons_of_mem e ticked) moves
  | put asked type here => exact .put (List.mem_cons_of_mem e asked) type here
  | setAnalog called here => exact .setAnalog (List.mem_cons_of_mem e called) here
  | setBinary called here => exact .setBinary (List.mem_cons_of_mem e called) here
  | drive looked here => exact .drive (List.mem_cons_of_mem e looked) here

end Simulator

end BacnetSim
