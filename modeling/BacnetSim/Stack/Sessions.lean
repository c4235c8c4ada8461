import BacnetSim.Lib.Transitions
import BacnetSim.Stack.SameObject

/-! Which device a client's requests go to, over every interleaving of the tasks that
`run` spawns. -/
namespace BacnetSim
open Rust Transitions

/-- `target_oid` of `resolve_device`, where the request has one. -/
def ConfirmedServiceRequest.primaryObject : ConfirmedServiceRequest → Option ObjectId
  | .readProperty r => some r.objectId
  | .writeProperty w => some w.objectId
  | .readPropertyMultiple specs => specs.head?.map (·.1)
  | .subscribeCov _ => none

/-- The request that `handle_frame` hands to `handle_confirmed`. -/
def InboundFrame.confirmedRequest (frame : InboundFrame) : Option ConfirmedRequest :=
  match Npdu.decode frame.npdu with
  | .error _ => none
  | .ok npdu =>
    if npdu.control.networkMessage then none
    else
      match npdu.apdu with
      | [] => none
      | first :: rest =>
        if first &&& 0xF0 = 0x00 then (ConfirmedRequest.decode (first :: rest)).toOption else none

def registeredDevice (devices : HashMap UInt32 DeviceInfo) (req : ConfirmedRequest) :
    Option DeviceId :=
  match req.service.primaryObject with
  | some oid =>
    if oid.objectType = .device ∧ oid.instanceNumber ∈ devices then some ⟨oid.instanceNumber⟩
    else none
  | none => none

theorem registeredDevice_mem {devices : HashMap UInt32 DeviceInfo} {req : ConfirmedRequest}
    {device : DeviceId} (named : registeredDevice devices req = some device) :
    device.id ∈ devices := by
  unfold registeredDevice at named
  split at named
  · split at named
    · rename_i known
      cases named
      exact known.2
    · cases named
  · cases named

variable {Obj : Type}

namespace ApduDispatcher

theorem resolveTarget_registered (d : ApduDispatcher Obj) {oid : ObjectId}
    (device : oid.objectType = .device) (known : oid.instanceNumber ∈ d.devices)
    (src : NetworkAddress) :
    d.resolveTarget oid src =
      (.ok ⟨oid.instanceNumber⟩,
        { d with sourceDeviceMap := AList.insert src ⟨oid.instanceNumber⟩ d.sourceDeviceMap }) := by
  rw [resolveTarget, if_pos device]
  exact if_pos known

theorem resolveTarget_unregistered (d : ApduDispatcher Obj) {oid : ObjectId}
    (device : oid.objectType = .device) (unknown : oid.instanceNumber ∉ d.devices)
    (src : NetworkAddress) : d.resolveTarget oid src = (fail .unknownObject, d) := by
  rw [resolveTarget, if_pos device]
  exact if_neg unknown

theorem resolveTarget_other (d : ApduDispatcher Obj) {oid : ObjectId}
    (other : oid.objectType ≠ .device) (src : NetworkAddress) :
    d.resolveTarget oid src =
      (okOr ((AList.lookup src d.sourceDeviceMap).or (d.devices.values.head?.map (·.deviceId)))
        .unknownObject, d) := by
  rw [resolveTarget, if_neg other]
  cases AList.lookup src d.sourceDeviceMap <;> rfl

theorem resolveDevice_primary (d : ApduDispatcher Obj) {req : ConfirmedRequest} {oid : ObjectId}
    (primary : req.service.primaryObject = some oid) (src : NetworkAddress) :
    d.resolveDevice req src = d.resolveTarget oid src := by
  unfold resolveDevice
  cases service : req.service with
  | readProperty r =>
    rw [service] at primary
    cases primary
    rfl
  | writeProperty w =>
    rw [service] at primary
    cases primary
    rfl
  | readPropertyMultiple specs =>
    rw [service] at primary
    cases specs with
    | nil => cases primary
    | cons spec specs =>
      cases primary
      rfl
  | subscribeCov s =>
    rw [service] at primary
    cases primary

theorem resolveDevice_noPrimary (d : ApduDispatcher Obj) {req : ConfirmedRequest}
    (primary : req.service.primaryObject = none) (src : NetworkAddress) :
    (d.resolveDevice req src).2 = d := by
  unfold resolveDevice
  cases service : req.service with
  | readProperty r =>
    rw [service] at primary
    cases primary
  | writeProperty w =>
    rw [service] at primary
    cases primary
  | readPropertyMultiple specs =>
    rw [service] at primary
    cases specs with
    | nil => rfl
    | cons spec specs => cases primary
  | subscribeCov s => rfl

theorem resolveDevice_dispatcher (d : ApduDispatcher Obj) (req : ConfirmedRequest)
    (src : NetworkAddress) :
    (d.resolveDevice req src).2 =
      match registeredDevice d.devices req with
      | some device => { d with sourceDeviceMap := AList.insert src device d.sourceDeviceMap }
      | none => d := by
  cases primary : req.service.primaryObject with
  | none => simp only [d.resolveDevice_noPrimary primary, registeredDevice, primary]
  | some oid =>
    rw [d.resolveDevice_primary primary]
    by_cases device : oid.objectType = .device
    · by_cases known : oid.instanceNumber ∈ d.devices
      · simp only [d.resolveTarget_registered device known, registeredDevice, primary, device, known,
          and_self, if_true]
      · simp only [d.resolveTarget_unregistered device known, registeredDevice, primary, known,
          and_false, if_false]
    · simp only [d.resolveTarget_other device, registeredDevice, primary, device, false_and, if_false]

theorem resolveDevice_devices (d : ApduDispatcher Obj) (req : ConfirmedRequest)
    (src : NetworkAddress) : (d.resolveDevice req src).2.devices = d.devices := by
  rw [resolveDevice_dispatcher]
  split <;> rfl

theorem resolveDevice_session (d : ApduDispatcher Obj) (req : ConfirmedRequest)
    (src : NetworkAddress) :
    AList.lookup src (d.resolveDevice req src).2.sourceDeviceMap =
        (registeredDevice d.devices req).or (AList.lookup src d.sourceDeviceMap) ∧
      ∀ client, client ≠ src → AList.lookup client (d.resolveDevice req src).2.sourceDeviceMap =
        AList.lookup client d.sourceDeviceMap := by
  rw [resolveDevice_dispatcher]
  split
  · rename_i device named
    rw [named]
    exact ⟨AList.lookup_insert _, fun client other => AList.lookup_insert_ne other⟩
  · rename_i unnamed
    rw [unnamed]
    exact ⟨rfl, fun client _ => rfl⟩

end ApduDispatcher

inductive Phase where
  | idle
  /-- All of it; `none` when the frame is no confirmed request. -/
  | received (request : Option ConfirmedRequest)
  | resolved (req : ConfirmedRequest) (device : DeviceId)

/-- The shared dispatcher, and the one task that a client can have at a time. -/
structure System (Obj : Type) where
  dispatcher : ApduDispatcher Obj
  phase : NetworkAddress → Phase

inductive Action (Obj : Type) where
  | receive (frame : InboundFrame)
  /-- A task resolves the device, under the lock of the session map. -/
  | resolve (src : NetworkAddress)
  /-- Any step under the store's own locks, of a task or of the simulation. -/
  | store (store : ObjectStore Obj)
  | finish (src : NetworkAddress)

namespace System

def initial (devices : HashMap UInt32 DeviceInfo) (store : ObjectStore Obj) : System Obj :=
  ⟨⟨devices, store, ∅⟩, fun _ => .idle⟩

def setPhase (s : System Obj) (src : NetworkAddress) (phase : Phase) : System Obj :=
  { s with phase := Function.update s.phase src phase }

theorem setPhase_self (s : System Obj) (src : NetworkAddress) (phase : Phase) :
    (s.setPhase src phase).phase src = phase := Function.update_self _ _ _

theorem setPhase_other (s : System Obj) {src client : NetworkAddress} (phase : Phase)
    (other : client ≠ src) : (s.setPhase src phase).phase client = s.phase client :=
  Function.update_of_ne other _ _

def afterResolve (req : ConfirmedRequest) : Result DeviceId → Phase
  | .ok device => .resolved req device
  | .error _ => .idle

/-- One step of one party. A client sends nothing while it has a task. -/
def next (s : System Obj) : Action Obj → Option (System Obj)
  | .receive frame =>
    match s.phase frame.src with
    | .idle => some (s.setPhase frame.src (.received frame.confirmedRequest))
    | _ => none
  | .resolve src =>
    match s.phase src with
    | .received (some req) =>
      let (result, dispatcher) := s.dispatcher.resolveDevice req src
      some ({ s with dispatcher }.setPhase src (afterResolve req result))
    | _ => none
  | .store store => some { s with dispatcher := { s.dispatcher with store } }
  | .finish src =>
    match s.phase src with
    | .received none => some (s.setPhase src .idle)
    | .resolved _ _ => some (s.setPhase src .idle)
    | _ => none

theorem next_receive {s s' : System Obj} {frame : InboundFrame}
    (taken : s.next (.receive frame) = some s') :
    s.phase frame.src = .idle ∧ s' = s.setPhase frame.src (.received frame.confirmedRequest) := by
  simp only [next] at taken
  split at taken
  · rename_i idle
    exact ⟨idle, (Option.some.inj taken).symm⟩
  · cases taken

theorem next_resolve {s s' : System Obj} {src : NetworkAddress}
    (taken : s.next (.resolve src) = some s') :
    ∃ req, s.phase src = .received (some req) ∧
      s' = { s with dispatcher := (s.dispatcher.resolveDevice req src).2 }.setPhase src
        (afterResolve req (s.dispatcher.resolveDevice req src).1) := by
  simp only [next] at taken
  split at taken
  · rename_i req pending
    exact ⟨req, pending, (Option.some.inj taken).symm⟩
  · cases taken

theorem next_finish {s s' : System Obj} {src : NetworkAddress}
    (taken : s.next (.finish src) = some s') :
    (s.phase src = .received none ∨ ∃ req device, s.phase src = .resolved req device) ∧
      s' = s.setPhase src .idle := by
  simp only [next] at taken
  split at taken
  · rename_i nothing
    exact ⟨.inl nothing, (Option.some.inj taken).symm⟩
  · rename_i req device served
    exact ⟨.inr ⟨req, device, served⟩, (Option.some.inj taken).symm⟩
  · cases taken

section Alone
variable [BacnetObject Obj] (hash : Hasher)

omit [BacnetObject Obj] in
theorem setPhase_idle {s : System Obj} {src : NetworkAddress} (idle : s.phase src = .idle) :
    s.setPhase src .idle = s := by
  rw [setPhase, ← idle, Function.update_eq_self]

omit [BacnetObject Obj] in
theorem setPhase_setPhase (s : System Obj) (src : NetworkAddress) (phase phase' : Phase) :
    (s.setPhase src phase).setPhase src phase' = s.setPhase src phase' := by
  simp only [setPhase, Function.update_idem]

theorem serve_dispatcher (now : Clock) (d : ApduDispatcher Obj) (req : ConfirmedRequest)
    (device : DeviceId) :
    (d.serve hash now req device).2 = { d with store := (d.serve hash now req device).2.store } := by
  cases service : req.service <;> simp only [ApduDispatcher.serve, service]

theorem handleFrame_cases (now : Clock) (d : ApduDispatcher Obj) (frame : InboundFrame) :
    match frame.confirmedRequest with
    | some req => d.handleFrame hash now frame = d.handleConfirmed hash now req frame.src
    | none => (d.handleFrame hash now frame).dispatcher = d := by
  unfold ApduDispatcher.handleFrame InboundFrame.confirmedRequest
  cases Npdu.decode frame.npdu with
  | error f => rfl
  | ok npdu =>
    simp only
    by_cases local_ : npdu.control.networkMessage = true
    · simp only [if_pos local_]
    · simp only [if_neg local_]
      cases npdu.apdu with
      | nil => rfl
      | cons first rest =>
        simp only
        by_cases confirmed : first &&& 0xF0 = 0x00
        · simp only [if_pos confirmed]
          cases ConfirmedRequest.decode (first :: rest) with
          | ok req => rfl
          | error f => cases f <;> rfl
        · simp only [if_neg confirmed]
          split
          · cases UnconfirmedRequest.decode (first :: rest) with
            | ok req => cases req <;> rfl
            | error f => cases f <;> rfl
          · rfl

theorem handleFrame_confirmed (now : Clock) (d : ApduDispatcher Obj) {frame : InboundFrame}
    {req : ConfirmedRequest} (request : frame.confirmedRequest = some req) :
    d.handleFrame hash now frame = d.handleConfirmed hash now req frame.src := by
  have cases_ := handleFrame_cases hash now d frame
  rw [request] at cases_
  exact cases_

theorem handleFrame_dispatcher (now : Clock) (d : ApduDispatcher Obj) (frame : InboundFrame) :
    (d.handleFrame hash now frame).dispatcher =
      match frame.confirmedRequest with
      | some req => (d.handleConfirmed hash now req frame.src).dispatcher
      | none => d := by
  cases request : frame.confirmedRequest with
  | some req => rw [handleFrame_confirmed hash now d request]
  | none =>
    have cases_ := handleFrame_cases hash now d frame
    rw [request] at cases_
    exact cases_

theorem handleConfirmed_dispatcher (now : Clock) (d : ApduDispatcher Obj) (req : ConfirmedRequest)
    (src : NetworkAddress) :
    (d.handleConfirmed hash now req src).dispatcher =
      match (d.resolveDevice req src).1 with
      | .ok device => ((d.resolveDevice req src).2.serve hash now req device).2
      | .error _ => (d.resolveDevice req src).2 := by
  cases resolved : (d.resolveDevice req src).1 with
  | error f => rw [ApduDispatcher.handleConfirmed_unresolved hash now resolved]
  | ok device =>
    obtain ⟨apdu, served, _⟩ := (d.resolveDevice req src).2.serve_isReply hash now req device
    rw [ApduDispatcher.handleConfirmed_resolved hash now resolved served]

/-- A frame handled without interruption is a run of the system: all that `handle_frame`
does to the dispatcher are steps of it. -/
theorem handleFrame_reached (now : Clock) {s : System Obj} {frame : InboundFrame}
    (idle : s.phase frame.src = .idle) :
    ∃ actions, reached next s actions =
      some { s with dispatcher := (s.dispatcher.handleFrame hash now frame).dispatcher } := by
  rw [handleFrame_dispatcher]
  have received : reached next s [.receive frame] =
      some (s.setPhase frame.src (.received frame.confirmedRequest)) := by
    simp only [reached, Option.bind_some, next, idle]
  cases request : frame.confirmedRequest with
  | none =>
    rw [request] at received
    refine ⟨[.finish frame.src, .receive frame], ?_⟩
    rw [reached, received, Option.bind_some, next, setPhase_self]
    simp only [setPhase_setPhase, setPhase_idle idle]
  | some req =>
    rw [request] at received
    have resolved : reached next s [.resolve frame.src, .receive frame] =
        some ({ s with dispatcher := (s.dispatcher.resolveDevice req frame.src).2 }.setPhase frame.src
          (afterResolve req (s.dispatcher.resolveDevice req frame.src).1)) := by
      rw [reached, received, Option.bind_some, next, setPhase_self]
      simp only [setPhase, Function.update_idem]
    simp only [handleConfirmed_dispatcher]
    cases result : (s.dispatcher.resolveDevice req frame.src).1 with
    | error f =>
      rw [result] at resolved
      exact ⟨_, resolved.trans (congrArg some (setPhase_idle idle))⟩
    | ok device =>
      rw [result] at resolved
      refine ⟨[.finish frame.src, .store ((s.dispatcher.resolveDevice req frame.src).2.serve hash now
        req device).2.store, .resolve frame.src, .receive frame], ?_⟩
      rw [reached, reached, resolved]
      simp only [Option.bind_some, next, afterResolve, setPhase, Function.update_self,
        Function.update_idem]
      rw [serve_dispatcher, ← idle, Function.update_eq_self]

end Alone

def framesOf (src : NetworkAddress) (past : List (Action Obj)) : List InboundFrame :=
  past.filterMap fun
    | .receive frame => if frame.src = src then some frame else none
    | _ => none

def latestDevice (devices : HashMap UInt32 DeviceInfo) (frames : List InboundFrame) :
    Option DeviceId :=
  frames.findSome? fun frame => frame.confirmedRequest.bind (registeredDevice devices)

theorem framesOf_receive (frame : InboundFrame) (past : List (Action Obj)) :
    framesOf frame.src (.receive frame :: past) = frame :: framesOf frame.src past ∧
      ∀ src, src ≠ frame.src → framesOf src (.receive frame :: past) = framesOf src past :=
  ⟨by simp [framesOf], fun src other => by simp [framesOf, Ne.symm other]⟩

theorem latestDevice_cons (devices : HashMap UInt32 DeviceInfo) (frame : InboundFrame)
    (frames : List InboundFrame) :
    latestDevice devices (frame :: frames) =
      (frame.confirmedRequest.bind (registeredDevice devices)).or (latestDevice devices frames) := by
  rw [latestDevice, List.findSome?_cons]
  cases frame.confirmedRequest.bind (registeredDevice devices) <;> rfl

theorem latestDevice_mem {devices : HashMap UInt32 DeviceInfo} {frames : List InboundFrame}
    {device : DeviceId} (asked : latestDevice devices frames = some device) :
    device.id ∈ devices := by
  obtain ⟨frame, _, named⟩ := List.exists_of_findSome?_eq_some asked
  obtain ⟨req, _, named⟩ := Option.bind_eq_some_iff.mp named
  exact registeredDevice_mem named

def pendingDevice (devices : HashMap UInt32 DeviceInfo) : Phase → Option DeviceId
  | .received request => request.bind (registeredDevice devices)
  | _ => none

theorem pendingDevice_afterResolve (devices : HashMap UInt32 DeviceInfo) (req : ConfirmedRequest)
    (result : Result DeviceId) : pendingDevice devices (afterResolve req result) = none := by
  cases result <;> rfl

/-- The devices never change, and each client's entry together with what its task is about
to write is the latest Device of its own frames. -/
structure Follows (devices : HashMap UInt32 DeviceInfo) (past : List (Action Obj)) (s : System Obj) :
    Prop where
  registry : s.dispatcher.devices = devices
  session : ∀ src, latestDevice devices (framesOf src past) =
    (pendingDevice devices (s.phase src)).or (AList.lookup src s.dispatcher.sourceDeviceMap)

theorem follows_initial (devices : HashMap UInt32 DeviceInfo) (store : ObjectStore Obj) :
    Follows devices [] (initial devices store) where
  registry := rfl
  session _ := rfl

theorem follows_receive {devices : HashMap UInt32 DeviceInfo} {past : List (Action Obj)}
    {s : System Obj} {frame : InboundFrame} (follows : Follows devices past s)
    (idle : s.phase frame.src = .idle) :
    Follows devices (.receive frame :: past)
      (s.setPhase frame.src (.received frame.confirmedRequest)) where
  registry := follows.registry
  session src := by
    have before := follows.session src
    by_cases own : src = frame.src
    · subst own
      rw [(framesOf_receive frame past).1, latestDevice_cons, before, idle, setPhase_self]
      rfl
    · rw [(framesOf_receive frame past).2 src own, before, setPhase_other _ _ own]
      rfl

theorem follows_resolve {devices : HashMap UInt32 DeviceInfo} {past : List (Action Obj)}
    {s : System Obj} {client : NetworkAddress} {req : ConfirmedRequest}
    (follows : Follows devices past s) (pending : s.phase client = .received (some req)) :
    Follows devices (.resolve client :: past)
      ({ s with dispatcher := (s.dispatcher.resolveDevice req client).2 }.setPhase client
        (afterResolve req (s.dispatcher.resolveDevice req client).1)) where
  registry := (s.dispatcher.resolveDevice_devices req client).trans follows.registry
  session src := by
    have before := follows.session src
    have session := s.dispatcher.resolveDevice_session req client
    rw [follows.registry] at session
    by_cases own : src = client
    · subst own
      rw [pending] at before
      rw [setPhase_self, pendingDevice_afterResolve, Option.none_or]
      exact before.trans session.1.symm
    · rw [setPhase_other _ _ own]
      exact before.trans (congrArg _ (session.2 src own).symm)

theorem follows_finish {devices : HashMap UInt32 DeviceInfo} {past : List (Action Obj)}
    {s : System Obj} {client : NetworkAddress} (follows : Follows devices past s)
    (nothing : pendingDevice devices (s.phase client) = none) :
    Follows devices (.finish client :: past) (s.setPhase client .idle) where
  registry := follows.registry
  session src := by
    have before := follows.session src
    by_cases own : src = client
    · subst own
      rw [nothing] at before
      rw [setPhase_self]
      exact before
    · rw [setPhase_other _ _ own]
      exact before

theorem follows_next {devices : HashMap UInt32 DeviceInfo} {past : List (Action Obj)}
    {s s' : System Obj} {a : Action Obj} (follows : Follows devices past s)
    (taken : s.next a = some s') : Follows devices (a :: past) s' := by
  cases a with
  | receive frame =>
    obtain ⟨idle, rfl⟩ := next_receive taken
    exact follows_receive follows idle
  | resolve client =>
    obtain ⟨req, pending, rfl⟩ := next_resolve taken
    exact follows_resolve follows pending
  | store store =>
    cases taken
    exact ⟨follows.registry, follows.session⟩
  | finish client =>
    obtain ⟨nothing | ⟨req, device, served⟩, rfl⟩ := next_finish taken
    · exact follows_finish follows (by rw [nothing]; rfl)
    · exact follows_finish follows (by rw [served]; rfl)

theorem follows_reached {devices : HashMap UInt32 DeviceInfo} {store : ObjectStore Obj}
    {past : List (Action Obj)} {s : System Obj}
    (run : reached next (initial devices store) past = some s) : Follows devices past s :=
  reached_invariant (follows_initial devices store) follows_next run

def registry (regs : List DeviceInfo) : HashMap UInt32 DeviceInfo :=
  ApduDispatcher.registerAll ∅ regs

def Filed (devices : HashMap UInt32 DeviceInfo) : Prop :=
  ∀ entry ∈ devices.entries, entry.2.deviceId.id = entry.1

theorem filed_insert {devices : HashMap UInt32 DeviceInfo} (filed : Filed devices)
    (info : DeviceInfo) : Filed (AList.insert info.deviceId.id info devices) := by
  intro entry mem
  rw [AList.entries_insert] at mem
  rcases List.mem_cons.mp mem with rfl | mem
  · rfl
  · exact filed entry ((List.kerase_sublist _ _).subset mem)

theorem filed_registry (regs : List DeviceInfo) : Filed (registry regs) := by
  suffices general : ∀ devices : HashMap UInt32 DeviceInfo, Filed devices →
      Filed (ApduDispatcher.registerAll devices regs) from
    general ∅ fun entry mem => by cases mem
  induction regs with
  | nil => exact fun _ filed => filed
  | cons info regs ih => exact fun devices filed => ih _ (filed_insert filed info)

theorem first_mem {devices : HashMap UInt32 DeviceInfo} (filed : Filed devices) {device : DeviceId}
    (first : devices.values.head?.map (·.deviceId) = some device) : device.id ∈ devices := by
  unfold HashMap.values at first
  cases listed : devices.entries with
  | nil =>
    rw [listed] at first
    cases first
  | cons entry rest =>
    rw [listed] at first
    cases first
    have mem : entry ∈ devices.entries := by
      rw [listed]
      exact List.mem_cons_self
    rw [AList.mem_keys, filed entry mem]
    exact List.mem_map_of_mem mem

/-- The device that a client's requests for other objects are meant for: the latest it has
asked for, or else the one registered first. -/
def intendedDevice (regs : List DeviceInfo) (devices : HashMap UInt32 DeviceInfo)
    (src : NetworkAddress) (past : List (Action Obj)) : Option DeviceId :=
  (latestDevice devices (framesOf src past)).or (regs.head?.map (·.deviceId))

def Undisturbed (regs : List DeviceInfo) (devices : HashMap UInt32 DeviceInfo)
    (src : NetworkAddress) (past : List (Action Obj)) (result : Result DeviceId) : Prop :=
  ∃ device, intendedDevice regs devices src past = some device ∧ result = .ok device ∧
    device.id ∈ devices

def StartsWithFirst (regs : List DeviceInfo) (devices : HashMap UInt32 DeviceInfo) : Prop :=
  ∃ info, regs.head? = some info ∧ devices.values.head?.map (·.deviceId) = some info.deviceId

/-- In every state that some interleaving reaches, a client's request for another object
than a Device is resolved from that client's frames alone, to a registered device. It is
the intended one exactly when the client has asked for a registered Device before, or
the map's order starts with the device registered first. -/
theorem resolveDevice_undisturbed_iff {regs : List DeviceInfo}
    {devices : HashMap UInt32 DeviceInfo} (arranged : devices.entries.Perm (registry regs).entries)
    {store : ObjectStore Obj} {past : List (Action Obj)} {s : System Obj}
    (run : reached next (initial devices store) past = some s) {src : NetworkAddress}
    {req : ConfirmedRequest} (waiting : s.phase src = .received (some req)) {oid : ObjectId}
    (primary : req.service.primaryObject = some oid) (other : oid.objectType ≠ .device) :
    (s.dispatcher.resolveDevice req src).1 =
        okOr ((latestDevice devices (framesOf src past)).or
          (devices.values.head?.map (·.deviceId))) .unknownObject ∧
      (∀ device, (s.dispatcher.resolveDevice req src).1 = .ok device → device.id ∈ devices) ∧
      (Undisturbed regs devices src past (s.dispatcher.resolveDevice req src).1 ↔
        (latestDevice devices (framesOf src past)).isSome ∨ StartsWithFirst regs devices) := by
  have follows := follows_reached run
  have filed : Filed devices := fun entry mem => filed_registry regs entry (arranged.subset mem)
  have unnamed : registeredDevice devices req = none := by
    simp only [registeredDevice, primary, other, false_and, if_false]
  have session := follows.session src
  rw [waiting, pendingDevice, Option.bind_some, unnamed, Option.none_or] at session
  rw [s.dispatcher.resolveDevice_primary primary, s.dispatcher.resolveTarget_other other,
    follows.registry, ← session]
  unfold Undisturbed intendedDevice
  refine ⟨rfl, ?_⟩
  cases asked : latestDevice devices (framesOf src past) with
  | some device =>
    have known := latestDevice_mem asked
    constructor
    · intro device resolved
      cases resolved
      exact known
    constructor
    · intro _
      exact .inl rfl
    · intro _
      exact ⟨device, rfl, rfl, known⟩
  | none =>
    simp only [Option.none_or]
    have first : ∀ {device}, okOr (devices.values.head?.map (·.deviceId)) BacnetError.unknownObject =
        .ok device → devices.values.head?.map (·.deviceId) = some device := okOr_eq_ok
    constructor
    · intro device resolved
      exact first_mem filed (first resolved)
    constructor
    · rintro ⟨device, intended, resolved, _⟩
      obtain ⟨info, registered, rfl⟩ := Option.map_eq_some_iff.mp intended
      exact .inr ⟨info, registered, first resolved⟩
    · rintro (asked | ⟨info, registered, starts⟩)
      · cases asked
      · refine ⟨info.deviceId, by rw [registered]; rfl, by rw [starts]; rfl, first_mem filed starts⟩

end System

def client (host : UInt32) : NetworkAddress := ⟨0, .ip ⟨host, 47808⟩⟩

def askFrame (host raw : UInt32) : InboundFrame := ⟨client host, (readIdentifierFrame raw).npdu⟩

def twoRegistered : List DeviceInfo := [.new 1, .new 2]

def twoSessions : List (Action DeviceObject) :=
  [.receive (askFrame 1 0x00000001), .finish (client 1), .resolve (client 1), .resolve (client 2),
    .receive (askFrame 2 0x02000002), .receive (askFrame 1 0x02000001)]

theorem two_sessions_apart : ∃ s : System DeviceObject,
    reached System.next (.initial (System.registry twoRegistered) .new) twoSessions = some s ∧
      System.Undisturbed twoRegistered (System.registry twoRegistered) (client 1) twoSessions
        (s.dispatcher.resolveDevice (readIdentifierPdu 0x00000001).confirmedRequest (client 1)).1 :=
  have run : reached System.next (.initial (System.registry twoRegistered) .new) twoSessions =
      some _ := rfl
  ⟨_, run, (System.resolveDevice_undisturbed_iff (.refl _) run rfl rfl
    (by decide)).2.2.mpr (.inl (by decide))⟩

/-- The map may start with Device 2 although Device 1 was registered first, and then that
is where a client without a session goes. -/
theorem fallback_not_first :
    ¬ ∀ (regs : List DeviceInfo) (devices : HashMap UInt32 DeviceInfo)
      (past : List (Action DeviceObject)) (s : System DeviceObject) (src : NetworkAddress)
      (req : ConfirmedRequest) (oid : ObjectId),
      devices.entries.Perm (System.registry regs).entries →
      reached System.next (.initial devices .new) past = some s →
      s.phase src = .received (some req) → req.service.primaryObject = some oid →
      oid.objectType ≠ .device →
      System.Undisturbed regs devices src past (s.dispatcher.resolveDevice req src).1 := by
  intro claim
  obtain ⟨device, intended, resolved, _⟩ := claim twoRegistered (System.registry twoRegistered)
    [.receive (askFrame 1 0x00000001)] _ (client 1) (readIdentifierPdu 0x00000001).confirmedRequest
    ⟨.analogInput, 1⟩ (.refl _) rfl rfl rfl (by decide)
  cases intended
  cases resolved

end BacnetSim
