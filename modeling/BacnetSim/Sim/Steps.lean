import BacnetSim.Sim.Simulator
import BacnetSim.Stack.Reply

/-! What one step of the simulator does, whoever takes it, and what the steps of a whole tick do. -/
namespace BacnetSim
open Rust Ieee754 Transitions

namespace Simulator
variable {M R N : Type} [ValueModel M R] [JsonNumber N] (hash : Hasher) (arith : RealArith)
  (text : ApiText N)

inductive Effect (s : Simulator M R) : Event N → Simulator M R → Prop
  | heard {src : SocketAddr} {octets : Bytes} {frame : InboundFrame}
    (received : BacnetIpTransport.receive src octets = .ok (some frame)) :
    Effect s (.datagram src octets) { s with tasks := s.tasks ++ [.received frame] }
  | unheard {src : SocketAddr} {octets : Bytes}
    (dropped : ∀ frame, BacnetIpTransport.receive src octets ≠ .ok (some frame)) (receiving : Bool) :
    Effect s (.datagram src octets) { s with receiving }
  | answered {task : Nat} {now : Clock} {frame : InboundFrame}
    (pending : s.tasks[task]? = some (.received frame)) (other : frame.confirmedRequest = none) :
    Effect s (.start task now) (s.setTask task (.sending (s.dispatcher.handleFrame hash now frame).sent))
  | unresolved {task : Nat} {now : Clock} {frame : InboundFrame} {req : ConfirmedRequest}
    {f : Fault BacnetError} (pending : s.tasks[task]? = some (.received frame))
    (asked : frame.confirmedRequest = some req)
    (failed : (s.dispatcher.resolveDevice req frame.src).1 = .error f) :
    Effect s (.start task now) ({ s with
      sourceDeviceMap := (s.dispatcher.resolveDevice req frame.src).2.sourceDeviceMap }.setTask task .ended)
  | resolved {task : Nat} {now : Clock} {frame : InboundFrame} {req : ConfirmedRequest}
    {device : DeviceId} (pending : s.tasks[task]? = some (.received frame))
    (asked : frame.confirmedRequest = some req)
    (found : (s.dispatcher.resolveDevice req frame.src).1 = .ok device) :
    Effect s (.start task now) ({ s with
      sourceDeviceMap := (s.dispatcher.resolveDevice req frame.src).2.sourceDeviceMap }.setTask task
        (.resolved frame.src req device))
  | served {task : Nat} {now : Clock} {src : NetworkAddress} {req : ConfirmedRequest}
    {device : DeviceId} (pending : s.tasks[task]? = some (.resolved src req device))
    (single : ∀ specs, req.service ≠ .readPropertyMultiple specs) :
    Effect s (.serve task now) ((s.withStore (s.dispatcher.serve hash now req device).2.store).setTask task
      (.sending (reply src (s.dispatcher.serve hash now req device).1)))
  | entered {task : Nat} {now : Clock} {src : NetworkAddress} {req : ConfirmedRequest}
    {device : DeviceId} {specs : List ReadAccessSpec}
    (pending : s.tasks[task]? = some (.resolved src req device))
    (batch : req.service = .readPropertyMultiple specs) :
    Effect s (.serve task now) (s.setTask task (.reading src req.invokeId device [] specs))
  | read {task : Nat} {now : Nat → Now} {src : NetworkAddress} {invokeId : UInt8} {device : DeviceId}
    {results : List ObjectPropertyResult} {spec : ReadAccessSpec} {rest : List ReadAccessSpec}
    {result : ObjectPropertyResult}
    (pending : s.tasks[task]? = some (.reading src invokeId device results (spec :: rest)))
    (found : handleSpec hash now spec s.store device = .ok result) :
    Effect s (.read task now) (s.setTask task (.reading src invokeId device (results ++ [result]) rest))
  | gathered {task : Nat} {now : Nat → Now} {src : NetworkAddress} {invokeId : UInt8}
    {device : DeviceId} {results : List ObjectPropertyResult}
    (pending : s.tasks[task]? = some (.reading src invokeId device results [])) :
    Effect s (.read task now) (s.setTask task (.sending (reply src
      (.ok (ComplexAck.encode ⟨invokeId, .readPropertyMultiple results⟩)))))
  | sent {task : Nat} {frame : OutboundFrame} {rest : List OutboundFrame}
    (pending : s.tasks[task]? = some (.sending (frame :: rest))) :
    Effect s (.send task) { s.setTask task (.sending rest) with outbound := s.outbound ++ [frame] }
  | ticked {clock : TickClock} (idle : s.ticking = none) :
    Effect s (.tick clock)
      { s with ticking := some ⟨clock, ⟨s.loop.engine.models, []⟩, List.finRange numShards⟩ }
  | swept {clock : TickClock} {c : Sweep M R} {i : Fin numShards} {rest : List (Fin numShards)}
    (ticking : s.ticking = some ⟨clock, c, i :: rest⟩) :
    Effect s .sweep { s.withStore ⟨(Shards.visitShards (TickLoop.update arith s.loop.period clock)
        (c, s.store.shards) [i]).2⟩ with
      ticking := some ⟨clock, (Shards.visitShards (TickLoop.update arith s.loop.period clock)
        (c, s.store.shards) [i]).1, rest⟩ }
  | tickEnded {clock : TickClock} {c : Sweep M R} (ticking : s.ticking = some ⟨clock, c, []⟩) :
    Effect s .sweep { s with
      loop := (s.loop.finish arith clock (c, s.store.shards)).2
      ticking := none }
  | put {now : Now} {devId : UInt32} {objType : String} {inst : UInt32} {prop : String} {value : Json N} :
    Effect s (.put now devId objType inst prop value)
      (s.withStore (s.api.writeProperty hash now text devId objType inst prop value).2.store)
  | setAnalog {now : Now} {deviceId objectType inst : Int64} {value : F64} :
    Effect s (.setAnalog now deviceId objectType inst value)
      (s.withStore (Scenario.setAnalog hash now s.store deviceId objectType inst value))
  | setBinary {now : Now} {deviceId objectType inst : Int64} {value : Bool} :
    Effect s (.setBinary now deviceId objectType inst value)
      (s.withStore (Scenario.setBinary hash now s.store deviceId objectType inst value))
  | looked {turn : ScheduleTurn} (idle : s.driving = none) :
    Effect s (.look turn) { s with driving := (ScheduleEngine.value hash s.store turn).map (turn, ·) }
  | drove {turn : ScheduleTurn} {pv : PropertyValue} (driving : s.driving = some (turn, pv)) :
    Effect s .drive { s.withStore (ScheduleEngine.give hash s.store turn pv) with driving := none }

variable {hash arith text} {s s' start : Simulator M R} {e : Event N} {past : List (Event N)}

theorem start_effect {task : Nat} {now : Clock} {frame : InboundFrame}
    (pending : s.tasks[task]? = some (.received frame)) :
    Effect hash arith text s (.start task now) (s.begin hash task now frame) := by
  unfold begin
  cases asked : frame.confirmedRequest with
  | none => exact .answered pending asked
  | some req =>
    cases resolved : (s.dispatcher.resolveDevice req frame.src).1 with
    | error f =>
      simp only [resolved]
      exact .unresolved pending asked resolved
    | ok device =>
      simp only [resolved]
      exact .resolved pending asked resolved

theorem serve_effect {task : Nat} {now : Clock} {src : NetworkAddress} {req : ConfirmedRequest}
    {device : DeviceId} (pending : s.tasks[task]? = some (.resolved src req device)) :
    Effect hash arith text s (.serve task now) (s.serve hash task now src req device) := by
  unfold Simulator.serve
  cases service : req.service with
  | readPropertyMultiple specs => exact .entered pending service
  | readProperty r => exact .served pending (by simp [service])
  | writeProperty w => exact .served pending (by simp [service])
  | subscribeCov sub => exact .served pending (by simp [service])

theorem read_effect {task : Nat} {now : Nat → Now} {src : NetworkAddress} {invokeId : UInt8}
    {device : DeviceId} {results : List ObjectPropertyResult} {rest : List ReadAccessSpec}
    (pending : s.tasks[task]? = some (.reading src invokeId device results rest)) :
    Effect hash arith text s (.read task now) (s.read hash task now src invokeId device results rest) := by
  cases rest with
  | nil => exact .gathered pending
  | cons spec rest =>
    obtain ⟨result, found⟩ := handleSpec_ok hash now spec s.store device
    simp only [Simulator.read, found]
    exact .read pending found

theorem sweep_effect {t : Ticking M R} (ticking : s.ticking = some t) :
    Effect hash arith text s .sweep (s.sweep arith t) := by
  obtain ⟨clock, c, rest⟩ := t
  cases rest with
  | nil => exact .tickEnded ticking
  | cons i rest => exact .swept ticking

theorem next_effect (taken : s.next hash arith text e = some s') : Effect hash arith text s e s' := by
  cases e with
  | datagram src octets =>
    simp only [next] at taken
    split at taken
    · split at taken
      · rename_i frame received
        cases taken
        exact .heard received
      · rename_i dropped
        cases taken
        exact .unheard (by simp [dropped]) s.receiving
      · rename_i f failed
        cases taken
        exact .unheard (by simp [failed]) false
    · cases taken
  | start task now =>
    simp only [next] at taken
    split at taken
    · rename_i frame pending
      cases taken
      exact start_effect pending
    · cases taken
  | serve task now =>
    simp only [next] at taken
    split at taken
    · rename_i src req device pending
      cases taken
      exact serve_effect pending
    · cases taken
  | read task now =>
    simp only [next] at taken
    split at taken
    · rename_i src invokeId device results rest pending
      cases taken
      exact read_effect pending
    · cases taken
  | send task =>
    simp only [next] at taken
    split at taken
    · rename_i frame rest pending
      cases taken
      exact .sent pending
    · cases taken
  | tick clock =>
    simp only [next] at taken
    split at taken
    · rename_i idle
      cases taken
      exact .ticked idle
    · cases taken
  | sweep =>
    obtain ⟨t, ticking, rfl⟩ := Option.map_eq_some_iff.mp taken
    exact sweep_effect ticking
  | put now devId objType inst prop value =>
    cases taken
    exact .put
  | setAnalog now deviceId objectType inst value =>
    cases taken
    exact .setAnalog
  | setBinary now deviceId objectType inst value =>
    cases taken
    exact .setBinary
  | look turn =>
    simp only [next] at taken
    split at taken
    · rename_i idle
      cases taken
      exact .looked idle
    · cases taken
  | drive =>
    obtain ⟨⟨turn, pv⟩, driving, rfl⟩ := Option.map_eq_some_iff.mp taken
    exact .drove driving

/-- The models as a tick that is under way has left them. -/
def models (s : Simulator M R) : HashMap StoreKey (ModelEntry M R) :=
  match s.ticking with
  | some t => t.sweep.models
  | none => s.loop.engine.models

def Moves (s : Simulator M R) (r : ObjectRef) : Prop := TickLoop.Moves s.models s.store r

variable (hash text)

def Touches (s : Simulator M R) (e : Event N) (r : ObjectRef) : Prop :=
  match e with
  | .datagram _ _ | .start _ _ | .read _ _ | .send _ | .tick _ | .look _ => False
  | .serve task _ => ∃ src req device, s.tasks[task]? = some (.resolved src req device) ∧
      ∃ w, req.service = .writeProperty w ∧ r = shardKey hash device w.objectId
  | .sweep => s.Moves r
  | .put _ devId objType inst _ _ => ∃ t, Rest.parseObjectType text.lowercase objType = .ok t ∧
      r = shardKey hash ⟨devId⟩ ⟨t, inst⟩
  | .setAnalog _ deviceId objectType inst _ => r = shardKey hash (Scenario.deviceNamed deviceId)
      (Scenario.objectNamed .analogInput objectType inst)
  | .setBinary _ deviceId objectType inst _ => r = shardKey hash (Scenario.deviceNamed deviceId)
      (Scenario.objectNamed .binaryInput objectType inst)
  | .drive => ∃ turn pv, s.driving = some (turn, pv) ∧ r = turn.target hash

variable {hash text}

theorem next_alters (taken : s.next hash arith text e = some s') :
    Alters (s.Touches hash text e) s.store s'.store := by
  cases next_effect taken with
  | heard | unheard | answered | unresolved | resolved | entered | read | gathered | sent | ticked |
    tickEnded | looked => exact .refl s.store
  | @served task now src req device pending =>
    exact (Alters.serve hash now s.dispatcher req device).mono fun r here =>
      ⟨src, req, device, pending, here⟩
  | @swept clock c i rest ticking =>
    refine (TickLoop.visited_keeps arith clock s.loop.period s.store.shards [i] c).2.mono fun r moves => ?_
    change TickLoop.Moves s.models s.store r
    rw [models, ticking]
    exact moves
  | put => exact .put_request hash _ text s.api _ _ _ _ _
  | setAnalog | setBinary => exact .scenario hash _ s.store _ _ _
  | @drove turn pv driving =>
    exact (Alters.give hash s.store turn pv).mono fun r here => ⟨turn, pv, driving, here⟩

structure Keeps (s s' : Simulator M R) : Prop where
  devices : s'.devices = s.devices
  deviceIds : s'.deviceIds = s.deviceIds
  modelled : ∀ k, k ∈ s'.models ↔ k ∈ s.models
  plates : ∀ r, (s'.store.at r).map plate = (s.store.at r).map plate

omit [ValueModel M R] in
theorem Keeps.refl (s : Simulator M R) : Keeps s s := ⟨rfl, rfl, fun _ => Iff.rfl, fun _ => rfl⟩

omit [ValueModel M R] in
theorem Keeps.trans {s'' : Simulator M R} (first : Keeps s s') (second : Keeps s' s'') : Keeps s s'' :=
  ⟨second.devices.trans first.devices, second.deviceIds.trans first.deviceIds,
    fun k => (second.modelled k).trans (first.modelled k),
    fun r => (second.plates r).trans (first.plates r)⟩

omit [ValueModel M R] in
theorem Keeps.moves {r : ObjectRef} (keeps : Keeps start s) (moves : s.Moves r) : start.Moves r := by
  rcases moves with modelled | ⟨o, found, timed⟩
  · exact .inl ((keeps.modelled r.key).mp modelled)
  · have plates := keeps.plates r
    rw [found, Option.map_some] at plates
    obtain ⟨o', was, same⟩ := Option.map_eq_some_iff.mp plates.symm
    exact .inr ⟨o', was, (congrArg (·.2.1) same).trans timed⟩

theorem next_keeps (taken : s.next hash arith text e = some s') : Keeps s s' := by
  have plates := (next_alters taken).plates
  cases next_effect taken with
  | @ticked clock idle =>
    refine ⟨rfl, rfl, fun k => ?_, plates⟩
    simp only [models, idle]
  | @swept clock c i rest ticking =>
    refine ⟨rfl, rfl, fun k => ?_, plates⟩
    simp only [models, ticking]
    exact (TickLoop.visited_keeps arith clock s.loop.period s.store.shards [i] c).1 k
  | @tickEnded clock c ticking =>
    refine ⟨rfl, rfl, fun k => ?_, plates⟩
    simp only [models, ticking]
    rfl
  | _ => exact ⟨rfl, rfl, fun _ => Iff.rfl, plates⟩

theorem reached_keeps (run : reached (next hash arith text) start past = some s) : Keeps start s :=
  reached_invariant (I := fun _ s => Keeps start s) (.refl start)
    (fun kept taken => kept.trans (next_keeps taken)) run

theorem reached_sweeps {clock : TickClock} {c : Sweep M R} {rest : List (Fin numShards)}
    (ticking : s.ticking = some ⟨clock, c, rest⟩) :
    reached (next hash arith text) s (List.replicate rest.length .sweep) =
      some { s.withStore ⟨(Shards.visitShards (TickLoop.update arith s.loop.period clock)
          (c, s.store.shards) rest).2⟩ with
        ticking := some ⟨clock, (Shards.visitShards (TickLoop.update arith s.loop.period clock)
          (c, s.store.shards) rest).1, []⟩ } := by
  induction rest generalizing s c with
  | nil => exact congrArg (fun t => some { s with ticking := t }) ticking
  | cons i rest ih =>
    have first : s.next hash arith text .sweep = some (s.sweep arith ⟨clock, c, i :: rest⟩) := by
      rw [next, ticking, Option.map_some]
    rw [List.length_cons, List.replicate_succ', reached_append, reached, reached, Option.bind_some, first,
      Option.bind_some]
    exact ih rfl

/-- A tick that nobody interrupts is that of the loop. -/
theorem reached_tick {clock : TickClock} (idle : s.ticking = none) :
    reached (next hash arith text) s
        (.sweep :: (List.replicate numShards .sweep ++ [.tick clock])) =
      some { s with loop := (s.loop.tick arith clock).2, ticking := none } := by
  have started : s.next hash arith text (.tick clock) = some { s with
      ticking := some ⟨clock, ⟨s.loop.engine.models, []⟩, List.finRange numShards⟩ } := by
    rw [next, idle]
  have swept : reached (next hash arith text) { s with
      ticking := some ⟨clock, ⟨s.loop.engine.models, []⟩, List.finRange numShards⟩ }
      (List.replicate (List.finRange numShards).length .sweep) = some
        { s.withStore ⟨(s.loop.sweep arith clock).2⟩ with
          ticking := some ⟨clock, (s.loop.sweep arith clock).1, []⟩ } := by
    rw [TickLoop.sweep, Shards.iterMut]
    generalize List.finRange numShards = shards
    exact reached_sweeps rfl
  rw [List.length_finRange] at swept
  rw [reached, reached_append, reached, reached, Option.bind_some, started, Option.bind_some, swept,
    Option.bind_some, next, Option.map_some, TickLoop.tick_finish]
  generalize s.loop.sweep arith clock = left
  rfl

variable (hash arith text) in
theorem reached_turn (turn : ScheduleTurn) (idle : s.driving = none) :
    ∃ past, (∀ e ∈ past, e = .drive ∨ e = .look turn) ∧ reached (next hash arith text) s past =
      some (s.withStore (ScheduleEngine.drive hash s.store turn)) := by
  have looked : s.next hash arith text (.look turn) =
      some { s with driving := (ScheduleEngine.value hash s.store turn).map (turn, ·) } := by
    rw [next, idle]
  cases value : ScheduleEngine.value hash s.store turn with
  | none =>
    refine ⟨[.look turn], by simp, ?_⟩
    rw [reached, reached, Option.bind_some, looked, ScheduleEngine.drive, value, Option.map_none, ← idle]
    rfl
  | some pv =>
    refine ⟨[.drive, .look turn], by simp, ?_⟩
    rw [reached, reached, reached, Option.bind_some, looked, Option.bind_some, next,
      ScheduleEngine.drive, value, Option.map_some, Option.map_some, withStore, withStore, idle]
    rfl

/-- A tick of the schedule engine that nobody interrupts leaves the store as `ScheduleEngine.tick`. -/
theorem reached_schedule (engine : ScheduleEngine) (clock : Nat → Now × Now) (idle : s.driving = none) :
    ∃ past, (∀ e ∈ past, e = .drive ∨ ∃ turn ∈ engine.turns clock, e = .look turn) ∧
      reached (next hash arith text) s past =
        some (s.withStore (engine.tick hash clock s.store)) := by
  rw [ScheduleEngine.tick]
  generalize engine.turns clock = turns
  induction turns generalizing s with
  | nil => exact ⟨[], by simp, rfl⟩
  | cons turn turns ih =>
    obtain ⟨first, own, turned⟩ := reached_turn hash arith text turn idle
    obtain ⟨rest, others, left⟩ := ih (s := s.withStore (ScheduleEngine.drive hash s.store turn)) idle
    refine ⟨rest ++ first, ?_, ?_⟩
    · intro e mem
      rcases List.mem_append.mp mem with later | now
      · rcases others e later with rfl | ⟨t, inside, rfl⟩
        · exact .inl rfl
        · exact .inr ⟨t, List.mem_cons_of_mem turn inside, rfl⟩
      · rcases own e now with rfl | rfl
        · exact .inl rfl
        · exact .inr ⟨turn, List.mem_cons_self, rfl⟩
    · rw [reached_append, turned, Option.bind_some]
      exact left

end Simulator

end BacnetSim
