import Mathlib.Data.List.Infix
import BacnetSim.Lib.Ledger
import BacnetSim.Transport.ScNode
import BacnetSim.Transport.ScRouting

/-! Nodes and their hub. A WebSocket connection gives each side the other's messages in their
order; the connection `c` of the hub is that of the client `c`. -/
namespace BacnetSim
open Rust Transitions Dispatch Ledger

structure ScNetwork where
  hub : ScHub
  node : ConnectionId → ScNode
  heard : ConnectionId → Nat

inductive NetworkAction where
  | hub (a : HubAction)
  | node (c : ConnectionId) (a : NodeAction)

def HubAction.message : HubAction → Option (ConnectionId × Bytes)
  | .handshakeMessage c data | .inbound c data => some (c, data)
  | _ => none

def HubAction.heardAfter (a : HubAction) (c : ConnectionId) (heard : Nat) : Nat :=
  match a.message with
  | some (d, _) => if d = c then heard + 1 else heard
  | none => heard

theorem HubAction.heardAfter_other {a : HubAction} {c : ConnectionId} {heard : Nat}
    (other : ∀ data, a.message ≠ some (c, data)) : a.heardAfter c heard = heard := by
  unfold heardAfter
  split
  · rename_i d data message
    have elsewhere : d ≠ c := by
      rintro rfl
      exact other data message
    exact if_neg elsewhere
  · rfl

namespace ScNetwork

def start : ScNetwork where
  hub := ScHub.start
  node := fun _ => {}
  heard := fun _ => 0

def nodeReads (s : ScNetwork) (c : ConnectionId) : NodeAction → Bool
  | .hear data => (s.hub.connection c).written[(s.node c).read]? == some data
  | _ => true

def hubReads (s : ScNetwork) (a : HubAction) : Bool :=
  match a.message with
  | some (c, data) => (s.node c).written[s.heard c]? == some data
  | none => true

/-- `send_to_vmac` has no caller. -/
def hubRuns : HubAction → Bool
  | .sendToVmac _ _ => false
  | _ => true

def next (s : ScNetwork) : NetworkAction → Option ScNetwork
  | .hub a =>
    if hubRuns a && s.hubReads a then
      (s.hub.next a).map fun hub => { s with hub, heard := fun c => a.heardAfter c (s.heard c) }
    else none
  | .node c a =>
    if s.nodeReads c a then
      ((s.node c).next a).map fun node => { s with node := Function.update s.node c node }
    else none

end ScNetwork

def NetworkAction.hubAction : NetworkAction → Option HubAction
  | .hub a => some a
  | .node _ _ => none

inductive PhaseStep (d : ConnectionId) : HubAction → ConnectionPhase → ConnectionPhase → Prop
  | stays {a : HubAction} {p : ConnectionPhase} (other : ∀ data, a.message ≠ some (d, data))
    (another : ∀ v, a ≠ .register d v) : PhaseStep d a p p
  | routed {data : Bytes} {nodeId : ScNodeId} {vmac : Vmac} :
    PhaseStep d (.inbound d data) (.registered nodeId vmac) (.registered nodeId vmac)
  | upgraded {a : HubAction} (quiet : a.message = none) (other : ∀ v, a ≠ .register d v) :
    PhaseStep d a .absent .handshake
  | requested {data : Bytes} {nodeId : ScNodeId} {vmac : Vmac}
    (request : handshakeRequest data = .ok (some (nodeId, vmac))) :
    PhaseStep d (.handshakeMessage d data) .handshake (.greeted nodeId vmac)
  | ignored {data : Bytes} (request : handshakeRequest data = .ok none) :
    PhaseStep d (.handshakeMessage d data) .handshake .handshake
  | beyond {a : HubAction} {p : ConnectionPhase} (other : ∀ v, a ≠ .register d v) :
    PhaseStep d a p .closed
  | accepted {a : HubAction} {nodeId : ScNodeId} {vmac : Vmac} (quiet : a.message = none)
    (other : ∀ v, a ≠ .register d v) : PhaseStep d a (.greeted nodeId vmac) (.accepted nodeId vmac)
  | registered {nodeId : ScNodeId} {vmac : Vmac} :
    PhaseStep d (.register d vmac) (.accepted nodeId vmac) (.registered nodeId vmac)
  | ended {a : HubAction} {nodeId : ScNodeId} {vmac : Vmac} (quiet : a.message = none)
    (other : ∀ v, a ≠ .register d v) : PhaseStep d a (.registered nodeId vmac) (.closing nodeId vmac)

namespace ScHub
variable {s s' : ScHub} {a : HubAction} {c d : ConnectionId}

theorem update_phaseStep {conn : Connection}
    (own : PhaseStep c a (s.connection c).phase conn.phase)
    (elsewhere : ∀ d, d ≠ c → (∀ data, a.message ≠ some (d, data)) ∧ ∀ v, a ≠ .register d v) :
    PhaseStep d a (s.connection d).phase ((s.update c conn).connection d).phase := by
  by_cases same : d = c
  · subst same
    simpa only [update, Function.update_self] using own
  · simp only [update, Function.update_of_ne same]
    exact .stays (elsewhere d same).1 (elsewhere d same).2

theorem same_phaseStep (same : ∀ d, (s'.connection d).phase = (s.connection d).phase)
    (other : ∀ data, a.message ≠ some (d, data)) (another : ∀ v, a ≠ .register d v) :
    PhaseStep d a (s.connection d).phase (s'.connection d).phase :=
  same d ▸ .stays other another

theorem next_phaseStep (taken : next s a = some s') (d : ConnectionId) :
    PhaseStep d a (s.connection d).phase (s'.connection d).phase := by
  have elsewhere {c e : ConnectionId} (other : e ≠ c) (data : Bytes) :
      (∀ data', (HubAction.handshakeMessage c data).message ≠ some (e, data')) ∧
        ∀ v, HubAction.handshakeMessage c data ≠ .register e v := by
    simp [HubAction.message, Ne.symm other]
  cases next_effect taken with
  | accepted phase =>
    exact update_phaseStep (phase ▸ .upgraded rfl (by simp)) (fun d _ => by simp [HubAction.message])
  | requested phase request =>
    exact update_phaseStep (phase ▸ .requested request) fun e other => elsewhere other _
  | @ignored c data phase request =>
    by_cases own : d = c
    · subst own
      rw [phase]
      exact .ignored request
    · exact .stays (elsewhere own data).1 (elsewhere own data).2
  | refused phase =>
    exact update_phaseStep (.beyond (by simp)) fun e other => elsewhere other _
  | handshakeClosed phase | acceptFailed phase =>
    exact update_phaseStep (.beyond (by simp)) (fun d _ => by simp [HubAction.message])
  | acceptSent phase =>
    exact update_phaseStep (phase ▸ .accepted rfl (by simp)) (fun d _ => by simp [HubAction.message])
  | @registered c nodeId vmac phase =>
    by_cases own : d = c
    · subst own
      rw [phase, register_self]
      exact .registered
    · rw [register_other _ _ _ _ own]
      exact .stays (by simp [HubAction.message]) (by simp [Ne.symm own])
  | @routed c data nodeId vmac phase =>
    by_cases own : d = c
    · subst own
      rw [(route_frame _ _).2, phase]
      exact .routed
    · exact same_phaseStep (route_frame _ _).2 (by simp [HubAction.message, Ne.symm own]) (by simp)
  | ended phase =>
    exact update_phaseStep (phase ▸ .ended rfl (by simp)) (fun d _ => by simp [HubAction.message])
  | @cleanedUp c nodeId vmac phase =>
    by_cases own : d = c
    · subst own
      rw [cleanUp_self]
      exact .beyond (by simp)
    · rw [cleanUp_other _ _ _ own]
      exact .stays (by simp [HubAction.message]) (by simp)
  | taken | delivered | writeFailed | drained =>
    exact same_phaseStep (fun d => update_phase rfl) (by simp [HubAction.message]) (by simp)
  | sent mapped => exact same_phaseStep (trySend_frame _ _).2 (by simp [HubAction.message]) (by simp)
  | notSent => exact .stays (by simp [HubAction.message]) (by simp)

theorem update_written {connection : ConnectionId → Connection} {conn : Connection}
    (grown : (connection c).written <+: conn.written) (d : ConnectionId) :
    (connection d).written <+: (Function.update connection c conn d).written := by
  by_cases own : d = c
  · subst own
    rwa [Function.update_self]
  · rw [Function.update_of_ne own]

theorem trySendTo_written (vmac : Vmac) (frame : Bytes) (d : ConnectionId) :
    (s.connection d).written <+: ((s.trySendTo vmac frame).connection d).written := by
  rcases trySendTo_cases vmac frame with same | ⟨handle, _, _, queued⟩
  · rw [same]
  · rw [queued]
    exact update_written (by exact List.prefix_refl _) d

theorem route_written (vmac : Vmac) (data : Bytes) (d : ConnectionId) :
    (s.connection d).written <+: ((s.route vmac data).connection d).written := by
  unfold route
  split
  · split
    · split
      · exact trySendTo_written _ _ d
      · exact List.prefix_refl _
    · split
      · exact trySendTo_written _ _ d
      · exact List.prefix_refl _
  · exact List.prefix_refl _

theorem next_written (taken : next s a = some s') (d : ConnectionId) :
    (s.connection d).written <+: (s'.connection d).written := by
  cases next_effect taken with
  | accepted | requested | refused | handshakeClosed | acceptFailed | ended | taken | writeFailed |
    drained | registered | cleanedUp => exact update_written (by exact List.prefix_refl _) d
  | acceptSent | delivered => exact update_written (by exact List.prefix_append _ _) d
  | ignored | notSent => exact List.prefix_refl _
  | routed => exact route_written _ _ d
  | @sent vmac frame handle mapped =>
    rcases trySend_cases handle.tx frame with same | ⟨_, queued⟩
    · rw [same]
    · rw [queued]
      exact update_written (by exact List.prefix_refl _) d

theorem inbound_registered {data : Bytes} (taken : next s (.inbound c data) = some s') :
    ∃ nodeId vmac, (s.connection c).phase = .registered nodeId vmac := by
  cases next_effect taken with
  | routed phase => exact ⟨_, _, phase⟩

end ScHub

namespace ScNode
variable {node node' : ScNode} {a : NodeAction}

theorem next_written (step : node.next a = some node') : node.written <+: node'.written := by
  cases next_effect step with
  | requested | written | foreign => exact List.prefix_append _ _
  | _ => exact List.prefix_refl _

theorem next_identity (step : node.next a = some node') :
    (node'.phase ≠ .foreign → node.phase ≠ .foreign) ∧
      (node'.nodeId = node.nodeId ∧ node'.vmac = node.vmac ∨ node.phase = .absent) := by
  cases next_effect step with
  | dialled phase => exact ⟨fun _ => by simp [phase], .inr phase⟩
  | requested phase | requestFailed phase | greeted phase | refused phase | gaveUp phase | ended phase =>
    exact ⟨fun _ => by simp [phase], .inl ⟨rfl, rfl⟩⟩
  | foreign phase => exact ⟨fun own => absurd rfl own, .inl ⟨rfl, rfl⟩⟩
  | _ => exact ⟨id, .inl ⟨rfl, rfl⟩⟩

end ScNode

/-- What the hub knows of the client from whose connection it has taken so many messages: the
first message of a node is its ConnectRequest. -/
def ConnectionPhase.Knows (node : ScNode) (heard : Nat) : ConnectionPhase → Prop
  | .absent | .handshake => node.phase ≠ .foreign → heard = 0
  | .greeted nodeId vmac | .accepted nodeId vmac | .registered nodeId vmac | .closing nodeId vmac =>
    1 ≤ heard ∧ (node.phase ≠ .foreign → nodeId = node.nodeId ∧ vmac = node.vmac)
  | .closed => True

theorem ConnectionPhase.Knows.step {node : ScNode} {heard : Nat} {a : HubAction} {c : ConnectionId}
    {p q : ConnectionPhase} (knows : p.Knows node heard) (step : PhaseStep c a p q)
    (later : heard ≤ a.heardAfter c heard)
    (request : ∀ data, a = .handshakeMessage c data → node.phase ≠ .foreign → heard = 0 →
      handshakeRequest data = .ok (some (node.nodeId, node.vmac))) :
    q.Knows node (a.heardAfter c heard) := by
  have unheard (quiet : a.message = none) : a.heardAfter c heard = heard :=
    HubAction.heardAfter_other (by simp [quiet])
  cases step with
  | stays other another =>
    rw [HubAction.heardAfter_other other]
    exact knows
  | routed => exact ⟨Nat.le_trans knows.1 later, knows.2⟩
  | upgraded quiet other =>
    rw [unheard quiet]
    exact knows
  | @requested data nodeId vmac asked =>
    refine ⟨by simp [HubAction.heardAfter, HubAction.message], fun ours => ?_⟩
    cases asked.symm.trans (request data rfl ours (knows ours))
    exact ⟨rfl, rfl⟩
  | @ignored data asked =>
    intro ours
    cases asked.symm.trans (request data rfl ours (knows ours))
  | beyond other => trivial
  | accepted quiet other | ended quiet other =>
    rw [unheard quiet]
    exact knows
  | registered => exact ⟨Nat.le_trans knows.1 later, knows.2⟩

structure LinkedNode (past : List HubAction) (hub : ScHub) (c : ConnectionId) (node : ScNode)
    (heard : Nat) : Prop where
  sound : node.Sound
  hears : node.Hears (hub.connection c).written
  read : heard ≤ node.written.length
  arrived : (share (ScHub.received past) c).Sublist ((node.written.take heard).drop 1)
  knows : (hub.connection c).phase.Knows node heard
  registered : ∀ v, .register c v ∈ past → 1 ≤ heard ∧ (node.phase ≠ .foreign → v = node.vmac)

theorem requestedNode_payload (nodeId : ScNodeId) (vmac : Vmac) :
    requestedNode (nodeId.toList ++ vmac.toList) = .ok (nodeId, vmac) := by
  have firstSize : nodeId.toList.length = 16 := nodeId.length_toList
  have secondSize : vmac.toList.length = 6 := vmac.length_toList
  have start : Cursor (nodeId.toList ++ vmac.toList) 0 (nodeId.toList ++ vmac.toList) := ⟨[], rfl, rfl⟩
  have first : (slice (nodeId.toList ++ vmac.toList) 0 (0 + nodeId.toList.length) :
      Res HandshakeError Bytes) = .ok nodeId.toList := start.slice
  have behind : Cursor (nodeId.toList ++ vmac.toList) (0 + nodeId.toList.length)
      (vmac.toList ++ []) := by
    rw [List.append_nil]
    exact start.advance
  have second : (slice (nodeId.toList ++ vmac.toList) (0 + nodeId.toList.length)
      (0 + nodeId.toList.length + vmac.toList.length) : Res HandshakeError Bytes) = .ok vmac.toList :=
    behind.slice
  have enough : ¬ (nodeId.toList ++ vmac.toList).length < 22 := by
    rw [List.length_append, firstSize, secondSize]
    decide
  simp only [firstSize, secondSize] at first second
  simp only [requestedNode, if_neg enough, first, second, ok_bind, copyFromSlice_toList]

theorem handshakeRequest_request (nodeId : ScNodeId) (vmac : Vmac) :
    handshakeRequest (connectRequestFrame nodeId vmac).encode = .ok (some (nodeId, vmac)) := by
  have announced : (connectRequestFrame nodeId vmac).Announced := ⟨rfl, rfl⟩
  have payload : (connectRequestFrame nodeId vmac).payload = nodeId.toList ++ vmac.toList := rfl
  have function : (connectRequestFrame nodeId vmac).function = ScFunction.code .connectRequest := rfl
  simp only [handshakeRequest, ScFrame.decode_encode announced, payload, function, BEq.rfl, if_true,
    requestedNode_payload, ok_bind]

namespace LinkedNode
variable {past : List HubAction} {hub hub' : ScHub} {c : ConnectionId} {node node' : ScNode}
variable {heard : Nat}

theorem start (c : ConnectionId) : LinkedNode [] ScHub.start c {} 0 where
  sound := .start
  hears := .start
  read := Nat.le_refl 0
  arrived := .slnil
  knows _ := rfl
  registered _ mem := by cases mem

theorem unheard (linked : LinkedNode past hub c node heard) (phase : node.phase = .absent) : heard = 0 := by
  have read := linked.read
  rw [linked.sound.fresh (.inl phase)] at read
  exact Nat.le_zero.mp read

theorem nodeStep {a : NodeAction} (linked : LinkedNode past hub c node heard)
    (step : node.next a = some node')
    (message : ∀ data, a = .hear data → (hub.connection c).written[node.read]? = some data) :
    LinkedNode past hub c node' heard := by
  have written := ScNode.next_written step
  obtain ⟨own, identity⟩ := ScNode.next_identity step
  refine ⟨linked.sound.next step, linked.hears.next step message,
    Nat.le_trans linked.read written.length_le, ?_, ?_, ?_⟩
  · obtain ⟨more, grown⟩ := written
    rw [← grown, List.take_append_of_le_length linked.read]
    exact linked.arrived
  · have knows := linked.knows
    cases phase : (hub.connection c).phase with
    | absent | handshake =>
      rw [phase] at knows
      exact fun ours => knows (own ours)
    | closed => trivial
    | greeted nodeId vmac | accepted nodeId vmac | registered nodeId vmac | closing nodeId vmac =>
      rw [phase] at knows
      refine ⟨knows.1, fun ours => ?_⟩
      rcases identity with ⟨sameId, sameVmac⟩ | absent
      · rw [sameId, sameVmac]
        exact knows.2 (own ours)
      · exact absurd (linked.unheard absent) (Nat.ne_of_gt knows.1)
  · intro v mem
    obtain ⟨begun, named⟩ := linked.registered v mem
    refine ⟨begun, fun ours => ?_⟩
    rcases identity with ⟨_, sameVmac⟩ | absent
    · rw [sameVmac]
      exact named (own ours)
    · exact absurd (linked.unheard absent) (Nat.ne_of_gt begun)

theorem requests {data : Bytes} (linked : LinkedNode past hub c node heard) (ours : node.phase ≠ .foreign)
    (early : heard = 0) (message : node.written[heard]? = some data) :
    handshakeRequest data = .ok (some (node.nodeId, node.vmac)) := by
  subst early
  rw [← List.head?_eq_getElem?] at message
  rw [linked.sound.asked ours data message]
  exact handshakeRequest_request node.nodeId node.vmac

variable {a : HubAction}

theorem hubStep_read (linked : LinkedNode past hub c node heard)
    (message : ∀ data, a.message = some (c, data) → node.written[heard]? = some data) :
    heard ≤ a.heardAfter c heard ∧ a.heardAfter c heard ≤ node.written.length := by
  unfold HubAction.heardAfter
  cases eq : a.message with
  | none => exact ⟨Nat.le_refl _, linked.read⟩
  | some entry =>
    obtain ⟨d, data⟩ := entry
    by_cases own : d = c
    · subst own
      simp only [if_true]
      exact ⟨Nat.le_succ _, (List.getElem?_eq_some_iff.mp (message data eq)).1⟩
    · simp only [if_neg own]
      exact ⟨Nat.le_refl _, linked.read⟩

theorem hubStep_arrived (linked : LinkedNode past hub c node heard) (taken : hub.next a = some hub')
    (message : ∀ data, a.message = some (c, data) → node.written[heard]? = some data) :
    (share (ScHub.received (a :: past)) c).Sublist
      ((node.written.take (a.heardAfter c heard)).drop 1) := by
  have more : ((node.written.take heard).drop 1).Sublist
      ((node.written.take (a.heardAfter c heard)).drop 1) :=
    (List.take_sublist_take_left (linked.hubStep_read message).1).drop 1
  cases a with
  | inbound d data =>
    rw [ScHub.received]
    by_cases own : d = c
    · subst own
      obtain ⟨nodeId, vmac, phase⟩ := ScHub.inbound_registered taken
      have knows := linked.knows
      rw [phase] at knows
      have here := message data rfl
      have begun : 1 ≤ (node.written.take heard).length := by
        rw [List.length_take]
        exact Nat.le_min.mpr ⟨knows.1, Nat.le_trans knows.1 linked.read⟩
      have after : (HubAction.inbound d data).heardAfter d heard = heard + 1 := if_pos rfl
      rw [share_own, after, List.take_add_one, here, Option.toList_some,
        List.drop_append_of_le_length begun]
      exact linked.arrived.append (List.Sublist.refl _)
    · rw [share_other own]
      exact linked.arrived.trans more
  | _ => exact linked.arrived.trans more

theorem hubStep_knows (linked : LinkedNode past hub c node heard) (taken : hub.next a = some hub')
    (message : ∀ data, a.message = some (c, data) → node.written[heard]? = some data) :
    (hub'.connection c).phase.Knows node (a.heardAfter c heard) := by
  refine linked.knows.step (ScHub.next_phaseStep taken c) (linked.hubStep_read message).1 ?_
  rintro data rfl ours early
  exact linked.requests ours early (message data rfl)

theorem hubStep_registered (linked : LinkedNode past hub c node heard) (taken : hub.next a = some hub')
    (message : ∀ data, a.message = some (c, data) → node.written[heard]? = some data) (v : Vmac)
    (mem : .register c v ∈ a :: past) :
    1 ≤ a.heardAfter c heard ∧ (node.phase ≠ .foreign → v = node.vmac) := by
  have later := (linked.hubStep_read message).1
  rcases List.mem_cons.mp mem with rfl | earlier
  · have knows := linked.knows
    rcases ScHub.next_cases taken with ⟨d, nodeId, w, eq, phase, _⟩ | ⟨d, nodeId, w, eq, _⟩ | ⟨quiet, _⟩
    · cases eq
      rw [phase] at knows
      exact ⟨Nat.le_trans knows.1 later, fun ours => (knows.2 ours).2⟩
    · cases eq
    · cases quiet
  · obtain ⟨begun, named⟩ := linked.registered v earlier
    exact ⟨Nat.le_trans begun later, named⟩

theorem hubStep (linked : LinkedNode past hub c node heard) (taken : hub.next a = some hub')
    (message : ∀ data, a.message = some (c, data) → node.written[heard]? = some data) :
    LinkedNode (a :: past) hub' c node (a.heardAfter c heard) where
  sound := linked.sound
  hears := linked.hears.grow (ScHub.next_written taken c)
  read := (linked.hubStep_read message).2
  arrived := linked.hubStep_arrived taken message
  knows := linked.hubStep_knows taken message
  registered := linked.hubStep_registered taken message

end LinkedNode

namespace ScNetwork
variable {s s' : ScNetwork} {a : NetworkAction} {past : List NetworkAction}

theorem next_cases (taken : next s a = some s') :
    (∃ b hub, a = .hub b ∧ hubRuns b = true ∧ s.hubReads b = true ∧ s.hub.next b = some hub ∧
      s' = { s with hub, heard := fun c => b.heardAfter c (s.heard c) }) ∨
    ∃ c b node, a = .node c b ∧ s.nodeReads c b = true ∧ (s.node c).next b = some node ∧
      s' = { s with node := Function.update s.node c node } := by
  cases a with
  | hub b =>
    simp only [next] at taken
    split at taken
    · rename_i allowed
      obtain ⟨hub, step, eq⟩ := Option.map_eq_some_iff.mp taken
      rw [Bool.and_eq_true] at allowed
      exact .inl ⟨b, hub, rfl, allowed.1, allowed.2, step, eq.symm⟩
    · cases taken
  | node c b =>
    simp only [next] at taken
    split at taken
    · rename_i reads
      obtain ⟨node, step, eq⟩ := Option.map_eq_some_iff.mp taken
      exact .inr ⟨c, b, node, rfl, reads, step, eq.symm⟩
    · cases taken

def hubPast (past : List NetworkAction) : List HubAction := past.filterMap NetworkAction.hubAction

theorem reached_hub (run : reached next start past = some s) :
    reached ScHub.next ScHub.start (hubPast past) = some s.hub := by
  refine reached_project ScNetwork.hub NetworkAction.hubAction rfl ?_ run
  intro before a after taken
  rcases next_cases taken with ⟨b, hub, rfl, _, _, step, rfl⟩ | ⟨c, b, node, rfl, _, _, rfl⟩
  · exact .inl ⟨b, rfl, step⟩
  · exact .inr ⟨rfl, rfl⟩

theorem hubPast_inside (run : reached next start past = some s) :
    ∀ vmac frame, .sendToVmac vmac frame ∉ hubPast past := by
  refine reached_invariant (I := fun past _ => ∀ vmac frame, .sendToVmac vmac frame ∉ hubPast past)
    ?_ ?_ run
  · intro vmac frame mem
    cases mem
  · intro past before a after held taken vmac frame mem
    rcases next_cases taken with ⟨b, hub, rfl, runs, _⟩ | ⟨c, b, node, rfl, _⟩
    · rcases List.mem_cons.mp mem with rfl | earlier
      · cases runs
      · exact held vmac frame earlier
    · exact held vmac frame mem

theorem reached_linked (run : reached next start past = some s) :
    ∀ c, LinkedNode (hubPast past) s.hub c (s.node c) (s.heard c) := by
  refine reached_invariant (I := fun past s => ∀ c, LinkedNode (hubPast past) s.hub c (s.node c) (s.heard c))
    ?_ ?_ run
  · exact LinkedNode.start
  intro past before a after held taken c
  rcases next_cases taken with ⟨b, hub, rfl, _, reads, step, rfl⟩ | ⟨d, b, node, rfl, reads, step, rfl⟩
  · refine (held c).hubStep step ?_
    intro data message
    simpa [hubReads, message] using reads
  · by_cases own : c = d
    · subst own
      simp only [Function.update_self]
      refine (held c).nodeStep step ?_
      rintro data rfl
      simpa [nodeReads] using reads
    · simp only [Function.update_of_ne own]
      exact held c

/-- Why an application behind `vmac` is handed a frame: the message is that frame, an
EncapsulatedNPDU for `vmac`, or a heartbeat which the frame acknowledges. -/
inductive Handed (vmac : Vmac) (data : Bytes) : Option ScFrame → Prop
  | npdu {frame : ScFrame} (decoded : ScFrame.decode data = .ok frame)
    (function : frame.function = ScFunction.code .encapsulatedNpdu)
    (destination : frame.destinationVmac = some vmac) : Handed vmac data (some frame)
  | heartbeat {frame : ScFrame} (decoded : ScFrame.decode data = .ok frame)
    (function : frame.function = ScFunction.code .heartbeat) :
    Handed vmac data (some (heartbeatAck frame.messageId))

def HandedFrom (s : ScNetwork) (log : List (ConnectionId × Bytes)) (d : ConnectionId) (i : Nat)
    (frame : Option ScFrame) : Prop :=
  ∃ c data, log[i]? = some (c, data) ∧ Handed (s.node d).vmac data frame

/-- The frames that applications have been handed come from a log of what the clients submitted:
one after the other from each client, each for one frame of one application at most, and to each
application in the order of the log. -/
structure Carried (s : ScNetwork) (log : List (ConnectionId × Bytes))
    (source : ConnectionId → List Nat) : Prop where
  submitted : ∀ c, (share log c).Sublist (s.node c).submitted
  inOrder : InOrder source log.length
  handed : ∀ d, (s.node d).phase ≠ .foreign →
    List.Forall₂ (HandedFrom s log d) (source d) (s.node d).handed

theorem recvFrame_reason {hubActions : List HubAction} {d : ConnectionId} {data frame : Bytes}
    {vmac : Vmac} (reason : ScHub.Reason hubActions d data frame)
    (named : ∀ v, .register d v ∈ hubActions → v = vmac) : Handed vmac data (recvFrame frame) := by
  cases reason with
  | @npdu f v decoded function destination registered =>
    have read : recvFrame data = some f := by
      rw [recvFrame, decoded]
    rw [read]
    exact .npdu decoded function (named v registered ▸ destination)
  | @heartbeat f decoded function =>
    have read : recvFrame (heartbeatAck f.messageId).encode = some (heartbeatAck f.messageId) := by
      rw [recvFrame, ScFrame.decode_encode ⟨rfl, rfl⟩]
    rw [read]
    exact .heartbeat decoded function

theorem submitted_share {hubActions : List HubAction} {hub : ScHub} {c : ConnectionId}
    {node : ScNode} {heard : Nat} (linked : LinkedNode hubActions hub c node heard) :
    (share (ScHub.received hubActions) c).Sublist node.submitted := by
  have order := linked.sound.order
  rw [ScNode.outgoing, List.append_assoc] at order
  have written := linked.arrived.trans ((List.take_sublist _ _).drop 1)
  exact written.trans ((List.sublist_append_left _ _).trans order)

theorem handed_explained {hubActions : List HubAction} {hub : ScHub} {d : ConnectionId}
    {node : ScNode} {heard : Nat} (linked : LinkedNode hubActions hub d node heard)
    {source : List Nat} (explained : ScHub.Explained hubActions d source (hub.connection d).written) :
    ∃ chosen, chosen.Sublist source ∧
      List.Forall₂ (ScHub.Explains hubActions d) chosen node.taken := by
  have order := linked.hears.order
  rw [ScNode.incoming, List.append_assoc] at order
  have taken : node.taken.Sublist ((hub.connection d).written.drop 1) :=
    ((List.sublist_append_left _ _).trans order).trans ((List.take_sublist _ _).drop 1)
  generalize (hub.connection d).written = written at explained taken
  cases explained with
  | nothing =>
    rw [List.drop_nil, List.sublist_nil] at taken
    rw [taken]
    exact ⟨[], List.nil_sublist _, .nil⟩
  | greeted each => exact forall₂_sublist each taken

theorem reached_carried (run : reached next start past = some s) :
    ∃ source, Carried s (ScHub.received (hubPast past)) source := by
  have linked := reached_linked run
  obtain ⟨source, routing⟩ := ScHub.reached_routing (reached_hub run) (hubPast_inside run)
  choose written part explained using
    fun d => (routing.explained d).take (s.hub.connection d).written_start
  choose chosen some each using fun d => handed_explained (linked d) (explained d)
  refine ⟨chosen, fun c => submitted_share (linked c),
    routing.inOrder.lose fun d => (some d).trans (part d).sublist, ?_⟩
  intro d ours
  rw [ScNode.handed, List.forall₂_map_right_iff]
  refine (each d).imp ?_
  rintro i frame ⟨c, data, at_, reason⟩
  exact ⟨c, data, at_, recvFrame_reason reason fun v mem => ((linked d).registered v mem).2 ours⟩

def SendsNpdus (past : List NetworkAction) : Prop :=
  ∀ c data, .node c (.sendRaw data) ∉ past ∧ .node c (.foreign data) ∉ past

structure Sends (past : List NetworkAction) (c : ConnectionId) (node : ScNode) : Prop where
  sound : node.Sound
  fresh : node.phase = .absent → node.submitted = []
  ours : node.phase ≠ .foreign
  npdus : ∀ data ∈ node.submitted, ∃ destVmac npdu messageId,
    .node c (.sendNpdu destVmac npdu messageId) ∈ past ∧
      data = (ScFrame.encapsulatedNpdu messageId (some node.vmac) (some destVmac) npdu).encode

theorem Sends.later {c : ConnectionId} {node : ScNode} (sends : Sends past c node) :
    Sends (a :: past) c node where
  sound := sends.sound
  fresh := sends.fresh
  ours := sends.ours
  npdus data mem := by
    obtain ⟨destVmac, npdu, messageId, sent, same⟩ := sends.npdus data mem
    exact ⟨destVmac, npdu, messageId, List.mem_cons_of_mem a sent, same⟩

theorem Sends.nodeStep {c : ConnectionId} {node node' : ScNode} {b : NodeAction}
    (sends : Sends past c node) (step : node.next b = some node')
    (allowed : ∀ data, b ≠ .sendRaw data ∧ b ≠ .foreign data) :
    Sends (.node c b :: past) c node' := by
  have sound := sends.sound.next step
  have later := sends.later (a := .node c b)
  cases ScNode.next_effect step with
  | dialled phase =>
    refine ⟨sound, by simp, by simp, ?_⟩
    intro data mem
    rw [sends.fresh phase] at mem
    cases mem
  | requested | requestFailed | greeted | refused | gaveUp | ended =>
    exact ⟨sound, by simp, by simp, later.npdus⟩
  | submitted submission writer =>
    have phase := sends.sound.running writer
    refine ⟨sound, by simp [phase], sends.ours, ?_⟩
    intro octets mem
    rcases List.mem_append.mp mem with earlier | now
    · exact later.npdus octets earlier
    · cases b with
      | sendNpdu destVmac npdu messageId =>
        cases submission
        exact ⟨destVmac, npdu, messageId, List.mem_cons_self, List.mem_singleton.mp now⟩
      | sendRaw data => exact absurd rfl (allowed data).1
      | _ => cases submission
  | @foreign data phase => exact absurd rfl (allowed data).2
  | notSubmitted => exact later
  | _ => exact ⟨sound, sends.fresh, sends.ours, later.npdus⟩

theorem reached_sends (run : reached next start past = some s) (own : SendsNpdus past) :
    ∀ c, Sends past c (s.node c) := by
  refine reached_invariant (I := fun past s => SendsNpdus past → ∀ c, Sends past c (s.node c))
    ?_ ?_ run own
  · intro _ c
    exact ⟨.start, fun _ => rfl, by simp [start], by simp [start]⟩
  · intro past before a after held taken own c
    have earlier := held fun c data =>
      ⟨fun mem => (own c data).1 (List.mem_cons_of_mem a mem),
        fun mem => (own c data).2 (List.mem_cons_of_mem a mem)⟩
    rcases next_cases taken with ⟨b, hub, rfl, _, _, _, rfl⟩ | ⟨d, b, node, rfl, _, step, rfl⟩
    · exact (earlier c).later
    · by_cases same : c = d
      · subst same
        simp only [Function.update_self]
        refine (earlier c).nodeStep step fun data => ⟨?_, ?_⟩
        · rintro rfl
          exact (own c data).1 List.mem_cons_self
        · rintro rfl
          exact (own c data).2 List.mem_cons_self
      · simp only [Function.update_of_ne same]
        exact (earlier c).later

/-- The frame at a position of a log is an NPDU that the application of a node sent to the vMAC
of `d`, which may be its own. -/
def SentFrom (past : List NetworkAction) (s : ScNetwork) (log : List (ConnectionId × Bytes))
    (d : ConnectionId) (i : Nat) (frame : Option ScFrame) : Prop :=
  ∃ c npdu messageId, .node c (.sendNpdu (s.node d).vmac npdu messageId) ∈ past ∧
    frame = some (ScFrame.encapsulatedNpdu messageId (some (s.node c).vmac) (some (s.node d).vmac) npdu) ∧
    log[i]? = some (c, (ScFrame.encapsulatedNpdu messageId (some (s.node c).vmac)
      (some (s.node d).vmac) npdu).encode)

theorem handed_sent {d : ConnectionId} {i : Nat} {frame : Option ScFrame}
    {log : List (ConnectionId × Bytes)} (sends : ∀ c, Sends past c (s.node c))
    (submitted : ∀ c, (share log c).Sublist (s.node c).submitted)
    (handed : HandedFrom s log d i frame) : SentFrom past s log d i frame := by
  obtain ⟨c, data, at_, why⟩ := handed
  have inside : data ∈ share log c := mem_share.mpr (List.mem_of_getElem? at_)
  obtain ⟨destVmac, npdu, messageId, sent, rfl⟩ := (sends c).npdus data ((submitted c).subset inside)
  have decoded := ScFrame.decode_encode (ScFrame.encapsulatedNpdu_announced messageId
    (some (s.node c).vmac) (some destVmac) npdu)
  cases why with
  | npdu read function destination =>
    cases decoded.symm.trans read
    cases destination
    exact ⟨c, npdu, messageId, sent, rfl, at_⟩
  | heartbeat read function =>
    cases decoded.symm.trans read
    cases function

/-- Where applications use `send_npdu` only, each is handed NPDUs that nodes sent to its vMAC,
unaltered and with the vMAC of their sender: each once at most, and those of one sender in the
order in which it sent them. -/
theorem npdus_in_order (run : reached next start past = some s) (own : SendsNpdus past) :
    ∃ (log : List (ConnectionId × Bytes)) (source : ConnectionId → List Nat),
      (∀ c, (share log c).Sublist (s.node c).submitted) ∧ InOrder source log.length ∧
        ∀ d, List.Forall₂ (SentFrom past s log d) (source d) (s.node d).handed := by
  obtain ⟨source, carried⟩ := reached_carried run
  have sends := reached_sends run own
  refine ⟨_, source, carried.submitted, carried.inOrder, fun d => ?_⟩
  exact (carried.handed d (sends d).ours).imp fun i frame =>
    handed_sent sends carried.submitted

def nodeVmac (b : UInt8) : Vmac := Vector.replicate 6 b

def joins (c : ConnectionId) (b : UInt8) : List NetworkAction :=
  [.node c (.hear connectAccept.encode), .hub (.register c (nodeVmac b)), .hub (.acceptSent c),
    .hub (.handshakeMessage c (connectRequestFrame (Vector.replicate 16 b) (nodeVmac b)).encode),
    .node c .request, .hub (.accept c), .node c (.dial (Vector.replicate 16 b) (nodeVmac b))]

def greeting : Bytes :=
  (ScFrame.encapsulatedNpdu 42 (some (nodeVmac 1)) (some (nodeVmac 2)) [0x01, 0x00]).encode

def greetingRun : List NetworkAction :=
  [.node 1 .recvFrame, .node 1 .handOver, .node 1 (.hear greeting), .hub (.deliver 1), .hub (.receive 1),
    .hub (.inbound 0 greeting), .node 0 .write, .node 0 .take,
    .node 0 (.sendNpdu (nodeVmac 2) [0x01, 0x00] 42)] ++ joins 1 2 ++ joins 0 1

theorem greetingRun_handed : ∃ s, reached next start greetingRun = some s ∧
    (s.node 1).handed = [some (ScFrame.encapsulatedNpdu 42 (some (nodeVmac 1)) (some (nodeVmac 2))
      [0x01, 0x00])] := by
  have trace : (reached next start greetingRun).map (fun s => (s.node 1).handed) =
      some [some (ScFrame.encapsulatedNpdu 42 (some (nodeVmac 1)) (some (nodeVmac 2)) [0x01, 0x00])] := by
    decide +kernel
  obtain ⟨s, run, handed⟩ := Option.map_eq_some_iff.mp trace
  exact ⟨s, run, handed⟩

theorem greetingRun_npdus : ∃ s, reached next start greetingRun = some s ∧
    ∃ (log : List (ConnectionId × Bytes)) (source : ConnectionId → List Nat),
      (∀ c, (share log c).Sublist (s.node c).submitted) ∧ InOrder source log.length ∧
        ∀ d, List.Forall₂ (SentFrom greetingRun s log d) (source d) (s.node d).handed := by
  obtain ⟨s, run, _⟩ := greetingRun_handed
  refine ⟨s, run, npdus_in_order run ?_⟩
  intro c data
  simp [greetingRun, joins]

end ScNetwork

end BacnetSim
