import BacnetSim.Lib.Dispatch
import BacnetSim.Transport.ScRegistry

/-! What the hub writes to its connections, against what it has received from them. -/
namespace BacnetSim
open Rust Transitions Dispatch

/-- The frames on their way to the node: those written, the one in hand, and the queue. -/
def Connection.pipeline (conn : Connection) : List Bytes :=
  conn.written ++ conn.sending.toList ++ conn.queue

def ConnectionPhase.IsEarly : ConnectionPhase → Prop
  | .absent | .handshake | .greeted _ _ => True
  | _ => False

def ConnectionPhase.IsLate : ConnectionPhase → Prop
  | .accepted _ _ | .registered _ _ | .closing _ _ => True
  | _ => False

theorem ConnectionPhase.Moves.early {p q : ConnectionPhase} (move : p.Moves q) (early : q.IsEarly) :
    p.IsEarly := by
  cases move with
  | stays => exact early
  | upgraded | requested => trivial
  | refused | accepted | failed | ended => cases early

def Connection.IsRunning (conn : Connection) : Prop := conn.outbound = true ∨ conn.phase.IsLate

structure Connection.Keeps (conn conn' : Connection) : Prop where
  pipeline : conn'.pipeline <+: conn.pipeline
  written : conn.written <+: conn'.written
  early : conn'.phase.IsEarly → conn.phase.IsEarly
  running : conn'.IsRunning → conn.IsRunning

theorem Connection.Keeps.refl (conn : Connection) : conn.Keeps conn :=
  ⟨List.prefix_refl _, List.prefix_refl _, id, id⟩

theorem Connection.written_start (conn : Connection) : conn.written <+: conn.pipeline := by
  rw [pipeline, List.append_assoc]
  exact List.prefix_append _ _

namespace ScHub
variable {s s' : ScHub} {a : HubAction} {c d : ConnectionId} {past : List HubAction}

theorem update_keeps {conn : Connection} (keeps : (s.connection c).Keeps conn) (d : ConnectionId) :
    (s.connection d).Keeps ((s.update c conn).connection d) := by
  by_cases own : d = c
  · subst own
    simpa only [update, Function.update_self] using keeps
  · simp only [update, Function.update_of_ne own]
    exact .refl _

theorem setPhase_keeps {p : ConnectionPhase} (move : (s.connection c).phase.Moves p)
    (late : p.IsLate → (s.connection c).phase.IsLate) (d : ConnectionId) :
    (s.connection d).Keeps ((s.setPhase c p).connection d) := by
  have keeps : (s.connection c).Keeps { s.connection c with phase := p } :=
    ⟨List.prefix_refl _, List.prefix_refl _, move.early, Or.imp_right late⟩
  exact update_keeps keeps d

def received : List HubAction → List (ConnectionId × Bytes)
  | [] => []
  | .inbound c data :: past => received past ++ [(c, data)]
  | _ :: past => received past

/-- Why a frame is for the connection `d`: it is a message that was received, an
EncapsulatedNPDU for the vMAC which `d` registered, or the answer to a heartbeat. -/
inductive Reason (past : List HubAction) (d : ConnectionId) (data : Bytes) : Bytes → Prop
  | npdu {frame : ScFrame} {vmac : Vmac} (decoded : ScFrame.decode data = .ok frame)
    (function : frame.function = ScFunction.code .encapsulatedNpdu)
    (destination : frame.destinationVmac = some vmac) (registered : .register d vmac ∈ past) :
    Reason past d data data
  | heartbeat {frame : ScFrame} (decoded : ScFrame.decode data = .ok frame)
    (function : frame.function = ScFunction.code .heartbeat) :
    Reason past d data (heartbeatAck frame.messageId).encode

def Explains (past : List HubAction) (d : ConnectionId) (i : Nat) (frame : Bytes) : Prop :=
  ∃ c data, (received past)[i]? = some (c, data) ∧ Reason past d data frame

/-- Nothing, or a ConnectAccept and then one frame for each position of `source`. -/
inductive Explained (past : List HubAction) (d : ConnectionId) : List Nat → List Bytes → Prop
  | nothing : Explained past d [] []
  | greeted {source : List Nat} {frames : List Bytes}
    (each : List.Forall₂ (Explains past d) source frames) :
    Explained past d source (connectAccept.encode :: frames)

theorem received_cons (a : HubAction) (past : List HubAction) :
    received past <+: received (a :: past) := by
  cases a with
  | inbound c data => exact List.prefix_append _ _
  | _ => exact List.prefix_refl _

theorem Reason.later {data frame : Bytes} (reason : Reason past d data frame) :
    Reason (a :: past) d data frame := by
  cases reason with
  | npdu decoded function destination registered =>
    exact .npdu decoded function destination (List.mem_cons_of_mem a registered)
  | heartbeat decoded function => exact .heartbeat decoded function

theorem Explains.later {i : Nat} {frame : Bytes} (explains : Explains past d i frame) :
    Explains (a :: past) d i frame := by
  obtain ⟨c, data, at_, reason⟩ := explains
  obtain ⟨more, grown⟩ := received_cons a past
  have inside := (List.getElem?_eq_some_iff.mp at_).1
  exact ⟨c, data, by rw [← grown, List.getElem?_append_left inside, at_], reason.later⟩

theorem Explained.later {source : List Nat} {frames : List Bytes}
    (explained : Explained past d source frames) : Explained (a :: past) d source frames := by
  cases explained with
  | nothing => exact .nothing
  | greeted each => exact .greeted (each.imp fun _ _ explains => explains.later)

theorem Explained.take {source : List Nat} {frames part : List Bytes}
    (explained : Explained past d source frames) (start : part <+: frames) :
    ∃ source', source' <+: source ∧ Explained past d source' part := by
  cases explained with
  | nothing =>
    rw [List.prefix_nil.mp start]
    exact ⟨[], List.prefix_refl _, .nothing⟩
  | greeted each =>
    cases part with
    | nil => exact ⟨[], List.nil_prefix, .nothing⟩
    | cons first rest =>
      obtain ⟨rfl, start⟩ := List.cons_prefix_cons.mp start
      rw [List.prefix_iff_eq_take.mp start]
      exact ⟨_, List.take_prefix _ _, .greeted (List.forall₂_take rest.length each)⟩

theorem Explained.fresh {source : List Nat} (explained : Explained past d source []) :
    source = [] := by
  cases explained
  rfl

theorem Explained.concat {i : Nat} {source : List Nat} {frames : List Bytes} {frame : Bytes}
    (explained : Explained past d source frames) (explains : Explains past d i frame)
    (begun : frames ≠ []) : Explained past d (source ++ [i]) (frames ++ [frame]) := by
  cases explained with
  | nothing => exact absurd rfl begun
  | greeted each => exact .greeted (List.rel_append each (.cons explains .nil))

theorem mapped_registered (run : reached next start past = some s) :
    ∀ vmac handle, s.nodes.lookup vmac = some handle → .register handle.tx vmac ∈ past := by
  refine reached_invariant (I := fun past s => ∀ vmac handle, s.nodes.lookup vmac = some handle →
    .register handle.tx vmac ∈ past) ?_ ?_ run
  · intro vmac handle mapped
    cases mapped
  · intro past before a after held taken vmac handle mapped
    rcases next_cases taken with ⟨c, nodeId, v, rfl, phase, rfl⟩ | ⟨c, nodeId, v, rfl, phase, rfl⟩ |
      ⟨quiet, nodes, _⟩
    · by_cases same : vmac = v
      · subst same
        cases (AList.lookup_insert _).symm.trans mapped
        exact List.mem_cons_self
      · rw [register, AList.lookup_insert_ne same] at mapped
        exact List.mem_cons_of_mem _ (held vmac handle mapped)
    · by_cases same : vmac = v
      · subst same
        cases (AList.lookup_erase vmac before.nodes).symm.trans mapped
      · rw [cleanUp, AList.lookup_erase_ne same] at mapped
        exact List.mem_cons_of_mem _ (held vmac handle mapped)
    · rw [nodes] at mapped
      exact List.mem_cons_of_mem _ (held vmac handle mapped)

def enqueue (s : ScHub) (d : ConnectionId) (frame : Bytes) : ScHub :=
  s.update d { s.connection d with queue := (s.connection d).queue ++ [frame] }

theorem trySend_cases (d : ConnectionId) (frame : Bytes) :
    s.trySend d frame = s ∨
      (s.connection d).outbound = true ∧ s.trySend d frame = s.enqueue d frame := by
  unfold trySend
  split
  · rename_i room
    rw [Bool.and_eq_true] at room
    exact .inr ⟨room.1, rfl⟩
  · exact .inl rfl

theorem trySendTo_cases (vmac : Vmac) (frame : Bytes) :
    s.trySendTo vmac frame = s ∨
      ∃ handle, s.nodes.lookup vmac = some handle ∧ (s.connection handle.tx).outbound = true ∧
        s.trySendTo vmac frame = s.enqueue handle.tx frame := by
  unfold trySendTo
  split
  · rename_i handle mapped
    rcases trySend_cases handle.tx frame with same | ⟨outbound, queued⟩
    · exact .inl same
    · exact .inr ⟨handle, mapped, outbound, queued⟩
  · exact .inl rfl

theorem route_cases (run : reached next start past = some s) (vmac : Vmac) (data : Bytes) :
    s.route vmac data = s ∨
      ∃ d frame, Reason past d data frame ∧ (s.connection d).outbound = true ∧
        s.route vmac data = s.enqueue d frame := by
  have mapped := mapped_registered run
  unfold route
  split
  · rename_i frame decoded
    split
    · rename_i function
      split
      · rename_i dest destination
        rcases trySendTo_cases dest data with same | ⟨handle, found, outbound, queued⟩
        · exact .inl same
        · exact .inr ⟨handle.tx, data,
            .npdu decoded (eq_of_beq function) destination (mapped dest handle found), outbound, queued⟩
      · exact .inl rfl
    · split
      · rename_i function
        rcases trySendTo_cases vmac (heartbeatAck frame.messageId).encode with
          same | ⟨handle, found, outbound, queued⟩
        · exact .inl same
        · exact .inr ⟨handle.tx, _, .heartbeat decoded (eq_of_beq function), outbound, queued⟩
      · exact .inl rfl
  · exact .inl rfl

theorem next_pipelines (taken : next s a = some s')
    (inside : ∀ vmac frame, a ≠ .sendToVmac vmac frame) :
    (∃ c data nodeId vmac, a = .inbound c data ∧
      (s.connection c).phase = .registered nodeId vmac ∧ s' = s.route vmac data) ∨
    (∀ past, received (a :: past) = received past) ∧
      ((∃ c nodeId vmac, a = .acceptSent c ∧ (s.connection c).phase = .greeted nodeId vmac ∧
        s' = s.update c
          { s.connection c with
            phase := .accepted nodeId vmac
            written := (s.connection c).written ++ [connectAccept.encode] }) ∨
      ∀ d, (s.connection d).Keeps (s'.connection d)) := by
  cases next_effect taken with
  | sent | notSent => exact absurd rfl (inside _ _)
  | routed phase => exact .inl ⟨_, _, _, _, rfl, phase, rfl⟩
  | acceptSent phase => exact .inr ⟨fun _ => rfl, .inl ⟨_, _, _, rfl, phase, rfl⟩⟩
  | accepted phase => exact .inr ⟨fun _ => rfl, .inr (setPhase_keeps (phase ▸ .upgraded) nofun)⟩
  | requested phase request =>
    exact .inr ⟨fun _ => rfl, .inr (setPhase_keeps (phase ▸ .requested _ _) nofun)⟩
  | ignored => exact .inr ⟨fun _ => rfl, .inr fun d => .refl _⟩
  | refused phase | handshakeClosed phase =>
    exact .inr ⟨fun _ => rfl, .inr (setPhase_keeps (phase ▸ .refused) nofun)⟩
  | acceptFailed phase =>
    exact .inr ⟨fun _ => rfl, .inr (setPhase_keeps (phase ▸ .failed _ _) nofun)⟩
  | ended phase =>
    exact .inr ⟨fun _ => rfl, .inr (setPhase_keeps (phase ▸ .ended _ _) fun _ => phase ▸ trivial)⟩
  | registered phase =>
    refine .inr ⟨fun _ => rfl, .inr (update_keeps ⟨?_, List.prefix_refl _, nofun, ?_⟩)⟩
    · exact (List.prefix_append_right_inj _).mpr List.nil_prefix
    · exact fun _ => .inr (phase ▸ trivial)
  | cleanedUp phase =>
    refine .inr ⟨fun _ => rfl, .inr (update_keeps ⟨?_, List.prefix_refl _, nofun, ?_⟩)⟩
    · simp [Connection.pipeline]
    · rintro (out | late)
      · cases out
      · cases late
  | taken sending queue =>
    refine .inr ⟨fun _ => rfl, .inr (update_keeps ⟨?_, List.prefix_refl _, id, id⟩)⟩
    simp [Connection.pipeline, sending, queue]
  | delivered sending =>
    refine .inr ⟨fun _ => rfl, .inr (update_keeps ⟨?_, List.prefix_append _ _, id, id⟩)⟩
    simp [Connection.pipeline, sending]
  | writeFailed sending =>
    refine .inr ⟨fun _ => rfl, .inr (update_keeps ⟨?_, List.prefix_refl _, id, ?_⟩)⟩
    · simp [Connection.pipeline]
    · rintro (out | late)
      · cases out
      · exact .inr late
  | drained =>
    refine .inr ⟨fun _ => rfl, .inr (update_keeps ⟨List.prefix_refl _, List.prefix_refl _, id, ?_⟩)⟩
    rintro (out | late)
    · cases out
    · exact .inr late

structure Routing (past : List HubAction) (s : ScHub) (source : ConnectionId → List Nat) : Prop where
  early : ∀ d, (s.connection d).phase.IsEarly → (s.connection d).pipeline = []
  running : ∀ d, (s.connection d).IsRunning → (s.connection d).written ≠ []
  explained : ∀ d, Explained past d (source d) (s.connection d).pipeline
  inOrder : InOrder source (received past).length

variable {source : ConnectionId → List Nat}

theorem Routing.keeps (routing : Routing past s source)
    (keeps : ∀ d, (s.connection d).Keeps (s'.connection d))
    (same : received (a :: past) = received past) : ∃ source', Routing (a :: past) s' source' := by
  choose source' part explained using fun d => (routing.explained d).take (keeps d).pipeline
  refine ⟨source', ?_, ?_, fun d => (explained d).later, ?_⟩
  · intro d early
    have empty := routing.early d ((keeps d).early early)
    exact List.prefix_nil.mp (empty ▸ (keeps d).pipeline)
  · intro d running empty
    exact routing.running d ((keeps d).running running)
      (List.prefix_nil.mp (empty ▸ (keeps d).written))
  · rw [same]
    exact routing.inOrder.lose fun d => (part d).sublist

theorem Routing.greet {nodeId : ScNodeId} {vmac : Vmac} (routing : Routing past s source)
    (phase : (s.connection c).phase = .greeted nodeId vmac)
    (same : received (a :: past) = received past) :
    Routing (a :: past) (s.update c
      { s.connection c with
        phase := .accepted nodeId vmac
        written := (s.connection c).written ++ [connectAccept.encode] }) source := by
  have empty := routing.early c (phase ▸ trivial)
  have fresh : source c = [] := by
    exact (empty ▸ routing.explained c).fresh
  constructor
  · intro d early
    by_cases own : d = c
    · subst own
      simp only [update, Function.update_self] at early
      cases early
    · simp only [update, Function.update_of_ne own] at early ⊢
      exact routing.early d early
  · intro d running
    by_cases own : d = c
    · subst own
      simp [update, Function.update_self]
    · simp only [update, Function.update_of_ne own] at running ⊢
      exact routing.running d running
  · intro d
    by_cases own : d = c
    · subst own
      have parts : (s.connection d).written = [] ∧ (s.connection d).sending = none ∧
          (s.connection d).queue = [] := by
        simpa [Connection.pipeline] using empty
      simp only [update, Function.update_self, Connection.pipeline, parts, fresh]
      exact .greeted .nil
    · simp only [update, Function.update_of_ne own]
      exact (routing.explained d).later
  · rw [same]
    exact routing.inOrder

theorem Routing.dropped {data : Bytes} (routing : Routing past s source) :
    Routing (.inbound c data :: past) s source where
  early := routing.early
  running := routing.running
  explained d := (routing.explained d).later
  inOrder := routing.inOrder.skip (received_cons _ past).length_le

theorem Routing.queued {data frame : Bytes} (routing : Routing past s source)
    (reason : Reason past d data frame) (outbound : (s.connection d).outbound = true) :
    Routing (.inbound c data :: past) (s.enqueue d frame)
      (Function.update source d (source d ++ [(received past).length])) := by
  have written := routing.running d (.inl outbound)
  have explains : Explains (.inbound c data :: past) d (received past).length frame :=
    ⟨c, data, List.getElem?_concat_length, reason.later⟩
  constructor
  · intro e early
    by_cases own : e = d
    · subst own
      simp only [enqueue, update, Function.update_self] at early
      have empty := routing.early e early
      exact absurd (List.prefix_nil.mp (empty ▸ (s.connection e).written_start)) written
    · simp only [enqueue, update, Function.update_of_ne own] at early ⊢
      exact routing.early e early
  · intro e running
    by_cases own : e = d
    · subst own
      simpa only [enqueue, update, Function.update_self] using written
    · simp only [enqueue, update, Function.update_of_ne own] at running ⊢
      exact routing.running e running
  · intro e
    by_cases own : e = d
    · subst own
      simp only [enqueue, update, Function.update_self, Connection.pipeline, ← List.append_assoc]
      exact (routing.explained e).later.concat explains
        (fun empty => written (List.prefix_nil.mp (empty ▸ (s.connection e).written_start)))
    · simp only [enqueue, update, Function.update_of_ne own]
      exact (routing.explained e).later
  · rw [received, List.length_append]
    exact routing.inOrder.hand d

theorem reached_routing (run : reached next start past = some s)
    (inside : ∀ vmac frame, .sendToVmac vmac frame ∉ past) : ∃ source, Routing past s source := by
  refine reached_induction (I := fun past s => (∀ vmac frame, .sendToVmac vmac frame ∉ past) →
    ∃ source, Routing past s source) ?_ ?_ run inside
  · intro _
    exact ⟨fun _ => [], fun _ _ => rfl, by simp [start, Connection.IsRunning, ConnectionPhase.IsLate],
      fun _ => .nothing, .nothing⟩
  · intro past before a after run held taken inside
    obtain ⟨source, routing⟩ :=
      held fun vmac frame mem => inside vmac frame (List.mem_cons_of_mem a mem)
    have here : ∀ vmac frame, a ≠ .sendToVmac vmac frame := by
      rintro vmac frame rfl
      exact inside vmac frame List.mem_cons_self
    rcases next_pipelines taken here with ⟨c, data, nodeId, vmac, rfl, phase, rfl⟩ |
      ⟨same, ⟨c, nodeId, vmac, rfl, phase, rfl⟩ | keeps⟩
    · rcases route_cases run vmac data with dropped | ⟨d, frame, reason, outbound, queued⟩
      · rw [dropped]
        exact ⟨source, routing.dropped⟩
      · rw [queued]
        exact ⟨_, routing.queued reason outbound⟩
    · exact ⟨source, routing.greet phase (same past)⟩
    · exact routing.keeps keeps (same past)

theorem registers_once (run : reached next start past = some s) :
    ∀ c v w, .register c v ∈ past → .register c w ∈ past → v = w := by
  refine reached_induction (I := fun past _ => ∀ c v w, .register c v ∈ past →
    .register c w ∈ past → v = w) ?_ ?_ run
  · intro c v w mem
    cases mem
  · intro past before a after run held taken c v w left right
    have fresh : ∀ u u', .register c u ∈ past → a ≠ .register c u' := by
      rintro u u' mem rfl
      have has := registered_hasRegistered run c u mem
      rcases next_cases taken with ⟨_, _, _, eq, phase, _⟩ | ⟨_, _, _, eq, _⟩ | ⟨quiet, _⟩
      · cases eq
        rw [phase] at has
        cases has
      · cases eq
      · cases quiet
    rcases List.mem_cons.mp left with rfl | left <;> rcases List.mem_cons.mp right with here | right
    · cases here
      rfl
    · exact absurd rfl (fresh w v right)
    · exact absurd here.symm (fresh v w left)
    · exact held c v w left right

/-- Every frame written after a ConnectAccept is a message received before, for the vMAC that
its reader registered, or answers a heartbeat. No two frames share a message, and those of a
connection are in the order of their messages. -/
theorem routes_in_order (run : reached next start past = some s)
    (inside : ∀ vmac frame, .sendToVmac vmac frame ∉ past) :
    (∀ c v w, .register c v ∈ past → .register c w ∈ past → v = w) ∧
      ∃ source : ConnectionId → List Nat, InOrder source (received past).length ∧
        ∀ d, Explained past d (source d) (s.connection d).written := by
  refine ⟨registers_once run, ?_⟩
  obtain ⟨source, routing⟩ := reached_routing run inside
  choose source' part explained using
    fun d => (routing.explained d).take (s.connection d).written_start
  exact ⟨source', routing.inOrder.lose fun d => (part d).sublist, explained⟩

def vmacOf (b : UInt8) : Vmac := Vector.replicate 6 b

def connectRequest (b : UInt8) : Bytes :=
  ScFrame.encode
    { function := ScFunction.code .connectRequest
      control := {}
      messageId := 1
      originatingVmac := none
      destinationVmac := none
      payload := List.replicate 16 b ++ (vmacOf b).toList }

def npduFor (b : UInt8) : Bytes :=
  ScFrame.encode
    { function := ScFunction.code .encapsulatedNpdu
      control := { destVaddrPresent := true }
      messageId := 2
      originatingVmac := none
      destinationVmac := some (vmacOf b)
      payload := [0x01, 0x00] }

def relayRun : List HubAction :=
  [.deliver 1, .receive 1, .inbound 0 (npduFor 2),
    .register 1 (vmacOf 2), .acceptSent 1, .handshakeMessage 1 (connectRequest 2), .accept 1,
    .register 0 (vmacOf 1), .acceptSent 0, .handshakeMessage 0 (connectRequest 1), .accept 0]

theorem relayRun_in_order :
    ∃ s, reached next start relayRun = some s ∧
      (s.connection 1).written = [connectAccept.encode, npduFor 2] ∧
      ∃ source : ConnectionId → List Nat, InOrder source (received relayRun).length ∧
        ∀ d, Explained relayRun d (source d) (s.connection d).written := by
  have trace : (reached next start relayRun).map (fun s => (s.connection 1).written) =
      some [connectAccept.encode, npduFor 2] := by
    decide +kernel
  obtain ⟨s, run, written⟩ := Option.map_eq_some_iff.mp trace
  exact ⟨s, run, written, (routes_in_order run (by simp [relayRun])).2⟩

end ScHub

end BacnetSim
