import BacnetSim.Transport.ScHub

/-! The hub's registry against the connections that are open. A clean-up removes the entry of
its connection's vMAC whoever registered last, which is where the two come apart. -/
namespace BacnetSim
open Rust Transitions

def ConnectionPhase.HasRegistered (vmac : Vmac) : ConnectionPhase → Prop
  | .registered _ v | .closing _ v => v = vmac
  | .closed => True
  | _ => False

inductive ConnectionPhase.Moves : ConnectionPhase → ConnectionPhase → Prop
  | stays (p : ConnectionPhase) : Moves p p
  | upgraded : Moves .absent .handshake
  | requested (nodeId : ScNodeId) (vmac : Vmac) : Moves .handshake (.greeted nodeId vmac)
  | refused : Moves .handshake .closed
  | accepted (nodeId : ScNodeId) (vmac : Vmac) : Moves (.greeted nodeId vmac) (.accepted nodeId vmac)
  | failed (nodeId : ScNodeId) (vmac : Vmac) : Moves (.greeted nodeId vmac) .closed
  | ended (nodeId : ScNodeId) (vmac : Vmac) : Moves (.registered nodeId vmac) (.closing nodeId vmac)

theorem ConnectionPhase.HasRegistered.moves {vmac : Vmac} {p q : ConnectionPhase} (has : p.HasRegistered vmac)
    (move : p.Moves q) : q.HasRegistered vmac := by
  cases move with
  | stays => exact has
  | ended nodeId v => exact has
  | upgraded | requested | accepted => cases has
  | refused | failed => trivial

theorem ConnectionPhase.Moves.registered {p : ConnectionPhase} {nodeId : ScNodeId} {vmac : Vmac}
    (move : p.Moves (.registered nodeId vmac)) : p = .registered nodeId vmac := by
  cases move
  rfl

def HubAction.IsQuiet : HubAction → Prop
  | .register _ _ | .cleanUp _ => False
  | _ => True

namespace ScHub
variable {s s' : ScHub} {a : HubAction} {c d : ConnectionId}

theorem update_phase {conn : Connection} (same : conn.phase = (s.connection c).phase) :
    ((s.update c conn).connection d).phase = (s.connection d).phase := by
  by_cases eq : d = c
  · subst eq
    simp only [update, Function.update_self, same]
  · simp only [update, Function.update_of_ne eq]

theorem update_moves {conn : Connection} (move : (s.connection c).phase.Moves conn.phase) :
    (s.connection d).phase.Moves ((s.update c conn).connection d).phase := by
  by_cases eq : d = c
  · subst eq
    simpa only [update, Function.update_self] using move
  · simp only [update, Function.update_of_ne eq]
    exact .stays _

theorem trySend_frame (c : ConnectionId) (frame : Bytes) :
    (s.trySend c frame).nodes = s.nodes ∧
      ∀ d, ((s.trySend c frame).connection d).phase = (s.connection d).phase := by
  unfold trySend
  split
  · exact ⟨rfl, fun d => update_phase rfl⟩
  · exact ⟨rfl, fun d => rfl⟩

theorem trySendTo_frame (vmac : Vmac) (frame : Bytes) :
    (s.trySendTo vmac frame).nodes = s.nodes ∧
      ∀ d, ((s.trySendTo vmac frame).connection d).phase = (s.connection d).phase := by
  unfold trySendTo
  split
  · exact trySend_frame _ _
  · exact ⟨rfl, fun d => rfl⟩

theorem route_frame (vmac : Vmac) (data : Bytes) :
    (s.route vmac data).nodes = s.nodes ∧
      ∀ d, ((s.route vmac data).connection d).phase = (s.connection d).phase := by
  unfold route
  split
  · split
    · split
      · exact trySendTo_frame _ _
      · exact ⟨rfl, fun d => rfl⟩
    · split
      · exact trySendTo_frame _ _
      · exact ⟨rfl, fun d => rfl⟩
  · exact ⟨rfl, fun d => rfl⟩

section Registry
variable (s : ScHub) (c : ConnectionId) (nodeId : ScNodeId) (vmac : Vmac)

theorem register_self : ((s.register c nodeId vmac).connection c).phase = .registered nodeId vmac := by
  simp only [register, Function.update_self]

theorem register_other (other : d ≠ c) :
    (s.register c nodeId vmac).connection d = s.connection d := by
  simp only [register, Function.update_of_ne other]

theorem cleanUp_self : ((s.cleanUp c vmac).connection c).phase = .closed := by
  simp only [cleanUp, Function.update_self]

theorem cleanUp_other (other : d ≠ c) : (s.cleanUp c vmac).connection d = s.connection d := by
  simp only [cleanUp, Function.update_of_ne other]

end Registry

inductive Effect (s : ScHub) : HubAction → ScHub → Prop
  | accepted {c : ConnectionId} (phase : (s.connection c).phase = .absent) :
    Effect s (.accept c) (s.setPhase c .handshake)
  | requested {c : ConnectionId} {data : Bytes} {nodeId : ScNodeId} {vmac : Vmac}
    (phase : (s.connection c).phase = .handshake)
    (request : handshakeRequest data = .ok (some (nodeId, vmac))) :
    Effect s (.handshakeMessage c data) (s.setPhase c (.greeted nodeId vmac))
  | ignored {c : ConnectionId} {data : Bytes} (phase : (s.connection c).phase = .handshake)
    (request : handshakeRequest data = .ok none) : Effect s (.handshakeMessage c data) s
  | refused {c : ConnectionId} {data : Bytes} (phase : (s.connection c).phase = .handshake) :
    Effect s (.handshakeMessage c data) (s.setPhase c .closed)
  | handshakeClosed {c : ConnectionId} (phase : (s.connection c).phase = .handshake) :
    Effect s (.handshakeClosed c) (s.setPhase c .closed)
  | acceptSent {c : ConnectionId} {nodeId : ScNodeId} {vmac : Vmac}
    (phase : (s.connection c).phase = .greeted nodeId vmac) : Effect s (.acceptSent c) (s.update c
      { s.connection c with
        phase := .accepted nodeId vmac
        written := (s.connection c).written ++ [connectAccept.encode] })
  | acceptFailed {c : ConnectionId} {nodeId : ScNodeId} {vmac : Vmac}
    (phase : (s.connection c).phase = .greeted nodeId vmac) :
    Effect s (.acceptFailed c) (s.setPhase c .closed)
  | registered {c : ConnectionId} {nodeId : ScNodeId} {vmac : Vmac}
    (phase : (s.connection c).phase = .accepted nodeId vmac) :
    Effect s (.register c vmac) (s.register c nodeId vmac)
  | routed {c : ConnectionId} {data : Bytes} {nodeId : ScNodeId} {vmac : Vmac}
    (phase : (s.connection c).phase = .registered nodeId vmac) :
    Effect s (.inbound c data) (s.route vmac data)
  | ended {c : ConnectionId} {nodeId : ScNodeId} {vmac : Vmac}
    (phase : (s.connection c).phase = .registered nodeId vmac) :
    Effect s (.ended c) (s.setPhase c (.closing nodeId vmac))
  | cleanedUp {c : ConnectionId} {nodeId : ScNodeId} {vmac : Vmac}
    (phase : (s.connection c).phase = .closing nodeId vmac) :
    Effect s (.cleanUp c) (s.cleanUp c vmac)
  | taken {c : ConnectionId} {frame : Bytes} {rest : List Bytes}
    (sending : (s.connection c).sending = none) (queue : (s.connection c).queue = frame :: rest) :
    Effect s (.receive c) (s.update c
      { s.connection c with queue := rest, sending := some frame })
  | delivered {c : ConnectionId} {frame : Bytes} (sending : (s.connection c).sending = some frame) :
    Effect s (.deliver c) (s.update c
      { s.connection c with sending := none, written := (s.connection c).written ++ [frame] })
  | writeFailed {c : ConnectionId} {frame : Bytes} (sending : (s.connection c).sending = some frame) :
    Effect s (.writeFailed c) (s.update c
      { s.connection c with queue := [], outbound := false, sending := none })
  | drained {c : ConnectionId} :
    Effect s (.drained c) (s.update c { s.connection c with outbound := false })
  | sent {vmac : Vmac} {frame : Bytes} {handle : NodeHandle}
    (mapped : s.nodes.lookup vmac = some handle) :
    Effect s (.sendToVmac vmac frame) (s.trySend handle.tx frame)
  | notSent {vmac : Vmac} {frame : Bytes} : Effect s (.sendToVmac vmac frame) s

theorem next_effect (step : next s a = some s') : Effect s a s' := by
  cases a with
  | accept c =>
    simp only [next] at step
    split at step <;> cases step
    exact .accepted ‹_›
  | handshakeMessage c data =>
    simp only [next] at step
    split at step
    · split at step <;> cases step
      · exact .requested ‹_› ‹_›
      · exact .ignored ‹_› ‹_›
      · exact .refused ‹_›
    · cases step
  | handshakeClosed c =>
    simp only [next] at step
    split at step <;> cases step
    exact .handshakeClosed ‹_›
  | acceptSent c =>
    simp only [next] at step
    split at step <;> cases step
    exact .acceptSent ‹_›
  | acceptFailed c =>
    simp only [next] at step
    split at step <;> cases step
    exact .acceptFailed ‹_›
  | register c vmac =>
    simp only [next] at step
    split at step
    · split at step <;> cases step
      rename_i same
      subst same
      exact .registered ‹_›
    · cases step
  | inbound c data =>
    simp only [next] at step
    split at step <;> cases step
    exact .routed ‹_›
  | ended c =>
    simp only [next] at step
    split at step <;> cases step
    exact .ended ‹_›
  | cleanUp c =>
    simp only [next] at step
    split at step <;> cases step
    exact .cleanedUp ‹_›
  | receive c =>
    simp only [next] at step
    split at step <;> cases step
    exact .taken ‹_› ‹_›
  | deliver c =>
    simp only [next] at step
    split at step <;> cases step
    exact .delivered ‹_›
  | writeFailed c =>
    simp only [next] at step
    split at step <;> cases step
    exact .writeFailed ‹_›
  | drained c =>
    simp only [next] at step
    split at step <;> cases step
    exact .drained
  | sendToVmac vmac frame =>
    simp only [next] at step
    split at step
    · split at step
      · split at step <;> cases step
        exact .sent ‹_›
      · cases step
        exact .notSent
    · cases step
      exact .notSent

theorem next_cases (taken : next s a = some s') :
    (∃ c nodeId vmac, a = .register c vmac ∧ (s.connection c).phase = .accepted nodeId vmac ∧
      s' = s.register c nodeId vmac) ∨
    (∃ c nodeId vmac, a = .cleanUp c ∧ (s.connection c).phase = .closing nodeId vmac ∧
      s' = s.cleanUp c vmac) ∨
    (a.IsQuiet ∧ s'.nodes = s.nodes ∧
      ∀ c, (s.connection c).phase.Moves (s'.connection c).phase) := by
  cases next_effect taken with
  | registered phase => exact .inl ⟨_, _, _, rfl, phase, rfl⟩
  | cleanedUp phase => exact .inr (.inl ⟨_, _, _, rfl, phase, rfl⟩)
  | accepted phase => exact .inr (.inr ⟨trivial, rfl, fun d => update_moves (phase ▸ .upgraded)⟩)
  | requested phase request =>
    exact .inr (.inr ⟨trivial, rfl, fun d => update_moves (phase ▸ .requested _ _)⟩)
  | refused phase | handshakeClosed phase =>
    exact .inr (.inr ⟨trivial, rfl, fun d => update_moves (phase ▸ .refused)⟩)
  | acceptSent phase =>
    exact .inr (.inr ⟨trivial, rfl, fun d => update_moves (phase ▸ .accepted _ _)⟩)
  | acceptFailed phase =>
    exact .inr (.inr ⟨trivial, rfl, fun d => update_moves (phase ▸ .failed _ _)⟩)
  | ended phase => exact .inr (.inr ⟨trivial, rfl, fun d => update_moves (phase ▸ .ended _ _)⟩)
  | routed phase =>
    have frame := route_frame (s := s)
    exact .inr (.inr ⟨trivial, (frame _ _).1, fun d => (frame _ _).2 d ▸ .stays _⟩)
  | sent mapped =>
    have frame := trySend_frame (s := s)
    exact .inr (.inr ⟨trivial, (frame _ _).1, fun d => (frame _ _).2 d ▸ .stays _⟩)
  | taken | delivered | writeFailed | drained =>
    exact .inr (.inr ⟨trivial, rfl, fun d => update_moves (.stays _)⟩)
  | ignored | notSent => exact .inr (.inr ⟨trivial, rfl, fun d => .stays _⟩)

/-- The connection that registered `vmac` last, the latest action first. -/
def latestRegistrant (vmac : Vmac) : List HubAction → Option ConnectionId
  | [] => none
  | .register c v :: past => if v = vmac then some c else latestRegistrant vmac past
  | _ :: past => latestRegistrant vmac past

theorem latestRegistrant_quiet {vmac : Vmac} {past : List HubAction} (quiet : a.IsQuiet) :
    latestRegistrant vmac (a :: past) = latestRegistrant vmac past := by
  cases a with
  | register c v => cases quiet
  | _ => rfl

def IsOpen (s : ScHub) (c : ConnectionId) : Prop :=
  ∃ nodeId vmac, (s.connection c).phase = .registered nodeId vmac

/-- A vMAC whose last registrant is open is mapped to that connection. -/
def Follows (past : List HubAction) (s : ScHub) : Prop :=
  ∀ vmac c, latestRegistrant vmac past = some c → s.IsOpen c →
    ∃ handle, s.nodes.lookup vmac = some handle ∧ handle.tx = c

/-- A clean-up comes when the last registrant of its vMAC is open no more. -/
def CleansUpInTime (past : List HubAction) (s : ScHub) : HubAction → Prop
  | .cleanUp c => ∀ nodeId vmac latest, (s.connection c).phase = .closing nodeId vmac →
      latestRegistrant vmac past = some latest → ¬ s.IsOpen latest
  | _ => True

theorem registered_hasRegistered {past : List HubAction} (run : reached next start past = some s) :
    ∀ c vmac, .register c vmac ∈ past → (s.connection c).phase.HasRegistered vmac := by
  refine reached_invariant (I := fun past s => ∀ c vmac, .register c vmac ∈ past →
    (s.connection c).phase.HasRegistered vmac) ?_ ?_ run
  · intro c vmac mem
    cases mem
  · intro past before a after held taken c vmac mem
    rcases next_cases taken with ⟨d, nodeId, v, rfl, phase, rfl⟩ | ⟨d, nodeId, v, rfl, phase, rfl⟩ |
      ⟨quiet, _, moves⟩
    · rcases List.mem_cons.mp mem with now | earlier
      · cases now
        rw [register_self]
        rfl
      · have has := held c vmac earlier
        have other : c ≠ d := by
          rintro rfl
          rw [phase] at has
          cases has
        rwa [register_other _ _ _ _ other]
    · have other : HubAction.register c vmac ≠ .cleanUp d := nofun
      have has := held c vmac (List.mem_of_ne_of_mem other mem)
      by_cases own : c = d
      · subst own
        rw [cleanUp_self]
        trivial
      · rwa [cleanUp_other _ _ _ own]
    · have earlier : .register c vmac ∈ past := by
        refine List.mem_of_ne_of_mem ?_ mem
        rintro rfl
        cases quiet
      exact (held c vmac earlier).moves (moves c)

theorem latestRegistrant_mem {vmac : Vmac} {past : List HubAction}
    (latest : latestRegistrant vmac past = some c) : .register c vmac ∈ past := by
  induction past with
  | nil => cases latest
  | cons a past ih =>
    cases a with
    | register d v =>
      rw [latestRegistrant] at latest
      split at latest
      · rename_i same
        cases latest
        rw [same]
        exact List.mem_cons_self
      · exact List.mem_cons_of_mem _ (ih latest)
    | _ => exact List.mem_cons_of_mem _ (ih latest)

theorem latestRegistrant_hasRegistered {past : List HubAction}
    (run : reached next start past = some s) (vmac : Vmac) (c : ConnectionId)
    (latest : latestRegistrant vmac past = some c) : (s.connection c).phase.HasRegistered vmac :=
  registered_hasRegistered run c vmac (latestRegistrant_mem latest)

theorem follows_quiet {past : List HubAction} (quiet : a.IsQuiet) (nodes : s'.nodes = s.nodes)
    (moves : ∀ c, (s.connection c).phase.Moves (s'.connection c).phase) (held : Follows past s) :
    Follows (a :: past) s' := by
  rintro vmac c latest ⟨nodeId, v, phase⟩
  rw [latestRegistrant_quiet quiet] at latest
  have opened := (phase ▸ moves c).registered
  rw [nodes]
  exact held vmac c latest ⟨nodeId, v, opened⟩

theorem follows_register {past : List HubAction} {nodeId : ScNodeId} {v : Vmac}
    (run : reached next start past = some s) (held : Follows past s)
    (phase : (s.connection c).phase = .accepted nodeId v) :
    Follows (.register c v :: past) (s.register c nodeId v) := by
  intro vmac latest registered opened
  by_cases same : v = vmac
  · subst same
    rw [latestRegistrant, if_pos rfl] at registered
    cases registered
    exact ⟨_, AList.lookup_insert _, rfl⟩
  · rw [latestRegistrant, if_neg same] at registered
    have other : latest ≠ c := by
      rintro rfl
      have earlier := latestRegistrant_hasRegistered run vmac latest registered
      rw [phase] at earlier
      cases earlier
    obtain ⟨n, w, phase'⟩ := opened
    rw [register_other _ _ _ _ other] at phase'
    rw [register, AList.lookup_insert_ne (Ne.symm same)]
    exact held vmac latest registered ⟨n, w, phase'⟩

theorem follows_cleanUp {past : List HubAction} {nodeId : ScNodeId} {v : Vmac}
    (held : Follows past s) (inTime : CleansUpInTime past s (.cleanUp c))
    (phase : (s.connection c).phase = .closing nodeId v) :
    Follows (.cleanUp c :: past) (s.cleanUp c v) := by
  intro vmac latest registered opened
  have registered : latestRegistrant vmac past = some latest := registered
  obtain ⟨n, w, phase'⟩ := opened
  have other : latest ≠ c := by
    rintro rfl
    rw [cleanUp_self] at phase'
    cases phase'
  rw [cleanUp_other _ _ _ other] at phase'
  by_cases same : v = vmac
  · subst same
    exact absurd ⟨n, w, phase'⟩ (inTime nodeId v latest phase registered)
  · rw [cleanUp, AList.lookup_erase_ne (Ne.symm same)]
    exact held vmac latest registered ⟨n, w, phase'⟩

theorem cleansUpInTime_of_follows {past : List HubAction} (taken : next s a = some s')
    (held : Follows (a :: past) s') : CleansUpInTime past s a := by
  rcases next_cases taken with ⟨c, nodeId, v, rfl, phase, rfl⟩ | ⟨c, nodeId, v, rfl, phase, rfl⟩ |
    ⟨quiet, _, _⟩
  · trivial
  · intro nodeId' v' latest closing registered opened
    cases phase.symm.trans closing
    obtain ⟨n, w, phase'⟩ := opened
    have other : latest ≠ c := by
      rintro rfl
      cases phase.symm.trans phase'
    obtain ⟨handle, mapped, _⟩ := held v latest registered
      ⟨n, w, (congrArg Connection.phase (cleanUp_other s c v other)).trans phase'⟩
    cases (AList.lookup_erase v s.nodes).symm.trans mapped
  · cases a with
    | cleanUp c => cases quiet
    | _ => trivial

/-- The registry follows the open connections all along a run exactly when every clean-up of
the run comes in time. -/
theorem registry_follows_iff (past : List HubAction) :
    Throughout next start Follows past ↔ EachStep next start CleansUpInTime past := by
  apply throughout_iff
  · intro vmac c latest
    cases latest
  · intro past before a after run held inTime taken
    rcases next_cases taken with ⟨c, nodeId, v, rfl, phase, rfl⟩ | ⟨c, nodeId, v, rfl, phase, rfl⟩ |
      ⟨quiet, nodes, moves⟩
    · exact follows_register run held phase
    · exact follows_cleanUp held inTime phase
    · exact follows_quiet quiet nodes moves held
  · intro past before a after _ taken held
    exact cleansUpInTime_of_follows taken held

def sameVmacRequest : Bytes :=
  ScFrame.encode
    { function := ScFunction.code .connectRequest
      control := {}
      messageId := 1
      originatingVmac := none
      destinationVmac := none
      payload := List.replicate 16 7 ++ List.replicate 6 1 }

/-- A node reconnects before the hub has seen its first connection end. -/
def reconnectRun : List HubAction :=
  [.cleanUp 0, .ended 0,
    .register 1 (Vector.replicate 6 1), .acceptSent 1, .handshakeMessage 1 sameVmacRequest, .accept 1,
    .register 0 (Vector.replicate 6 1), .acceptSent 0, .handshakeMessage 0 sameVmacRequest, .accept 0]

theorem reconnectRun_unmapped : ¬ ∀ past, Throughout next start Follows past := by
  intro claim
  have trace : (reached next start reconnectRun).map (fun s =>
      ((s.nodes.lookup (Vector.replicate 6 1)).isNone, (s.connection 1).phase)) =
      some (true, .registered (Vector.replicate 16 7) (Vector.replicate 6 1)) := by
    decide +kernel
  obtain ⟨s, run, facts⟩ := Option.map_eq_some_iff.mp trace
  obtain ⟨handle, mapped, _⟩ := claim reconnectRun reconnectRun s (List.suffix_refl _) run
    (Vector.replicate 6 1) 1 (by decide +kernel) ⟨_, _, congrArg Prod.snd facts⟩
  have unmapped := congrArg Prod.fst facts
  rw [mapped] at unmapped
  cases unmapped

end ScHub

end BacnetSim
