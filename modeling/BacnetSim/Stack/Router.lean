import BacnetSim.Codec.Npdu

/-! The network-layer router (`router.rs`). -/
namespace BacnetSim
open Rust

structure PortId where
  id : UInt32
  deriving DecidableEq, Repr

inductive DropReason where
  | hopCountExceeded | noRoute | loopDetected
  deriving DecidableEq, Repr

inductive RoutingDecision where
  | localDeliver
  | forward (nextHop : NetworkAddress) (decrementHop : Bool)
  | broadcast (networks : List UInt16)
  | drop (reason : DropReason)
  deriving DecidableEq, Repr

/-- For each network, the port it is behind and the hops to it. -/
structure NpduRouter where
  routingTable : HashMap UInt16 (PortId × UInt8)
  localNetwork : UInt16

namespace NpduRouter

def new (localNetwork : UInt16) : NpduRouter := ⟨∅, localNetwork⟩

def addRoute (r : NpduRouter) (network : UInt16) (port : PortId) (hopCount : UInt8) : NpduRouter :=
  { r with routingTable := AList.insert network (port, hopCount) r.routingTable }

def route (r : NpduRouter) (npdu : Npdu) (_incomingPort : PortId) :
    List (PortId × RoutingDecision) :=
  match npdu.destination with
  | some dst =>
    -- a global broadcast goes out first, whatever its hop count is
    if dst.network = 0xFFFF then
      r.routingTable.values.map fun (port, _) => (port, .broadcast [])
    else if dst.network = r.localNetwork ∨ dst.network = 0 then [(⟨0⟩, .localDeliver)]
    else if npdu.hopCount = some 0 then [(⟨0⟩, .drop .hopCountExceeded)]
    else
      match AList.lookup dst.network r.routingTable with
      | some (port, _) =>
        [(port, .forward ⟨dst.network, .msTp (dst.mac.head?.getD 0)⟩ true)]
      | none => [(⟨0⟩, .drop .noRoute)]
  | none => [(⟨0⟩, .localDeliver)]

end NpduRouter

def RoutingDecision.sends : RoutingDecision → Bool
  | .forward _ _ | .broadcast _ => true
  | _ => false

/-- Nothing is sent on when no hop is left, nothing goes back where it came from, and each
port is decided on once. -/
structure LoopSafe (npdu : Npdu) (incomingPort : PortId)
    (decisions : List (PortId × RoutingDecision)) : Prop where
  hops : npdu.hopCount = some 0 → ∀ d ∈ decisions, d.2.sends = false
  back : ∀ d ∈ decisions, d.2.sends = true → d.1 ≠ incomingPort
  once : (decisions.map Prod.fst).Nodup

theorem loopSafe_kept {npdu : Npdu} {incomingPort port : PortId} {d : RoutingDecision}
    (kept : d.sends = false) : LoopSafe npdu incomingPort [(port, d)] where
  hops _ := by simpa using kept
  back := by simp [kept]
  once := List.nodup_singleton port

theorem loopSafe_sent_iff {npdu : Npdu} {incomingPort : PortId}
    {decisions : List (PortId × RoutingDecision)} (sent : ∀ d ∈ decisions, d.2.sends = true) :
    LoopSafe npdu incomingPort decisions ↔ (npdu.hopCount = some 0 → decisions = []) ∧
      incomingPort ∉ decisions.map Prod.fst ∧ (decisions.map Prod.fst).Nodup := by
  constructor
  · intro safe
    refine ⟨?_, ?_, safe.once⟩
    · intro exceeded
      apply List.eq_nil_iff_forall_not_mem.mpr
      intro d mem
      have kept := safe.hops exceeded d mem
      rw [sent d mem] at kept
      cases kept
    · intro back
      obtain ⟨d, mem, same⟩ := List.mem_map.mp back
      exact safe.back d mem (sent d mem) same
  · rintro ⟨exceeded, back, once⟩
    refine ⟨?_, ?_, once⟩
    · intro none_ d mem
      rw [exceeded none_] at mem
      cases mem
    · intro d mem _ same
      exact back (List.mem_map.mpr ⟨d, mem, same⟩)

namespace NpduRouter
variable (r : NpduRouter) (npdu : Npdu) (incomingPort : PortId)

def ports : List PortId := r.routingTable.values.map Prod.fst

/-- A global broadcast has a hop left or nowhere to go, and the table has no port twice and
not the one of the packet. A packet that is forwarded does not go back. -/
structure Loopless (network : UInt16) : Prop where
  broadcast : network = 0xFFFF →
    (npdu.hopCount = some 0 → r.ports = []) ∧ incomingPort ∉ r.ports ∧ r.ports.Nodup
  forward : network ≠ 0xFFFF → network ≠ r.localNetwork → network ≠ 0 → npdu.hopCount ≠ some 0 →
    ∀ via, AList.lookup network r.routingTable = some via → via.1 ≠ incomingPort

variable {r npdu incomingPort}

theorem route_broadcast {dst : NpduAddress} (routed : npdu.destination = some dst)
    (everywhere : dst.network = 0xFFFF) :
    r.route npdu incomingPort = r.ports.map fun port => (port, .broadcast []) := by
  simp only [route, routed, if_pos everywhere, ports, List.map_map]
  rfl

theorem route_loopSafe_iff {dst : NpduAddress} (routed : npdu.destination = some dst) :
    LoopSafe npdu incomingPort (r.route npdu incomingPort) ↔
      r.Loopless npdu incomingPort dst.network := by
  by_cases everywhere : dst.network = 0xFFFF
  · have sent : ∀ d ∈ r.ports.map fun port => (port, RoutingDecision.broadcast []),
        d.2.sends = true := by simp [RoutingDecision.sends]
    have sentPorts : (r.ports.map fun port => (port, RoutingDecision.broadcast [])).map Prod.fst =
        r.ports := by rw [List.map_map]; exact List.map_id r.ports
    rw [route_broadcast routed everywhere, loopSafe_sent_iff sent, sentPorts, List.map_eq_nil_iff]
    exact ⟨fun safe => ⟨fun _ => safe, fun other => absurd everywhere other⟩,
      fun free => free.broadcast everywhere⟩
  · have onward : r.Loopless npdu incomingPort dst.network ↔ (dst.network ≠ r.localNetwork →
        dst.network ≠ 0 → npdu.hopCount ≠ some 0 →
        ∀ via, AList.lookup dst.network r.routingTable = some via → via.1 ≠ incomingPort) :=
      ⟨fun free => free.forward everywhere, fun back => ⟨fun all => absurd all everywhere,
        fun _ => back⟩⟩
    rw [onward]
    simp only [route, routed, if_neg everywhere]
    split
    · rename_i here
      refine iff_of_true (loopSafe_kept rfl) ?_
      intro elsewhere nonzero
      exact absurd here (not_or.mpr ⟨elsewhere, nonzero⟩)
    · rename_i elsewhere
      rw [not_or] at elsewhere
      split
      · rename_i exceeded
        exact iff_of_true (loopSafe_kept rfl) fun _ _ left => absurd exceeded left
      · rename_i left
        cases found : AList.lookup dst.network r.routingTable with
        | none => exact iff_of_true (loopSafe_kept rfl) fun _ _ _ via => by simp
        | some via =>
          rw [loopSafe_sent_iff (by simp [RoutingDecision.sends])]
          constructor
          · rintro ⟨_, back, _⟩ _ _ _ via same
            cases same
            exact fun same => back (by simp [same])
          · intro back
            have away := back elsewhere.1 elsewhere.2 left via rfl
            exact ⟨fun exceeded => absurd exceeded left, by simpa using away.symm,
              List.nodup_singleton _⟩

end NpduRouter

def twoNetworks : NpduRouter := (NpduRouter.new 1).addRoute 2 ⟨7⟩ 1

def packetFor (network : UInt16) (hopCount : UInt8) : Npdu where
  version := 1
  control := ⟨false, true, false, false, 0⟩
  destination := some ⟨network, []⟩
  source := none
  hopCount := some hopCount
  apdu := []

theorem forwarded_from_other_port :
    LoopSafe (packetFor 2 255) ⟨8⟩ (twoNetworks.route (packetFor 2 255) ⟨8⟩) :=
  (NpduRouter.route_loopSafe_iff rfl).mpr
    ⟨fun all => absurd all (by decide), fun _ _ _ _ via found => by
      cases found
      decide⟩

/-- A global broadcast with no hop left is sent back out of the port it came from. -/
theorem broadcast_sent_back :
    ¬ ∀ (r : NpduRouter) (npdu : Npdu) (incomingPort : PortId), npdu.destination.isSome →
      LoopSafe npdu incomingPort (r.route npdu incomingPort) := by
  intro claim
  have safe := claim twoNetworks (packetFor 0xFFFF 0) ⟨7⟩ rfl
  exact safe.back _ (by decide : (⟨7⟩, .broadcast []) ∈ _) rfl rfl

end BacnetSim
