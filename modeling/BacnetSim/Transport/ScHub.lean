import BacnetSim.Codec.Sc
import BacnetSim.Lib.Transitions
import Mathlib.Logic.Function.Basic

/-! The SC hub (`sc/hub.rs`) as a transition system. One `handle_connection` task runs for
each connection, with an outbound task of its own from the registration on; a step is what a
task does between two points at which it can be suspended. -/
namespace BacnetSim
open Rust

abbrev ConnectionId := Nat

abbrev ScNodeId := Vector UInt8 16

/-- A registry entry: `tx` is the queue of one connection. -/
structure NodeHandle where
  nodeId : ScNodeId
  vmac : Vmac
  tx : ConnectionId
  deriving DecidableEq, Repr

inductive ConnectionPhase where
  | absent
  | handshake
  | greeted (nodeId : ScNodeId) (vmac : Vmac)
  | accepted (nodeId : ScNodeId) (vmac : Vmac)
  | registered (nodeId : ScNodeId) (vmac : Vmac)
  | closing (nodeId : ScNodeId) (vmac : Vmac)
  | closed
  deriving DecidableEq, Repr

/-- A connection with its two tasks. While `outbound` is set its task runs, so that the
queue has a receiver, and `sending` is the frame which it has taken and is writing. -/
structure Connection where
  phase : ConnectionPhase := .absent
  queue : List Bytes := []
  outbound : Bool := false
  sending : Option Bytes := none
  written : List Bytes := []

structure ScHub where
  nodes : HashMap Vmac NodeHandle
  connection : ConnectionId → Connection

inductive HubAction where
  | accept (c : ConnectionId)
  | handshakeMessage (c : ConnectionId) (data : Bytes)
  | handshakeClosed (c : ConnectionId)
  | acceptSent (c : ConnectionId)
  | acceptFailed (c : ConnectionId)
  | register (c : ConnectionId) (vmac : Vmac)
  | inbound (c : ConnectionId) (data : Bytes)
  | ended (c : ConnectionId)
  | cleanUp (c : ConnectionId)
  | receive (c : ConnectionId)
  | deliver (c : ConnectionId)
  | writeFailed (c : ConnectionId)
  | drained (c : ConnectionId)
  | sendToVmac (vmac : Vmac) (frameBytes : Bytes)

inductive HandshakeError where
  | codec (e : BacnetError)
  | text (msg : String)
  deriving DecidableEq, Repr

def requestedNode (payload : Bytes) : Res HandshakeError (ScNodeId × Vmac) :=
  if payload.length < 22 then fail (.text "ConnectRequest payload too short")
  else do
    let first ← slice payload 0 16
    let nid ← copyFromSlice 16 first
    let second ← slice payload 16 22
    let vm ← copyFromSlice 6 second
    .ok (nid, vm)

/-- What a binary message means before the handshake is over: nothing, unless it is a
ConnectRequest or no frame at all. -/
def handshakeRequest (data : Bytes) : Res HandshakeError (Option (ScNodeId × Vmac)) :=
  match ScFrame.decode data with
  | .ok frame =>
    if frame.function == ScFunction.code .connectRequest then do
      let node ← requestedNode frame.payload
      .ok (some node)
    else .ok none
  | .error (.err e) => fail (.codec e)
  | .error .panicked => .error .panicked

def connectAccept : ScFrame where
  function := ScFunction.code .connectAccept
  control := {}
  messageId := 0
  originatingVmac := none
  destinationVmac := none
  payload := []

def heartbeatAck (messageId : UInt16) : ScFrame where
  function := ScFunction.code .heartbeatAck
  control := {}
  messageId := messageId
  originatingVmac := none
  destinationVmac := none
  payload := []

namespace ScHub

def queueCapacity : Nat := 64

def start : ScHub where
  nodes := ∅
  connection := fun _ => {}

def update (s : ScHub) (c : ConnectionId) (conn : Connection) : ScHub :=
  { s with connection := Function.update s.connection c conn }

def setPhase (s : ScHub) (c : ConnectionId) (phase : ConnectionPhase) : ScHub :=
  s.update c { s.connection c with phase }

/-- `tx.try_send`: a frame for a full queue, or for one without a receiver, is dropped. -/
def trySend (s : ScHub) (c : ConnectionId) (frame : Bytes) : ScHub :=
  if (s.connection c).outbound && (s.connection c).queue.length < queueCapacity then
    s.update c { s.connection c with queue := (s.connection c).queue ++ [frame] }
  else s

def trySendTo (s : ScHub) (vmac : Vmac) (frame : Bytes) : ScHub :=
  match s.nodes.lookup vmac with
  | some handle => s.trySend handle.tx frame
  | none => s

/-- One turn of the inbound loop of the connection that registered `vmac`. -/
def route (s : ScHub) (vmac : Vmac) (data : Bytes) : ScHub :=
  match ScFrame.decode data with
  | .ok frame =>
    if frame.function == ScFunction.code .encapsulatedNpdu then
      match frame.destinationVmac with
      | some destVmac => s.trySendTo destVmac data
      | none => s
    else if frame.function == ScFunction.code .heartbeat then
      s.trySendTo vmac (heartbeatAck frame.messageId).encode
    else s
  | .error _ => s

/-- `nodes.remove(&vmac)`, whichever connection the entry is of, and `outbound.abort()`. -/
def cleanUp (s : ScHub) (c : ConnectionId) (vmac : Vmac) : ScHub :=
  { nodes := s.nodes.erase vmac
    connection := Function.update s.connection c
      { s.connection c with phase := .closed, queue := [], outbound := false, sending := none } }

def register (s : ScHub) (c : ConnectionId) (nodeId : ScNodeId) (vmac : Vmac) : ScHub :=
  { nodes := s.nodes.insert vmac ⟨nodeId, vmac, c⟩
    connection := Function.update s.connection c
      { s.connection c with phase := .registered nodeId vmac, queue := [], outbound := true } }

def next (s : ScHub) : HubAction → Option ScHub
  | .accept c =>
    match (s.connection c).phase with
    | .absent => some (s.setPhase c .handshake)
    | _ => none
  | .handshakeMessage c data =>
    match (s.connection c).phase with
    | .handshake =>
      match handshakeRequest data with
      | .ok (some (nodeId, vmac)) => some (s.setPhase c (.greeted nodeId vmac))
      | .ok none => some s
      | .error _ => some (s.setPhase c .closed)
    | _ => none
  | .handshakeClosed c =>
    match (s.connection c).phase with
    | .handshake => some (s.setPhase c .closed)
    | _ => none
  | .acceptSent c =>
    match (s.connection c).phase with
    | .greeted nodeId vmac =>
      some (s.update c
        { s.connection c with
          phase := .accepted nodeId vmac
          written := (s.connection c).written ++ [connectAccept.encode] })
    | _ => none
  | .acceptFailed c =>
    match (s.connection c).phase with
    | .greeted _ _ => some (s.setPhase c .closed)
    | _ => none
  | .register c vmac =>
    match (s.connection c).phase with
    | .accepted nodeId requested => if requested = vmac then some (s.register c nodeId vmac) else none
    | _ => none
  | .inbound c data =>
    match (s.connection c).phase with
    | .registered _ vmac => some (s.route vmac data)
    | _ => none
  | .ended c =>
    match (s.connection c).phase with
    | .registered nodeId vmac => some (s.setPhase c (.closing nodeId vmac))
    | _ => none
  | .cleanUp c =>
    match (s.connection c).phase with
    | .closing _ vmac => some (s.cleanUp c vmac)
    | _ => none
  | .receive c =>
    match (s.connection c).outbound, (s.connection c).sending, (s.connection c).queue with
    | true, none, frame :: rest =>
      some (s.update c { s.connection c with queue := rest, sending := some frame })
    | _, _, _ => none
  | .deliver c =>
    match (s.connection c).sending with
    | some frame =>
      some (s.update c
        { s.connection c with sending := none, written := (s.connection c).written ++ [frame] })
    | none => none
  | .writeFailed c =>
    match (s.connection c).sending with
    | some _ =>
      some (s.update c { s.connection c with queue := [], outbound := false, sending := none })
    | none => none
  | .drained c =>
    -- `recv` returns `None` when the queue is empty and its sender is gone
    if (s.connection c).outbound && (s.connection c).sending.isNone &&
        (s.connection c).queue.isEmpty && s.nodes.values.all (fun handle => handle.tx != c) then
      some (s.update c { s.connection c with outbound := false })
    else none
  | .sendToVmac vmac frameBytes =>
    match s.nodes.lookup vmac with
    | some handle =>
      -- `send` waits for room, and fails without a receiver
      if (s.connection handle.tx).outbound then
        if (s.connection handle.tx).queue.length < queueCapacity then
          some (s.trySend handle.tx frameBytes)
        else none
      else some s
    | none => some s

end ScHub

end BacnetSim
