import BacnetSim.Transport.ScHub

/-! The SC node (`sc/node.rs`): a call of `connect`, the read and the write loop that it leaves
running, and the handle of the application. A step is what one of these does between two points
at which it can be suspended. -/
namespace BacnetSim
open Rust

/-- How far `connect` and then `run_node_loop` have got. A foreign client is one that does not
run this code. -/
inductive NodePhase where
  | absent
  | dialled
  | waiting
  | failed
  | connected
  | closed
  | foreign
  deriving DecidableEq, Repr

/-- A client of the hub. While `writer` is set the write loop runs, so that `tx` has a receiver,
and `sending` is the frame in its hands; `pending` is the message that the read loop is handing
over. -/
structure ScNode where
  phase : NodePhase := .absent
  nodeId : ScNodeId := Vector.replicate 16 0
  vmac : Vmac := Vector.replicate 6 0
  submitted : List Bytes := []
  writer : Bool := false
  outQueue : List Bytes := []
  sending : Option Bytes := none
  written : List Bytes := []
  read : Nat := 0
  pending : Option Bytes := none
  inQueue : List Bytes := []
  listening : Bool := false
  taken : List Bytes := []

inductive NodeAction where
  | dial (nodeId : ScNodeId) (vmac : Vmac)
  | request
  | requestFailed
  | hear (data : Bytes)
  | handOver
  | ended
  | sendNpdu (destVmac : Vmac) (npdu : Bytes) (messageId : UInt16)
  | sendRaw (data : Bytes)
  | take
  | write
  | writeFailed
  | recvFrame
  | dropReceiver
  | foreign (data : Bytes)

/-- The vMAC is carried in the payload, not in the frame header. -/
def connectRequestFrame (nodeId : ScNodeId) (vmac : Vmac) : ScFrame where
  function := ScFunction.code .connectRequest
  control := {}
  messageId := 1
  originatingVmac := none
  destinationVmac := none
  payload := nodeId.toList ++ vmac.toList

def recvFrame (data : Bytes) : Option ScFrame :=
  match ScFrame.decode data with
  | .ok frame => some frame
  | .error _ => none

namespace ScNode

def channelCapacity : Nat := 64

def hearWaiting (node : ScNode) (data : Bytes) : ScNode :=
  match ScFrame.decode data with
  | .ok frame =>
    if frame.function == ScFunction.code .connectAccept then
      { node with phase := .connected, writer := true, listening := true }
    else node
  | .error _ => { node with phase := .failed }

/-- A binary message in the read loop. Heartbeats are dropped. -/
def hearConnected (node : ScNode) (data : Bytes) : ScNode :=
  match ScFrame.decode data with
  | .ok frame =>
    if frame.function == ScFunction.code .heartbeat then node else { node with pending := some data }
  | .error _ => node

/-- `tx.send`: it waits for room, and fails without a receiver. -/
def send (node : ScNode) (data : Bytes) : Option ScNode :=
  match node.phase with
  | .connected | .closed =>
    if node.writer then
      if node.outQueue.length < channelCapacity then
        some { node with submitted := node.submitted ++ [data], outQueue := node.outQueue ++ [data] }
      else none
    else some node
  | _ => none

def next (node : ScNode) : NodeAction → Option ScNode
  | .dial nodeId vmac =>
    match node.phase with
    | .absent => some { node with phase := .dialled, nodeId, vmac }
    | _ => none
  | .request =>
    match node.phase with
    | .dialled =>
      some { node with
        phase := .waiting
        written := node.written ++ [(connectRequestFrame node.nodeId node.vmac).encode] }
    | _ => none
  | .requestFailed =>
    match node.phase with
    | .dialled => some { node with phase := .failed }
    | _ => none
  | .hear data =>
    match node.phase, node.pending with
    | .waiting, _ => some ({ node with read := node.read + 1 }.hearWaiting data)
    | .connected, none => some ({ node with read := node.read + 1 }.hearConnected data)
    | _, _ => none
  | .handOver =>
    match node.pending with
    | some data =>
      if node.listening then
        if node.inQueue.length < channelCapacity then
          some { node with inQueue := node.inQueue ++ [data], pending := none }
        else none
      else some { node with pending := none }
    | none => none
  | .ended =>
    match node.phase, node.pending with
    | .waiting, _ => some { node with phase := .failed }
    | .connected, none =>
      -- `write_loop.abort()`
      some { node with phase := .closed, writer := false, outQueue := [], sending := none }
    | _, _ => none
  | .sendNpdu destVmac npdu messageId =>
    node.send (ScFrame.encapsulatedNpdu messageId (some node.vmac) (some destVmac) npdu).encode
  | .sendRaw data => node.send data
  | .take =>
    match node.writer, node.sending, node.outQueue with
    | true, none, data :: rest => some { node with outQueue := rest, sending := some data }
    | _, _, _ => none
  | .write =>
    match node.writer, node.sending with
    | true, some data => some { node with sending := none, written := node.written ++ [data] }
    | _, _ => none
  | .writeFailed =>
    match node.sending with
    | some _ => some { node with writer := false, outQueue := [], sending := none }
    | none => none
  | .recvFrame =>
    match node.inQueue with
    | data :: rest => some { node with inQueue := rest, taken := node.taken ++ [data] }
    | [] => none
  | .dropReceiver =>
    if node.listening then some { node with listening := false, inQueue := [] } else none
  | .foreign data =>
    match node.phase with
    | .absent | .foreign =>
      some { node with
        phase := .foreign
        submitted := node.submitted ++ [data]
        written := node.written ++ [data] }
    | _ => none

def handed (node : ScNode) : List (Option ScFrame) := node.taken.map BacnetSim.recvFrame

def submission (node : ScNode) : NodeAction → Option Bytes
  | .sendNpdu destVmac npdu messageId =>
    some (ScFrame.encapsulatedNpdu messageId (some node.vmac) (some destVmac) npdu).encode
  | .sendRaw data => some data
  | _ => none

inductive Effect (node : ScNode) : NodeAction → ScNode → Prop
  | dialled {nodeId : ScNodeId} {vmac : Vmac} (phase : node.phase = .absent) :
    Effect node (.dial nodeId vmac) { node with phase := .dialled, nodeId, vmac }
  | requested (phase : node.phase = .dialled) : Effect node .request { node with
      phase := .waiting
      written := node.written ++ [(connectRequestFrame node.nodeId node.vmac).encode] }
  | requestFailed (phase : node.phase = .dialled) :
    Effect node .requestFailed { node with phase := .failed }
  | greeted {data : Bytes} (phase : node.phase = .waiting) : Effect node (.hear data) { node with
      read := node.read + 1, phase := .connected, writer := true, listening := true }
  | passed {data : Bytes} (phase : node.phase = .waiting ∨ node.phase = .connected) :
    Effect node (.hear data) { node with read := node.read + 1 }
  | refused {data : Bytes} (phase : node.phase = .waiting) :
    Effect node (.hear data) { node with read := node.read + 1, phase := .failed }
  | heard {data : Bytes} (phase : node.phase = .connected) (pending : node.pending = none) :
    Effect node (.hear data) { node with read := node.read + 1, pending := some data }
  | handedOver {data : Bytes} (pending : node.pending = some data) :
    Effect node .handOver { node with inQueue := node.inQueue ++ [data], pending := none }
  | lost {data : Bytes} (pending : node.pending = some data) :
    Effect node .handOver { node with pending := none }
  | gaveUp (phase : node.phase = .waiting) : Effect node .ended { node with phase := .failed }
  | ended (phase : node.phase = .connected) : Effect node .ended
      { node with phase := .closed, writer := false, outQueue := [], sending := none }
  | submitted {a : NodeAction} {data : Bytes} (submission : node.submission a = some data)
    (writer : node.writer = true) : Effect node a
      { node with submitted := node.submitted ++ [data], outQueue := node.outQueue ++ [data] }
  | notSubmitted {a : NodeAction} {data : Bytes} (submission : node.submission a = some data) :
    Effect node a node
  | taken {data : Bytes} {rest : List Bytes} (sending : node.sending = none)
    (queue : node.outQueue = data :: rest) :
    Effect node .take { node with outQueue := rest, sending := some data }
  | written {data : Bytes} (writer : node.writer = true) (sending : node.sending = some data) :
    Effect node .write { node with sending := none, written := node.written ++ [data] }
  | writeFailed : Effect node .writeFailed { node with writer := false, outQueue := [], sending := none }
  | received {data : Bytes} {rest : List Bytes} (queue : node.inQueue = data :: rest) :
    Effect node .recvFrame { node with inQueue := rest, taken := node.taken ++ [data] }
  | dropped : Effect node .dropReceiver { node with listening := false, inQueue := [] }
  | foreign {data : Bytes} (phase : node.phase = .absent ∨ node.phase = .foreign) :
    Effect node (.foreign data) { node with
      phase := .foreign, submitted := node.submitted ++ [data], written := node.written ++ [data] }

variable {node node' : ScNode} {a : NodeAction} {data : Bytes}

theorem send_effect (submission : node.submission a = some data) (step : node.send data = some node') :
    Effect node a node' := by
  unfold send at step
  split at step
  · split at step
    · split at step <;> cases step
      exact .submitted submission ‹_›
    · cases step
      exact .notSubmitted submission
  · split at step
    · split at step <;> cases step
      exact .submitted submission ‹_›
    · cases step
      exact .notSubmitted submission
  · cases step

theorem hearWaiting_effect (phase : node.phase = .waiting) :
    Effect node (.hear data) ({ node with read := node.read + 1 }.hearWaiting data) := by
  unfold hearWaiting
  split
  · split
    · exact .greeted phase
    · exact .passed (.inl phase)
  · exact .refused phase

theorem hearConnected_effect (phase : node.phase = .connected) (pending : node.pending = none) :
    Effect node (.hear data) ({ node with read := node.read + 1 }.hearConnected data) := by
  unfold hearConnected
  split
  · split
    · exact .passed (.inr phase)
    · exact .heard phase pending
  · exact .passed (.inr phase)

theorem next_effect (step : node.next a = some node') : Effect node a node' := by
  cases a with
  | dial nodeId vmac =>
    simp only [next] at step
    split at step <;> cases step
    exact .dialled ‹_›
  | request =>
    simp only [next] at step
    split at step <;> cases step
    exact .requested ‹_›
  | requestFailed =>
    simp only [next] at step
    split at step <;> cases step
    exact .requestFailed ‹_›
  | hear data =>
    simp only [next] at step
    split at step <;> cases step
    · exact hearWaiting_effect ‹_›
    · exact hearConnected_effect ‹_› ‹_›
  | handOver =>
    simp only [next] at step
    split at step
    · split at step
      · split at step <;> cases step
        exact .handedOver ‹_›
      · cases step
        exact .lost ‹_›
    · cases step
  | ended =>
    simp only [next] at step
    split at step <;> cases step
    · exact .gaveUp ‹_›
    · exact .ended ‹_›
  | sendNpdu destVmac npdu messageId => exact send_effect rfl step
  | sendRaw data => exact send_effect rfl step
  | take =>
    simp only [next] at step
    split at step <;> cases step
    exact .taken ‹_› ‹_›
  | write =>
    simp only [next] at step
    split at step <;> cases step
    exact .written ‹_› ‹_›
  | writeFailed =>
    simp only [next] at step
    split at step <;> cases step
    exact .writeFailed
  | recvFrame =>
    simp only [next] at step
    split at step <;> cases step
    exact .received ‹_›
  | dropReceiver =>
    simp only [next] at step
    split at step <;> cases step
    exact .dropped
  | foreign data =>
    simp only [next] at step
    split at step <;> cases step
    · exact .foreign (.inl ‹_›)
    · exact .foreign (.inr ‹_›)

/-- Of the frames submitted, those on their way: behind the first message, which is the
ConnectRequest, come those written, the one in hand, and the queue. -/
def outgoing (node : ScNode) : List Bytes :=
  node.written.drop 1 ++ node.sending.toList ++ node.outQueue

def incoming (node : ScNode) : List Bytes :=
  node.taken ++ node.inQueue ++ node.pending.toList

theorem drop_concat_sublist (l : List Bytes) (data : Bytes) :
    ((l ++ [data]).drop 1).Sublist (l.drop 1 ++ [data]) := by
  rw [List.drop_append]
  exact List.Sublist.append (List.Sublist.refl _) (List.drop_sublist _ _)

structure Sound (node : ScNode) : Prop where
  order : node.outgoing.Sublist node.submitted
  running : node.writer = true → node.phase = .connected
  idle : node.writer = false → node.sending = none ∧ node.outQueue = []
  fresh : node.phase = .absent ∨ node.phase = .dialled → node.written = []
  started : node.phase = .connected ∨ node.phase = .waiting → node.written ≠ []
  asked : node.phase ≠ .foreign → ∀ first, node.written.head? = some first →
    first = (connectRequestFrame node.nodeId node.vmac).encode

theorem Sound.start : Sound {} where
  order := .slnil
  running := by simp
  idle _ := ⟨rfl, rfl⟩
  fresh _ := rfl
  started := by simp
  asked := by simp

theorem Sound.next (held : node.Sound) (step : node.next a = some node') : node'.Sound := by
  cases next_effect step with
  | @dialled nodeId vmac phase =>
    have unwritten := held.fresh (.inl phase)
    exact { held with
      running := fun writer => by cases phase.symm.trans (held.running writer)
      fresh := fun _ => unwritten
      started := by simp
      asked := by simp [unwritten] }
  | requested phase =>
    have unwritten := held.fresh (.inr phase)
    have order := held.order
    refine { held with order := ?_, running := ?_, fresh := ?_, started := ?_, asked := ?_ }
    · simpa [outgoing, unwritten] using order
    · exact fun writer => by cases phase.symm.trans (held.running writer)
    · simp
    · simp
    · simp [unwritten]
  | requestFailed phase =>
    have unwritten := held.fresh (.inr phase)
    exact { held with
      running := fun writer => by cases phase.symm.trans (held.running writer)
      fresh := by simp
      started := by simp
      asked := by simp [unwritten] }
  | greeted phase =>
    have quiet : node.writer = false := by
      by_contra running
      cases phase.symm.trans (held.running (by simpa using running))
    exact { held with
      running := fun _ => rfl
      idle := by simp
      fresh := by simp
      started := fun _ => held.started (.inr phase)
      asked := fun _ => held.asked (by simp [phase]) }
  | passed phase => exact { held with }
  | refused phase | gaveUp phase =>
    exact { held with
      running := fun writer => by cases phase.symm.trans (held.running writer)
      fresh := by simp
      started := by simp
      asked := fun _ => held.asked (by simp [phase]) }
  | heard | handedOver | lost | received | dropped => exact { held with }
  | notSubmitted => exact held
  | ended phase =>
    have order := held.order
    refine { order := ?_, running := by simp, idle := by simp, fresh := by simp,
             started := by simp, asked := fun _ => held.asked (by simp [phase]) }
    simp only [outgoing, Option.toList_none, List.append_nil]
    rw [outgoing, List.append_assoc] at order
    exact (List.sublist_append_left _ _).trans order
  | submitted submission writer =>
    refine { held with order := ?_, idle := ?_ }
    · simp only [outgoing, ← List.append_assoc]
      exact held.order.append (List.Sublist.refl _)
    · intro quiet
      cases writer.symm.trans quiet
  | taken sending queue =>
    have order := held.order
    refine { held with order := ?_, idle := ?_ }
    · simpa [outgoing, sending, queue] using order
    · intro quiet
      cases (held.idle quiet).2.symm.trans queue
  | @written data writer sending =>
    have order := held.order
    have phase := held.running writer
    have begun := held.started (.inl phase)
    refine { held with order := ?_, idle := ?_, fresh := ?_, started := ?_, asked := ?_ }
    · simp only [outgoing, Option.toList_none, List.append_nil]
      simp only [outgoing, sending, Option.toList_some] at order
      exact ((drop_concat_sublist node.written data).append (List.Sublist.refl _)).trans order
    · intro quiet
      cases writer.symm.trans quiet
    · simp [phase]
    · simp
    · intro own first head
      rw [List.head?_append_of_ne_nil _ begun] at head
      exact held.asked own first head
  | writeFailed =>
    have order := held.order
    refine { held with order := ?_, running := by simp, idle := by simp }
    simp only [outgoing, Option.toList_none, List.append_nil]
    rw [outgoing, List.append_assoc] at order
    exact (List.sublist_append_left _ _).trans order
  | @foreign data phase =>
    have quiet : node.writer = false := by
      by_contra running
      have connected := held.running (by simpa using running)
      rcases phase with phase | phase
      · cases phase.symm.trans connected
      · cases phase.symm.trans connected
    obtain ⟨sending, queue⟩ := held.idle quiet
    have order := held.order
    refine { order := ?_, running := ?_, idle := fun _ => ⟨sending, queue⟩, fresh := by simp,
             started := by simp, asked := by simp }
    · simp only [outgoing, sending, queue, Option.toList_none, List.append_nil] at order ⊢
      exact (drop_concat_sublist node.written data).trans (order.append (List.Sublist.refl _))
    · intro writer
      cases quiet.symm.trans writer

structure Hears (node : ScNode) (messages : List Bytes) : Prop where
  read : node.read ≤ messages.length
  order : node.incoming.Sublist ((messages.take node.read).drop 1)
  begun : node.phase = .connected → 1 ≤ node.read

theorem Hears.start : Hears {} [] where
  read := Nat.le_refl 0
  order := .slnil
  begun := by simp

theorem Hears.grow {messages more : List Bytes} (hears : node.Hears messages)
    (grown : messages <+: more) : node.Hears more where
  read := Nat.le_trans hears.read grown.length_le
  order := by
    obtain ⟨rest, rfl⟩ := grown
    rw [List.take_append_of_le_length hears.read]
    exact hears.order
  begun := hears.begun

theorem Hears.order_succ {messages : List Bytes} (hears : node.Hears messages) :
    node.incoming.Sublist ((messages.take (node.read + 1)).drop 1) :=
  hears.order.trans ((List.take_sublist_take_left (Nat.le_succ _)).drop 1)

theorem Hears.next {messages : List Bytes} (hears : node.Hears messages)
    (step : node.next a = some node')
    (message : ∀ data, a = .hear data → messages[node.read]? = some data) : node'.Hears messages := by
  have inside (data : Bytes) (heard : a = .hear data) : node.read + 1 ≤ messages.length :=
    (List.getElem?_eq_some_iff.mp (message data heard)).1
  cases next_effect step with
  | dialled | requested | requestFailed | gaveUp | ended | foreign =>
    exact ⟨hears.read, hears.order, by simp⟩
  | greeted => exact ⟨inside _ rfl, hears.order_succ, fun _ => Nat.le_add_left 1 _⟩
  | passed => exact ⟨inside _ rfl, hears.order_succ, fun _ => Nat.le_add_left 1 _⟩
  | refused => exact ⟨inside _ rfl, hears.order_succ, by simp⟩
  | @heard data phase pending =>
    have order := hears.order
    have begun := hears.begun phase
    have here := message data rfl
    refine ⟨inside _ rfl, ?_, fun _ => Nat.le_add_left 1 _⟩
    simp only [incoming, Option.toList_some]
    simp only [incoming, pending, Option.toList_none, List.append_nil] at order
    have taken : 1 ≤ (messages.take node.read).length := by
      rw [List.length_take]
      exact Nat.le_min.mpr ⟨begun, Nat.le_trans begun hears.read⟩
    rw [List.take_add_one, here, Option.toList_some, List.drop_append_of_le_length taken]
    exact order.append (List.Sublist.refl _)
  | handedOver pending =>
    refine ⟨hears.read, ?_, hears.begun⟩
    simpa [incoming, pending] using hears.order
  | lost pending =>
    refine ⟨hears.read, List.Sublist.trans ?_ hears.order, hears.begun⟩
    simp [incoming]
  | submitted | notSubmitted | taken | written | writeFailed =>
    exact ⟨hears.read, hears.order, hears.begun⟩
  | received queue =>
    refine ⟨hears.read, ?_, hears.begun⟩
    simpa [incoming, queue] using hears.order
  | dropped =>
    refine ⟨hears.read, List.Sublist.trans ?_ hears.order, hears.begun⟩
    simp [incoming]

end ScNode

end BacnetSim
