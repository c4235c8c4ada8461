import BacnetSim.Codec.Bvll
import BacnetSim.Stack.Sessions

/-! The BACnet/IP transport (`ip.rs`): one turn of the receive loop, one of the send loop, and
the way of a request through the dispatcher between them. -/
namespace BacnetSim
open Rust

inductive SocketAddr where
  | v4 (addr : SocketAddrV4)
  | v6 (ip : Vector UInt8 16) (port : UInt16)
  deriving DecidableEq, Repr

abbrev Datagram := SocketAddr × Bytes

def BvllFrame.npdu : BvllFrame → Option Bytes
  | originalUnicastNpdu d | originalBroadcastNpdu d | distributeBroadcastToNetwork d => some d
  | forwardedNpdu _ npdu => some npdu
  | _ => none

namespace BacnetIpTransport

def receive (src : SocketAddr) (datagram : Bytes) : Result (Option InboundFrame) :=
  match BvllFrame.decode datagram with
  | .ok frame =>
    match frame.npdu, src with
    | some npdu, .v4 v4 => .ok (some ⟨⟨0, .ip v4⟩, npdu⟩)
    | _, _ => .ok none
  | .error (.err _) => .ok none
  | .error .panicked => .error .panicked

def send (frame : OutboundFrame) : Option Datagram :=
  let bvll : BvllFrame := match frame.dst with
    | .unicast _ => .originalUnicastNpdu frame.npdu
    | .broadcast _ => .originalBroadcastNpdu frame.npdu
  match frame.dst with
  | .unicast addr =>
    match addr.mac with
    | .ip v4 => some (.v4 v4, bvll.encode)
    | _ => none
  | .broadcast _ => some (.v4 ⟨0xFFFFFFFF, 47808⟩, bvll.encode)

variable {Obj : Type} [BacnetObject Obj] (hash : Hasher)

/-- What a datagram leads to, from the receive loop through the dispatcher to the send loop. -/
def answers (now : Clock) (d : ApduDispatcher Obj) (src : SocketAddr) (datagram : Bytes) :
    List Datagram :=
  match receive src datagram with
  | .ok (some frame) => (d.handleFrame hash now frame).sent.filterMap send
  | _ => []

/-- Who sent the request first: a forwarded one has the address inside. -/
def originator (src : SocketAddr) : BvllFrame → SocketAddr
  | .forwardedNpdu originatingAddress _ => .v4 originatingAddress
  | _ => src

/-- A unicast to the originator, whose NPDU is for the network and MAC that the request's
is from. -/
structure ToOriginator (src : SocketAddr) (frame : BvllFrame) (request : Npdu) (datagram : Datagram) :
    Prop where
  address : datagram.1 = originator src frame
  npdu : ∃ octets reply, datagram.2 = (BvllFrame.originalUnicastNpdu octets).encode ∧
    Npdu.decode octets = .ok reply ∧
    ∀ source, request.source = some source → reply.destination = some source

theorem answers_request (now : Clock) (d : ApduDispatcher Obj) {src : SocketAddrV4} {datagram : Bytes}
    {frame : BvllFrame} {npdu : Bytes} (decoded : BvllFrame.decode datagram = .ok frame)
    (carried : frame.npdu = some npdu) {req : ConfirmedRequest}
    (request : (InboundFrame.mk ⟨0, .ip src⟩ npdu).confirmedRequest = some req) :
    answers hash now d (.v4 src) datagram =
      (d.handleConfirmed hash now req ⟨0, .ip src⟩).sent.filterMap send := by
  have received : receive (.v4 src) datagram = .ok (some ⟨⟨0, .ip src⟩, npdu⟩) := by
    simp only [receive, decoded, carried]
  simp only [answers, received]
  rw [System.handleFrame_confirmed hash now d request]

theorem answers_once (now : Clock) (d : ApduDispatcher Obj) {src : SocketAddrV4} {datagram : Bytes}
    {frame : BvllFrame} {npdu : Bytes} (decoded : BvllFrame.decode datagram = .ok frame)
    (carried : frame.npdu = some npdu) {req : ConfirmedRequest}
    (request : (InboundFrame.mk ⟨0, .ip src⟩ npdu).confirmedRequest = some req)
    (answered : answers hash now d (.v4 src) datagram ≠ []) :
    ∃ apdu, answers hash now d (.v4 src) datagram =
      [(.v4 src, (BvllFrame.originalUnicastNpdu (Npdu.encodeLocal false apdu)).encode)] := by
  rw [answers_request hash now d decoded carried request] at answered ⊢
  rcases d.handleConfirmed_sent hash now req ⟨0, .ip src⟩ with nothing | ⟨apdu, once⟩
  · rw [nothing] at answered
    exact absurd rfl answered
  · rw [once]
    exact ⟨apdu, rfl⟩

theorem unicast_injective {octets octets' : Bytes}
    (same : (BvllFrame.originalUnicastNpdu octets).encode =
      (BvllFrame.originalUnicastNpdu octets').encode) : octets = octets' :=
  (List.append_inj same rfl).2

theorem toOriginator_iff {src : SocketAddr} {frame : BvllFrame} {request : Npdu} {apdu : Bytes} :
    ToOriginator src frame request
        (src, (BvllFrame.originalUnicastNpdu (Npdu.encodeLocal false apdu)).encode) ↔
      src = originator src frame ∧ request.source = none := by
  constructor
  · rintro ⟨address, octets, reply, sent, decoded, routed⟩
    cases unicast_injective sent
    rw [Npdu.decode_encodeLocal] at decoded
    cases decoded
    refine ⟨address, Option.eq_none_iff_forall_ne_some.mpr ?_⟩
    intro source named
    cases routed source named
  · rintro ⟨address, unrouted⟩
    refine ⟨address, _, _, rfl, Npdu.decode_encodeLocal false apdu, ?_⟩
    intro source named
    rw [unrouted] at named
    cases named

/-- A request that no other node has forwarded is answered with one unicast to where it came
from, with a local NPDU. That is its originator unless it names a source network. -/
theorem answer_toSource (now : Clock) (d : ApduDispatcher Obj) (src : SocketAddrV4)
    {datagram : Bytes} {frame : BvllFrame} {npdu : Bytes}
    (decoded : BvllFrame.decode datagram = .ok frame) (carried : frame.npdu = some npdu)
    (direct : ∀ originatingAddress octets, frame ≠ .forwardedNpdu originatingAddress octets)
    {req : ConfirmedRequest}
    (request : (InboundFrame.mk ⟨0, .ip src⟩ npdu).confirmedRequest = some req)
    (answered : answers hash now d (.v4 src) datagram ≠ []) :
    ∃ apdu, answers hash now d (.v4 src) datagram =
        [(.v4 src, (BvllFrame.originalUnicastNpdu (Npdu.encodeLocal false apdu)).encode)] ∧
      ∀ header, Npdu.decode npdu = .ok header → header.source = none →
        ∀ answer ∈ answers hash now d (.v4 src) datagram,
          ToOriginator (.v4 src) frame header answer := by
  obtain ⟨apdu, once⟩ := answers_once hash now d decoded carried request answered
  refine ⟨apdu, once, ?_⟩
  intro header _ unrouted answer mem
  rw [once, List.mem_singleton] at mem
  subst mem
  refine toOriginator_iff.mpr ⟨?_, unrouted⟩
  cases frame with
  | forwardedNpdu originatingAddress octets => exact absurd rfl (direct originatingAddress octets)
  | _ => rfl

end BacnetIpTransport

def clientSocket : SocketAddrV4 := ⟨0x0A000001, 47808⟩

def readIdentifierApdu : Bytes := (readIdentifierPdu 0x02000001).octets

def routedRequest : Bytes := [0x01, 0x0C, 0, 3, 1, 5] ++ readIdentifierApdu

def inUnicast (npdu : Bytes) : Bytes := (BvllFrame.originalUnicastNpdu npdu).encode

theorem local_request_answered :
    ∃ apdu, BacnetIpTransport.answers (fun _ _ => 0) (fun _ _ => ⟨⟨0⟩, ⟨0⟩⟩) oneStoredDevice
        (.v4 clientSocket) (inUnicast (Npdu.encodeLocal true readIdentifierApdu)) =
      [(.v4 clientSocket, inUnicast (Npdu.encodeLocal false apdu))] :=
  have ⟨apdu, once, _⟩ := BacnetIpTransport.answer_toSource (fun _ _ => 0) (fun _ _ => ⟨⟨0⟩, ⟨0⟩⟩)
    oneStoredDevice clientSocket
    (rfl : BvllFrame.decode (inUnicast (Npdu.encodeLocal true readIdentifierApdu)) =
      .ok (.originalUnicastNpdu (Npdu.encodeLocal true readIdentifierApdu))) rfl (by simp)
    (rfl : _ = some (readIdentifierPdu 0x02000001).confirmedRequest) (by decide)
  ⟨apdu, once⟩

/-- The answer to a routed request does not say to which station it is to go. -/
theorem routed_request_stranded :
    ¬ ∀ (d : ApduDispatcher DeviceObject) (src : SocketAddrV4) (datagram : Bytes) (frame : BvllFrame)
      (npdu : Bytes) (header : Npdu) (req : ConfirmedRequest),
      BvllFrame.decode datagram = .ok frame → frame.npdu = some npdu →
      Npdu.decode npdu = .ok header →
      (InboundFrame.mk ⟨0, .ip src⟩ npdu).confirmedRequest = some req →
      ∀ answer ∈ BacnetIpTransport.answers (fun _ _ => 0) (fun _ _ => ⟨⟨0⟩, ⟨0⟩⟩) d (.v4 src)
        datagram, BacnetIpTransport.ToOriginator (.v4 src) frame header answer := by
  intro claim
  have routed := claim oneStoredDevice clientSocket (inUnicast routedRequest)
    (.originalUnicastNpdu routedRequest) routedRequest _
    (readIdentifierPdu 0x02000001).confirmedRequest rfl rfl rfl rfl
    (.v4 clientSocket, inUnicast (Npdu.encodeLocal false deviceOneAck)) (by decide)
  have unrouted := (BacnetIpTransport.toOriginator_iff.mp routed).2
  cases unrouted

end BacnetSim
