import BacnetSim.Codec.Mstp
import BacnetSim.Lib.Transitions
import Mathlib.Data.Finset.Defs
import Mathlib.Logic.Function.Basic

/-! Masters on the virtual MS/TP bus (`mstp/master.rs`, `mstp/virtual_link.rs`) as a
transition system. A step is what a `run` task does between two points at which it can be
suspended, or what happens to it from outside. -/
namespace BacnetSim
open Rust

/-- A `max_master` for which `max_master + 1` does not overflow. -/
abbrev MaxMaster := { m : UInt8 // m ≤ 254 }

def nextStation (maxMaster : MaxMaster) (address : UInt8) : UInt8 := (address + 1) % (maxMaster + 1)

/-- Where a `run` task is: before its first step, waiting for a frame, or with the token,
before and after the one data frame that it may send. -/
inductive MasterPhase where
  | initializing | idle | useToken | passToken
  deriving DecidableEq, Repr

def MasterPhase.Holds : MasterPhase → Prop
  | .useToken | .passToken => True
  | _ => False

instance (p : MasterPhase) : Decidable p.Holds := by
  cases p <;> unfold MasterPhase.Holds <;> infer_instance

/-- `unread` are the frames that the master's receiver has still to yield. -/
structure Master where
  phase : MasterPhase := .initializing
  unread : List MstpFrame := []
  pending : List (UInt8 × Bytes) := []
  tokenReceivedCount : UInt64 := 0
  deriving DecidableEq, Repr

structure MstpRing where
  bus : List MstpFrame
  masters : UInt8 → Option Master

inductive RingAction where
  | join (address : UInt8)
  | run (address : UInt8)
  | enqueue (address destination : UInt8) (npdu : Bytes)
  | receive (address : UInt8) (frame : MstpFrame)
  | lagged (address : UInt8)
  | drain (address : UInt8)
  | passToken (address : UInt8)
  | ringTimeout (address : UInt8)
  deriving DecidableEq, Repr

def tokenFrame (destination source : UInt8) : MstpFrame := ⟨.token, destination, source, []⟩

def replyFrame (destination source : UInt8) : MstpFrame :=
  ⟨.replyToPollForMaster, destination, source, []⟩

def dataFrame (destination source : UInt8) (npdu : Bytes) : MstpFrame :=
  ⟨.bacnetDataNotExpectingReply, destination, source, npdu⟩

def MstpFrame.IsTokenFor (f : MstpFrame) (address : UInt8) : Prop :=
  f.frameType = .token ∧ f.destination = address

def MstpFrame.IsPollFor (f : MstpFrame) (address : UInt8) : Prop :=
  f.frameType = .pollForMaster ∧ f.destination = address

def MstpFrame.IsData (f : MstpFrame) : Prop :=
  f.frameType = .bacnetDataExpectingReply ∨ f.frameType = .bacnetDataNotExpectingReply

instance (f : MstpFrame) (address : UInt8) : Decidable (f.IsTokenFor address) :=
  inferInstanceAs (Decidable (_ ∧ _))

instance (f : MstpFrame) (address : UInt8) : Decidable (f.IsPollFor address) :=
  inferInstanceAs (Decidable (_ ∧ _))

instance (f : MstpFrame) : Decidable f.IsData := inferInstanceAs (Decidable (_ ∨ _))

namespace MstpRing

/-- `BUS_CHANNEL_CAPACITY`. -/
def busCapacity : Nat := 512

def pendingCapacity : Nat := 64

def joined (addresses : Finset UInt8) : MstpRing where
  bus := []
  masters a := if a ∈ addresses then some {} else none

def set (s : MstpRing) (a : UInt8) (m : Master) : MstpRing :=
  { s with masters := Function.update s.masters a (some m) }

/-- `bus_tx.send`: every master on the bus gets a copy, the sender too. -/
def send (s : MstpRing) (f : MstpFrame) : MstpRing where
  bus := s.bus ++ [f]
  masters a := (s.masters a).map fun m => { m with unread := m.unread ++ [f] }

def inPhase (s : MstpRing) (a : UInt8) (phase : MasterPhase) : Option Master :=
  (s.masters a).filter (·.phase == phase)

def hear (s : MstpRing) (a : UInt8) (m : Master) (f : MstpFrame) : MstpRing :=
  if f.IsTokenFor a then
    s.set a { m with phase := .useToken, tokenReceivedCount := m.tokenReceivedCount + 1 }
  else if f.IsPollFor a then (s.set a m).send (replyFrame f.source a)
  else s.set a m

def next (maxMaster : MaxMaster) (s : MstpRing) : RingAction → Option MstpRing
  | .join a => if a ≤ maxMaster ∧ (s.masters a).isNone then some (s.set a {}) else none
  | .run a => do
    let m ← s.inPhase a .initializing
    let s := s.set a { m with phase := .idle }
    some (if a = 0 then s.send (tokenFrame 0 0) else s)
  | .enqueue a destination npdu => do
    let m ← s.masters a
    if m.pending.length < pendingCapacity then
      some (s.set a { m with pending := m.pending ++ [(destination, npdu)] })
    else none
  | .receive a frame => do
    let m ← s.inPhase a .idle
    match m.unread with
    | f :: rest =>
      if f = frame ∧ m.unread.length ≤ busCapacity then some (s.hear a { m with unread := rest } f)
      else none
    | [] => none
  | .lagged a => do
    let m ← s.inPhase a .idle
    -- the receiver goes on with the oldest frame that is still in the channel
    if busCapacity < m.unread.length then
      some (s.set a { m with unread := m.unread.drop (m.unread.length - busCapacity) })
    else none
  | .drain a => do
    let m ← s.inPhase a .useToken
    match m.pending with
    | (destination, npdu) :: rest =>
      some ((s.set a { m with phase := .passToken, pending := rest }).send
        (dataFrame destination a npdu))
    | [] => some (s.set a { m with phase := .passToken })
  | .passToken a => do
    let m ← s.inPhase a .passToken
    some ((s.set a { m with phase := .idle }).send (tokenFrame (nextStation maxMaster a) a))
  | .ringTimeout a => do
    let _ ← s.inPhase a .idle
    some (if a = 0 then s.send (tokenFrame 0 0) else s)

inductive Effect (maxMaster : MaxMaster) (s : MstpRing) : RingAction → MstpRing → Prop
  | joined {a : UInt8} (absent : s.masters a = none) (inside : a ≤ maxMaster) :
    Effect maxMaster s (.join a) (s.set a {})
  | started {a : UInt8} {m : Master} (here : s.masters a = some m) (phase : m.phase = .initializing)
    (other : a ≠ 0) : Effect maxMaster s (.run a) (s.set a { m with phase := .idle })
  | bootstrapped {m : Master} (here : s.masters 0 = some m) (phase : m.phase = .initializing) :
    Effect maxMaster s (.run 0) ((s.set 0 { m with phase := .idle }).send (tokenFrame 0 0))
  | enqueued {a : UInt8} {m : Master} (destination : UInt8) (npdu : Bytes)
    (here : s.masters a = some m) : Effect maxMaster s (.enqueue a destination npdu)
      (s.set a { m with pending := m.pending ++ [(destination, npdu)] })
  | tokenReceived {a : UInt8} {m : Master} {f : MstpFrame} {rest : List MstpFrame}
    (here : s.masters a = some m) (phase : m.phase = .idle) (unread : m.unread = f :: rest)
    (mine : f.IsTokenFor a) : Effect maxMaster s (.receive a f)
      (s.set a { m with
        unread := rest
        phase := .useToken
        tokenReceivedCount := m.tokenReceivedCount + 1 })
  | polled {a : UInt8} {m : Master} {f : MstpFrame} {rest : List MstpFrame}
    (here : s.masters a = some m) (phase : m.phase = .idle) (unread : m.unread = f :: rest)
    (other : ¬ f.IsTokenFor a) : Effect maxMaster s (.receive a f)
      ((s.set a { m with unread := rest }).send (replyFrame f.source a))
  | ignored {a : UInt8} {m : Master} {f : MstpFrame} {rest : List MstpFrame}
    (here : s.masters a = some m) (phase : m.phase = .idle) (unread : m.unread = f :: rest)
    (other : ¬ f.IsTokenFor a) :
    Effect maxMaster s (.receive a f) (s.set a { m with unread := rest })
  | lagged {a : UInt8} {m : Master} (lost : Nat) (here : s.masters a = some m)
    (phase : m.phase = .idle) :
    Effect maxMaster s (.lagged a) (s.set a { m with unread := m.unread.drop lost })
  | dataSent {a : UInt8} {m : Master} {destination : UInt8} {npdu : Bytes}
    {rest : List (UInt8 × Bytes)} (here : s.masters a = some m) (phase : m.phase = .useToken)
    (pending : m.pending = (destination, npdu) :: rest) : Effect maxMaster s (.drain a)
      ((s.set a { m with phase := .passToken, pending := rest }).send
        (dataFrame destination a npdu))
  | nothingPending {a : UInt8} {m : Master} (here : s.masters a = some m)
    (phase : m.phase = .useToken) (pending : m.pending = []) :
    Effect maxMaster s (.drain a) (s.set a { m with phase := .passToken })
  | passed {a : UInt8} {m : Master} (here : s.masters a = some m) (phase : m.phase = .passToken) :
    Effect maxMaster s (.passToken a)
      ((s.set a { m with phase := .idle }).send (tokenFrame (nextStation maxMaster a) a))
  | waited {a : UInt8} {m : Master} (here : s.masters a = some m) (phase : m.phase = .idle)
    (other : a ≠ 0) : Effect maxMaster s (.ringTimeout a) s
  | restarted {m : Master} (here : s.masters 0 = some m) (phase : m.phase = .idle) :
    Effect maxMaster s (.ringTimeout 0) (s.send (tokenFrame 0 0))

variable {maxMaster : MaxMaster} {s s' : MstpRing} {a : RingAction}

theorem masters_joined (addresses : Finset UInt8) (b : UInt8) :
    (joined addresses).masters b = if b ∈ addresses then some {} else none := rfl

theorem masters_send (f : MstpFrame) (b : UInt8) :
    (s.send f).masters b = (s.masters b).map fun m => { m with unread := m.unread ++ [f] } := rfl

theorem masters_set_self (b : UInt8) (m : Master) : (s.set b m).masters b = some m :=
  Function.update_self _ _ _

theorem masters_set_other {b c : UInt8} (other : c ≠ b) (m : Master) :
    (s.set b m).masters c = s.masters c :=
  Function.update_of_ne other _ _

theorem map_masters_send {α : Type} {g : Master → α} (blind : ∀ m unread, g { m with unread } = g m)
    (f : MstpFrame) (b : UInt8) : ((s.send f).masters b).map g = (s.masters b).map g := by
  rw [masters_send]
  cases s.masters b with
  | none => rfl
  | some m => exact congrArg some (blind m _)

theorem map_masters_set {α : Type} {g : Master → α} {b c : UInt8} {m m' : Master}
    (here : s.masters c = some m) (same : g m' = g m) :
    ((s.set c m').masters b).map g = (s.masters b).map g := by
  by_cases own : b = c
  · subst own
    rw [masters_set_self, here, Option.map_some, Option.map_some, same]
  · rw [masters_set_other own]

theorem inPhase_eq_some {b : UInt8} {phase : MasterPhase} {m : Master} :
    s.inPhase b phase = some m ↔ s.masters b = some m ∧ m.phase = phase := by
  rw [inPhase, Option.filter_eq_some_iff, beq_iff_eq]

theorem next_effect (taken : next maxMaster s a = some s') : Effect maxMaster s a s' := by
  cases a with
  | join b =>
    simp only [next] at taken
    split at taken
    · rename_i free
      cases taken
      exact .joined (Option.isNone_iff_eq_none.mp free.2) free.1
    · cases taken
  | run b =>
    obtain ⟨m, found, taken⟩ := Option.bind_eq_some_iff.mp taken
    obtain ⟨here, phase⟩ := inPhase_eq_some.mp found
    cases taken
    split
    · rename_i zero
      subst zero
      exact .bootstrapped here phase
    · rename_i other
      exact .started here phase other
  | enqueue b destination npdu =>
    obtain ⟨m, here, taken⟩ := Option.bind_eq_some_iff.mp taken
    split at taken
    · cases taken
      exact .enqueued destination npdu here
    · cases taken
  | receive b frame =>
    obtain ⟨m, found, taken⟩ := Option.bind_eq_some_iff.mp taken
    obtain ⟨here, phase⟩ := inPhase_eq_some.mp found
    split at taken
    · rename_i f rest unread
      split at taken
      · rename_i yielded
        cases taken
        rw [← yielded.1]
        unfold hear
        split
        · exact .tokenReceived (m := m) here phase unread ‹_›
        · split
          · exact .polled (m := m) here phase unread ‹_›
          · exact .ignored (m := m) here phase unread ‹_›
      · cases taken
    · cases taken
  | lagged b =>
    obtain ⟨m, found, taken⟩ := Option.bind_eq_some_iff.mp taken
    obtain ⟨here, phase⟩ := inPhase_eq_some.mp found
    split at taken
    · cases taken
      exact .lagged _ here phase
    · cases taken
  | drain b =>
    obtain ⟨m, found, taken⟩ := Option.bind_eq_some_iff.mp taken
    obtain ⟨here, phase⟩ := inPhase_eq_some.mp found
    split at taken
    · cases taken
      exact .dataSent here phase ‹_›
    · cases taken
      exact .nothingPending here phase ‹_›
  | passToken b =>
    obtain ⟨m, found, taken⟩ := Option.bind_eq_some_iff.mp taken
    obtain ⟨here, phase⟩ := inPhase_eq_some.mp found
    cases taken
    exact .passed here phase
  | ringTimeout b =>
    obtain ⟨m, found, taken⟩ := Option.bind_eq_some_iff.mp taken
    obtain ⟨here, phase⟩ := inPhase_eq_some.mp found
    cases taken
    split
    · rename_i zero
      subst zero
      exact .restarted here phase
    · rename_i other
      exact .waited here phase other

end MstpRing

end BacnetSim
