import BacnetSim.Lib.Ledger
import BacnetSim.Sim.Startup

/-! What the simulator sends, in any run of it: each frame that came in is answered once, to where
it came from, with what was there when its task looked. -/
namespace BacnetSim
open Rust Ieee754 Transitions Ledger

namespace Simulator
variable {M R N : Type}

/-- The frames that came in datagrams, in the order in which their tasks were spawned. -/
def framesOf : List (Event N) → List InboundFrame
  | [] => []
  | .datagram src octets :: past =>
    match BacnetIpTransport.receive src octets with
    | .ok (some frame) => framesOf past ++ [frame]
    | _ => framesOf past
  | _ :: past => framesOf past

theorem framesOf_received {past : List (Event N)} {src : SocketAddr} {octets : Bytes} {frame : InboundFrame}
    (received : BacnetIpTransport.receive src octets = .ok (some frame)) :
    framesOf (.datagram src octets :: past) = framesOf past ++ [frame] := by
  simp only [framesOf, received]

theorem framesOf_dropped {past : List (Event N)} {src : SocketAddr} {octets : Bytes}
    (dropped : ∀ frame, BacnetIpTransport.receive src octets ≠ .ok (some frame)) :
    framesOf (.datagram src octets :: past) = framesOf past := by
  rw [framesOf]
  split
  · rename_i frame received
    exact absurd received (dropped frame)
  · rfl

theorem framesOf_grows (e : Event N) (past : List (Event N)) : framesOf past <+: framesOf (e :: past) := by
  cases e with
  | datagram src octets =>
    rw [framesOf]
    split
    · exact List.prefix_append _ _
    · exact List.prefix_refl _
  | _ => exact List.prefix_refl _

theorem framesOf_later {e : Event N} {past : List (Event N)} {task : Nat} {frame : InboundFrame}
    (heard : (framesOf past)[task]? = some frame) : (framesOf (e :: past))[task]? = some frame := by
  obtain ⟨rest, grown⟩ := framesOf_grows e past
  rw [← grown, List.getElem?_append_left (List.getElem?_eq_some_iff.mp heard).1, heard]

variable [ValueModel M R] [JsonNumber N] (hash : Hasher) (arith : RealArith) (text : ApiText N)

def Resolves (start : Simulator M R) (past : List (Event N)) (task : Nat) (src : NetworkAddress)
    (req : ConfirmedRequest) (device : DeviceId) : Prop :=
  ∃ now s, Took (next hash arith text) start past (.start task now) s ∧
    (s.dispatcher.resolveDevice req src).1 = .ok device

/-- The task read these specs one after the other, each in the store as it was then. -/
inductive ReadInTurn (start : Simulator M R) (task : Nat) (device : DeviceId) :
    List (Event N) → List ReadAccessSpec → List ObjectPropertyResult → Prop
  | nothing {past : List (Event N)} : ReadInTurn start task device past [] []
  | later {e : Event N} {past : List (Event N)} {specs : List ReadAccessSpec}
    {results : List ObjectPropertyResult} (earlier : ReadInTurn start task device past specs results) :
    ReadInTurn start task device (e :: past) specs results
  | next {past : List (Event N)} {s : Simulator M R} {now : Nat → Now} {specs : List ReadAccessSpec}
    {results : List ObjectPropertyResult} {spec : ReadAccessSpec} {result : ObjectPropertyResult}
    (earlier : ReadInTurn start task device past specs results)
    (run : reached (next hash arith text) start past = some s)
    (found : handleSpec hash now spec s.store device = .ok result) :
    ReadInTurn start task device (.read task now :: past) (specs ++ [spec]) (results ++ [result])

inductive Answers (start : Simulator M R) (past : List (Event N)) (task : Nat) (frame : InboundFrame) :
    List OutboundFrame → Prop
  | unconfirmed {s : Simulator M R} {now : Clock}
    (took : Took (next hash arith text) start past (.start task now) s)
    (other : frame.confirmedRequest = none) :
    Answers start past task frame (s.dispatcher.handleFrame hash now frame).sent
  | unresolved {s : Simulator M R} {now : Clock} {req : ConfirmedRequest} {f : Fault BacnetError}
    (took : Took (next hash arith text) start past (.start task now) s)
    (asked : frame.confirmedRequest = some req)
    (failed : (s.dispatcher.resolveDevice req frame.src).1 = .error f) :
    Answers start past task frame []
  | served {s : Simulator M R} {now : Clock} {req : ConfirmedRequest} {device : DeviceId}
    (asked : frame.confirmedRequest = some req)
    (single : ∀ specs, req.service ≠ .readPropertyMultiple specs)
    (resolves : Resolves hash arith text start past task frame.src req device)
    (took : Took (next hash arith text) start past (.serve task now) s) :
    Answers start past task frame (reply frame.src (s.dispatcher.serve hash now req device).1)
  | gathered {req : ConfirmedRequest} {device : DeviceId} {specs : List ReadAccessSpec}
    {results : List ObjectPropertyResult} (asked : frame.confirmedRequest = some req)
    (batch : req.service = .readPropertyMultiple specs)
    (resolves : Resolves hash arith text start past task frame.src req device)
    (read : ReadInTurn hash arith text start task device past specs results) :
    Answers start past task frame
      (reply frame.src (.ok (ComplexAck.encode ⟨req.invokeId, .readPropertyMultiple results⟩)))

/-- How far a task may have got with its frame, when it has sent this. -/
inductive Owes (start : Simulator M R) (past : List (Event N)) (task : Nat) (frame : InboundFrame) :
    FrameTask → List OutboundFrame → Prop
  | received : Owes start past task frame (.received frame) []
  | resolved {req : ConfirmedRequest} {device : DeviceId} (asked : frame.confirmedRequest = some req)
    (resolves : Resolves hash arith text start past task frame.src req device) :
    Owes start past task frame (.resolved frame.src req device) []
  | reading {req : ConfirmedRequest} {device : DeviceId} {specs rest : List ReadAccessSpec}
    {results : List ObjectPropertyResult} (asked : frame.confirmedRequest = some req)
    (batch : req.service = .readPropertyMultiple (specs ++ rest))
    (resolves : Resolves hash arith text start past task frame.src req device)
    (read : ReadInTurn hash arith text start task device past specs results) :
    Owes start past task frame (.reading frame.src req.invokeId device results rest) []
  | sending {given rest : List OutboundFrame}
    (answers : Answers hash arith text start past task frame (given ++ rest)) :
    Owes start past task frame (.sending rest) given

structure Accounts (start : Simulator M R) (past : List (Event N)) (s : Simulator M R)
    (log : List (Nat × OutboundFrame)) : Prop where
  outbound : s.outbound = log.map Prod.snd
  all : (framesOf past).length = s.tasks.length
  balanced : Balanced (fun task t given => ∀ frame, (framesOf past)[task]? = some frame →
    Owes hash arith text start past task frame t given) s.tasks log

variable {hash arith text} {start s s' : Simulator M R} {e : Event N} {past : List (Event N)}
  {task : Nat} {frame : InboundFrame} {given : List OutboundFrame} {t t' : FrameTask}
  {log : List (Nat × OutboundFrame)}

theorem Resolves.later {src : NetworkAddress} {req : ConfirmedRequest} {device : DeviceId}
    (resolves : Resolves hash arith text start past task src req device) :
    Resolves hash arith text start (e :: past) task src req device := by
  obtain ⟨now, s, took, resolved⟩ := resolves
  exact ⟨now, s, took.later, resolved⟩

theorem Answers.later (answers : Answers hash arith text start past task frame given) :
    Answers hash arith text start (e :: past) task frame given := by
  cases answers with
  | unconfirmed took other => exact .unconfirmed took.later other
  | unresolved took asked failed => exact .unresolved took.later asked failed
  | served asked single resolves took => exact .served asked single resolves.later took.later
  | gathered asked batch resolves read => exact .gathered asked batch resolves.later read.later

theorem Owes.later (owes : Owes hash arith text start past task frame t given) :
    Owes hash arith text start (e :: past) task frame t given := by
  cases owes with
  | received => exact .received
  | resolved asked resolves => exact .resolved asked resolves.later
  | reading asked batch resolves read => exact .reading asked batch resolves.later read.later
  | sending answers => exact .sending answers.later

theorem Accounts.frame_of (accounts : Accounts hash arith text start past s log)
    (there : s.tasks[task]? = some t) :
    ∃ frame, (framesOf past)[task]? = some frame ∧
      Owes hash arith text start past task frame t (share log task) := by
  have inside := accounts.all.symm ▸ (List.getElem?_eq_some_iff.mp there).1
  have found := List.getElem?_eq_getElem inside
  exact ⟨_, found, accounts.balanced.shares task t there _ found⟩

theorem Accounts.later (accounts : Accounts hash arith text start past s log)
    (frames : framesOf (e :: past) = framesOf past) :
    Balanced (fun task t given => ∀ frame, (framesOf (e :: past))[task]? = some frame →
      Owes hash arith text start (e :: past) task frame t given) s.tasks log :=
  accounts.balanced.mono fun _ _ _ _ owes frame found => (owes frame (frames ▸ found)).later

theorem Accounts.unmoved (accounts : Accounts hash arith text start past s log)
    (frames : framesOf (e :: past) = framesOf past) (tasks : s'.tasks = s.tasks)
    (outbound : s'.outbound = s.outbound) : Accounts hash arith text start (e :: past) s' log where
  outbound := outbound.trans accounts.outbound
  all := by rw [frames, tasks, accounts.all]
  balanced := tasks ▸ accounts.later frames

theorem Accounts.move (accounts : Accounts hash arith text start past s log)
    (frames : framesOf (e :: past) = framesOf past) (there : s.tasks[task]? = some t)
    (found : (framesOf past)[task]? = some frame)
    (owes : Owes hash arith text start (e :: past) task frame t' (share log task))
    (tasks : s'.tasks = s.tasks.set task t') (outbound : s'.outbound = s.outbound) :
    Accounts hash arith text start (e :: past) s' log where
  outbound := outbound.trans accounts.outbound
  all := by rw [frames, tasks, List.length_set, accounts.all]
  balanced := by
    rw [tasks]
    refine (accounts.later frames).move there fun frame' found' => ?_
    cases found.symm.trans (frames ▸ found')
    exact owes

theorem Accounts.send (accounts : Accounts hash arith text start past s log)
    {frame : OutboundFrame} {rest : List OutboundFrame}
    (there : s.tasks[task]? = some (.sending (frame :: rest))) :
    Accounts hash arith text start (.send task :: past)
      { s.setTask task (.sending rest) with outbound := s.outbound ++ [frame] } (log ++ [(task, frame)]) where
  outbound := by
    rw [List.map_append, ← accounts.outbound]
    rfl
  all := accounts.all.trans List.length_set.symm
  balanced := by
    refine (accounts.later (e := .send task) rfl).give there fun asking found => ?_
    obtain ⟨_, found', owes⟩ := accounts.frame_of there
    cases found'.symm.trans found
    cases owes with
    | sending answers => exact .sending (by simpa using answers.later)

theorem Accounts.spawn (accounts : Accounts hash arith text start past s log)
    (frames : framesOf (e :: past) = framesOf past ++ [frame]) :
    Accounts hash arith text start (e :: past) { s with tasks := s.tasks ++ [.received frame] } log where
  outbound := accounts.outbound
  all := by rw [frames, List.length_append, List.length_append, accounts.all]; rfl
  balanced := by
    refine (accounts.balanced.mono fun i t given old owes frame' found => ?_).spawn fun frame' found => ?_
    · rw [frames, List.getElem?_append_left (accounts.all.symm ▸ old)] at found
      exact (owes frame' found).later
    · rw [frames, ← accounts.all, List.getElem?_concat_length] at found
      cases found
      exact .received

/-- What a task whose request always resolves to one device has answered, it served for that device. -/
theorem Answers.of_single {req : ConfirmedRequest} {device : DeviceId}
    (answers : Answers hash arith text start past task frame given)
    (asked : frame.confirmedRequest = some req)
    (single : ∀ specs, req.service ≠ .readPropertyMultiple specs)
    (resolves : ∀ {now : Clock} {before : Simulator M R},
      Took (next hash arith text) start past (.start task now) before →
        (before.dispatcher.resolveDevice req frame.src).1 = .ok device) :
    ∃ now before, Took (next hash arith text) start past (.serve task now) before ∧
      given = reply frame.src (before.dispatcher.serve hash now req device).1 := by
  cases answers with
  | unconfirmed took other => cases other.symm.trans asked
  | unresolved took asked' failed =>
    cases asked.symm.trans asked'
    cases failed.symm.trans (resolves took)
  | served asked' _ resolved took =>
    cases asked.symm.trans asked'
    obtain ⟨now, before, started, same⟩ := resolved
    cases same.symm.trans (resolves started)
    exact ⟨_, _, took, rfl⟩
  | gathered asked' batch =>
    cases asked.symm.trans asked'
    exact absurd batch (single _)

theorem Owes.of_received {f : InboundFrame}
    (owes : Owes hash arith text start past task frame (.received f) given) :
    f = frame ∧ given = [] := by
  cases owes with
  | received => exact ⟨rfl, rfl⟩

theorem Owes.of_resolved {src : NetworkAddress} {req : ConfirmedRequest} {device : DeviceId}
    (owes : Owes hash arith text start past task frame (.resolved src req device) given) :
    src = frame.src ∧ frame.confirmedRequest = some req ∧
      Resolves hash arith text start past task frame.src req device ∧ given = [] := by
  cases owes with
  | resolved asked resolves => exact ⟨rfl, asked, resolves, rfl⟩

theorem Owes.of_reading {src : NetworkAddress} {invokeId : UInt8} {device : DeviceId}
    {results : List ObjectPropertyResult} {rest : List ReadAccessSpec}
    (owes : Owes hash arith text start past task frame (.reading src invokeId device results rest) given) :
    src = frame.src ∧ given = [] ∧ ∃ req specs, frame.confirmedRequest = some req ∧
      req.invokeId = invokeId ∧ req.service = .readPropertyMultiple (specs ++ rest) ∧
      Resolves hash arith text start past task frame.src req device ∧
      ReadInTurn hash arith text start task device past specs results := by
  cases owes with
  | reading asked batch resolves read => exact ⟨rfl, rfl, _, _, asked, rfl, batch, resolves, read⟩

theorem Accounts.step (accounts : Accounts hash arith text start past s log)
    (run : reached (next hash arith text) start past = some s)
    (taken : s.next hash arith text e = some s') :
    ∃ log', Accounts hash arith text start (e :: past) s' log' := by
  have took : Took (next hash arith text) start (e :: past) e s := .now run
  cases next_effect taken with
  | heard received => exact ⟨log, accounts.spawn (framesOf_received received)⟩
  | unheard dropped => exact ⟨log, accounts.unmoved (framesOf_dropped dropped) rfl rfl⟩
  | @answered task now frame pending other =>
    obtain ⟨_, found, owes⟩ := accounts.frame_of pending
    obtain ⟨rfl, none_⟩ := owes.of_received
    exact ⟨log, accounts.move rfl pending found (none_ ▸ .sending (.unconfirmed took other)) rfl rfl⟩
  | @unresolved task now frame req f pending asked failed =>
    obtain ⟨_, found, owes⟩ := accounts.frame_of pending
    obtain ⟨rfl, none_⟩ := owes.of_received
    exact ⟨log, accounts.move rfl pending found (none_ ▸ .sending (.unresolved took asked failed)) rfl rfl⟩
  | @resolved task now frame req device pending asked resolved =>
    obtain ⟨_, found, owes⟩ := accounts.frame_of pending
    obtain ⟨rfl, none_⟩ := owes.of_received
    exact ⟨log, accounts.move rfl pending found (none_ ▸ .resolved asked ⟨now, s, took, resolved⟩) rfl rfl⟩
  | @served task now src req device pending single =>
    obtain ⟨frame, found, owes⟩ := accounts.frame_of pending
    obtain ⟨rfl, asked, resolves, none_⟩ := owes.of_resolved
    exact ⟨log, accounts.move rfl pending found
      (none_ ▸ .sending (.served asked single resolves.later took)) rfl rfl⟩
  | @entered task now src req device specs pending batch =>
    obtain ⟨frame, found, owes⟩ := accounts.frame_of pending
    obtain ⟨rfl, asked, resolves, none_⟩ := owes.of_resolved
    exact ⟨log, accounts.move rfl pending found
      (none_ ▸ .reading asked (show req.service = .readPropertyMultiple ([] ++ specs) from batch)
        resolves.later .nothing) rfl rfl⟩
  | @read task now src invokeId device results spec rest result pending read =>
    obtain ⟨frame, found, owes⟩ := accounts.frame_of pending
    obtain ⟨rfl, none_, req, specs, asked, rfl, batch, resolves, earlier⟩ := owes.of_reading
    rw [List.append_cons] at batch
    exact ⟨log, accounts.move rfl pending found
      (none_ ▸ .reading asked batch resolves.later (earlier.next run read)) rfl rfl⟩
  | @gathered task now src invokeId device results pending =>
    obtain ⟨frame, found, owes⟩ := accounts.frame_of pending
    obtain ⟨rfl, none_, req, specs, asked, rfl, batch, resolves, earlier⟩ := owes.of_reading
    rw [List.append_nil] at batch
    exact ⟨log, accounts.move rfl pending found
      (none_ ▸ .sending (.gathered asked batch resolves.later earlier.later)) rfl rfl⟩
  | sent pending => exact ⟨_, accounts.send pending⟩
  | ticked | swept | tickEnded | put | setAnalog | setBinary | looked | drove =>
    exact ⟨log, accounts.unmoved rfl rfl rfl⟩

theorem reached_accounts (idle : start.tasks = []) (silent : start.outbound = [])
    (run : reached (next hash arith text) start past = some s) :
    ∃ log, Accounts hash arith text start past s log := by
  have initial : Accounts hash arith text start [] start [] :=
    { outbound := silent
      all := idle ▸ rfl
      balanced := idle ▸ Balanced.nothing }
  exact reached_induction (I := fun past s => ∃ log, Accounts hash arith text start past s log)
    ⟨[], initial⟩ (fun run ⟨log, accounts⟩ taken => accounts.step run taken) run

/-- In every run, what was sent is what the tasks have sent, each with no more than one answer: it
is for the frame of the task, from what the task saw in its own steps, and goes to where that frame
came from. A task that has ended has sent all of it. -/
theorem tasks_answer_once (idle : start.tasks = []) (silent : start.outbound = [])
    (run : reached (next hash arith text) start past = some s) :
    ∃ log : List (Nat × OutboundFrame), s.outbound = log.map Prod.snd ∧
      (framesOf past).length = s.tasks.length ∧
      (∀ entry ∈ log, ∃ rest, s.tasks[entry.1]? = some (.sending rest)) ∧
      ∀ task frame rest, (framesOf past)[task]? = some frame → s.tasks[task]? = some (.sending rest) →
        Answers hash arith text start past task frame (share log task ++ rest) := by
  obtain ⟨log, accounts⟩ := reached_accounts idle silent run
  refine ⟨log, accounts.outbound, accounts.all, ?_, ?_⟩
  · rintro ⟨task, frame⟩ mem
    obtain ⟨t, there⟩ : ∃ t, s.tasks[task]? = some t :=
      ⟨_, List.getElem?_eq_getElem (accounts.balanced.known _ mem)⟩
    obtain ⟨_, _, owes⟩ := accounts.frame_of there
    have given : frame ∈ share log task := mem_share.mpr mem
    generalize share log task = sent at owes given
    cases owes with
    | sending => exact ⟨_, there⟩
    | _ => cases given
  · intro task frame rest found there
    have owes := accounts.balanced.shares task _ there frame found
    generalize share log task = given at owes
    cases owes with
    | sending answers => exact answers

def whoIsDatagram : Event SerdeNumber :=
  .datagram (.v4 ⟨0x0A000002, 47808⟩)
    (BvllFrame.originalBroadcastNpdu (Npdu.encodeLocal false [0x10, 0x08])).encode

def readTwoDatagram : Event SerdeNumber :=
  .datagram (.v4 ⟨0x0A000001, 47808⟩) (BvllFrame.originalUnicastNpdu (Npdu.encodeLocal true
    [0x00, 4, 9, 14, 0x0C, 2, 0, 0, 2, 0x1E, 0x09, 75, 0x1F, 0x0C, 0, 0, 0, 1, 0x1E, 0x09, 85, 0x1F])).encode

/-- The devices answer the Who-Is while the other task reads its objects, and between its two reads
the input is put to 7. -/
def busyRun : List (Event SerdeNumber) :=
  [.send 1, .read 1 fun _ => midnight, .send 0, .read 1 fun _ => midnight,
    .put midnight 2 "analog_input" 1 "present_value" (.number (.posInt 7)), .send 0,
    .read 1 fun _ => midnight, .serve 1 fun _ _ => midnight, .start 1 fun _ _ => midnight,
    .start 0 fun _ _ => midnight, readTwoDatagram, whoIsDatagram]

theorem busyRun_ran : (reached officeNext officeStart busyRun).isSome = true := by decide +kernel

def busyEnd : Simulator ConstantModel Unit := (reached officeNext officeStart busyRun).get busyRun_ran

example : (framesOf busyRun).length = 2 ∧ busyEnd.outbound.length = 3 := by decide +kernel

theorem office_tasks_answer_once : ∃ log : List (Nat × OutboundFrame),
    busyEnd.outbound = log.map Prod.snd ∧ (framesOf busyRun).length = busyEnd.tasks.length ∧
    (∀ entry ∈ log, ∃ rest, busyEnd.tasks[entry.1]? = some (.sending rest)) ∧
    ∀ task frame rest, (framesOf busyRun)[task]? = some frame →
      busyEnd.tasks[task]? = some (.sending rest) →
        Answers (fun _ _ => 0) .ieee serdeText officeStart busyRun task frame (share log task ++ rest) :=
  tasks_answer_once rfl rfl (Option.some_get busyRun_ran).symm

end Simulator

end BacnetSim
