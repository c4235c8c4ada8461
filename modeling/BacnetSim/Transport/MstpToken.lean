import BacnetSim.Transport.MstpRing
import Mathlib.Algebra.Order.Pi

/-! The token of the ring: there is one at most, and data frames are sent under it. -/
namespace BacnetSim
open Rust Transitions

def Master.tokens (m : Master) (a : UInt8) : Nat :=
  (if m.phase.Holds then 1 else 0) + m.unread.countP fun f => f.IsTokenFor a

namespace MstpRing
variable {maxMaster : MaxMaster} {s s' : MstpRing} {a : RingAction} {b c : UInt8} {m m' : Master}
variable {f : MstpFrame} {past : List RingAction}

def tokens (s : MstpRing) (b : UInt8) : Nat := ((s.masters b).map (·.tokens b)).getD 0

def AtMostOne (tokens : UInt8 → Nat) : Prop := ∃ b, ∀ c, tokens c ≤ if c = b then 1 else 0

def arrives (s : MstpRing) (f : MstpFrame) (c : UInt8) : Nat :=
  if f.IsTokenFor c ∧ (s.masters c).isSome then 1 else 0

theorem tokens_eq (here : s.masters b = some m) : s.tokens b = m.tokens b := by
  rw [tokens, here]
  rfl

theorem tokens_set_self : (s.set b m).tokens b = m.tokens b :=
  tokens_eq (masters_set_self b m)

theorem tokens_set_other (other : c ≠ b) : (s.set b m).tokens c = s.tokens c := by
  rw [tokens, tokens, masters_set_other other]

theorem tokens_set_same (here : s.masters b = some m) (same : m'.tokens b = m.tokens b) :
    (s.set b m').tokens = s.tokens := by
  funext c
  by_cases own : c = b
  · subst own
    rw [tokens_set_self, same, tokens_eq here]
  · exact tokens_set_other own

theorem tokens_send (f : MstpFrame) (c : UInt8) :
    (s.send f).tokens c = s.tokens c + s.arrives f c := by
  rw [tokens, tokens, masters_send, arrives]
  cases s.masters c with
  | none => simp
  | some m =>
    simp only [Option.map_some, Option.getD_some, Master.tokens, List.countP_append,
      List.countP_singleton, Option.isSome_some, and_true, decide_eq_true_eq]
    omega

theorem arrives_other (other : f.frameType ≠ .token) (c : UInt8) : s.arrives f c = 0 :=
  if_neg fun token => other token.1.1

theorem arrives_tokenFrame (d source : UInt8) (c : UInt8) :
    s.arrives (tokenFrame d source) c = if c = d ∧ (s.masters d).isSome then 1 else 0 := by
  unfold arrives MstpFrame.IsTokenFor tokenFrame
  by_cases same : c = d
  · subst same
    simp
  · simp [same, Ne.symm same]

theorem arrives_set (here : s.masters b = some m) (f : MstpFrame) (c : UInt8) :
    (s.set b m').arrives f c = s.arrives f c := by
  by_cases own : c = b
  · subst own
    simp only [arrives, masters_set_self, here, Option.isSome_some]
  · simp only [arrives, masters_set_other own]

theorem arrives_zero (zero : s.masters 0 = some m) (c : UInt8) :
    s.arrives (tokenFrame 0 0) c = if c = 0 then 1 else 0 := by
  rw [arrives_tokenFrame, zero]
  simp

def Holds (s : MstpRing) (b : UInt8) : Prop := ∃ m, s.masters b = some m ∧ m.phase.Holds

def phaseOf (s : MstpRing) (b : UInt8) : Option MasterPhase := (s.masters b).map (·.phase)

theorem phaseOf_eq (here : s.masters b = some m) : s.phaseOf b = some m.phase := by
  rw [phaseOf, here]
  rfl

theorem phaseOf_send (f : MstpFrame) (b : UInt8) : (s.send f).phaseOf b = s.phaseOf b :=
  map_masters_send (fun _ _ => rfl) f b

theorem phaseOf_set_self : (s.set b m).phaseOf b = some m.phase := phaseOf_eq (masters_set_self b m)

theorem phaseOf_set_other (other : c ≠ b) : (s.set b m).phaseOf c = s.phaseOf c := by
  rw [phaseOf, phaseOf, masters_set_other other]

theorem Holds.tokens (held : s.Holds b) : 1 ≤ s.tokens b := by
  obtain ⟨m, here, phase⟩ := held
  rw [tokens_eq here, Master.tokens, if_pos phase]
  exact Nat.le_add_right 1 _

/-- What a step makes of the tokens: a passed one leaves its holder and may arrive nowhere. -/
inductive TokenFlow (maxMaster : MaxMaster) (s s' : MstpRing) : RingAction → Prop
  | stays {a : RingAction} (same : s'.tokens = s.tokens) (other : ∀ b, a ≠ .passToken b) :
    TokenFlow maxMaster s s' a
  | lost {b : UInt8} (fewer : ∀ c, s'.tokens c ≤ s.tokens c) : TokenFlow maxMaster s s' (.lagged b)
  | passed {b : UInt8} (held : s.Holds b)
    (moved : ∀ c, s'.tokens c + (if c = b then 1 else 0) =
      s.tokens c + s.arrives (tokenFrame (nextStation maxMaster b) b) c) :
    TokenFlow maxMaster s s' (.passToken b)
  | bootstrapped (phase : s.phaseOf 0 = some .initializing) (after : s'.phaseOf 0 = some .idle)
    (more : ∀ c, s'.tokens c = s.tokens c + if c = 0 then 1 else 0) :
    TokenFlow maxMaster s s' (.run 0)
  | restarted (phase : s.phaseOf 0 = some .idle)
    (more : ∀ c, s'.tokens c = s.tokens c + if c = 0 then 1 else 0) :
    TokenFlow maxMaster s s' (.ringTimeout 0)

theorem Effect.tokenFlow (effect : Effect maxMaster s a s') : TokenFlow maxMaster s s' a := by
  cases effect with
  | @joined b absent inside =>
    refine .stays (funext fun c => ?_) nofun
    by_cases own : c = b
    · subst own
      rw [tokens_set_self, tokens, absent]
      rfl
    · exact tokens_set_other own
  | started here phase other =>
    refine .stays (tokens_set_same here ?_) nofun
    simp [Master.tokens, MasterPhase.Holds, phase]
  | @bootstrapped m here phase =>
    refine .bootstrapped (phase ▸ phaseOf_eq here) ?_ fun c => ?_
    · rw [phaseOf_send, phaseOf_set_self]
    rw [tokens_send, arrives_set here, arrives_zero here, tokens_set_same here]
    simp [Master.tokens, MasterPhase.Holds, phase]
  | enqueued destination npdu here => exact .stays (tokens_set_same here rfl) nofun
  | tokenReceived here phase unread mine =>
    refine .stays (tokens_set_same here ?_) nofun
    simp [Master.tokens, MasterPhase.Holds, phase, unread, mine, Nat.add_comm]
  | polled here phase unread other =>
    refine .stays (funext fun c => ?_) nofun
    rw [tokens_send, arrives_other (fun same => by cases same), tokens_set_same here]
    · rfl
    · simp [Master.tokens, unread, other]
  | ignored here phase unread other =>
    refine .stays (tokens_set_same here ?_) nofun
    simp [Master.tokens, unread, other]
  | @lagged b m lost here phase =>
    refine .lost fun c => ?_
    by_cases own : c = b
    · subst own
      rw [tokens_set_self, tokens_eq here]
      exact Nat.add_le_add_left ((List.drop_sublist lost m.unread).countP_le) _
    · rw [tokens_set_other own]
  | dataSent here phase pending =>
    refine .stays (funext fun c => ?_) nofun
    rw [tokens_send, arrives_other (fun same => by cases same), tokens_set_same here]
    · rfl
    · simp [Master.tokens, MasterPhase.Holds, phase]
  | nothingPending here phase pending =>
    refine .stays (tokens_set_same here ?_) nofun
    simp [Master.tokens, MasterPhase.Holds, phase]
  | @passed b m here phase =>
    refine .passed ⟨m, here, by rw [phase]; trivial⟩ fun c => ?_
    rw [tokens_send, arrives_set here]
    by_cases own : c = b
    · subst own
      rw [tokens_set_self, tokens_eq here]
      simp [Master.tokens, MasterPhase.Holds, phase]
      omega
    · rw [tokens_set_other own, if_neg own, Nat.add_zero]
  | waited here phase other => exact .stays rfl nofun
  | restarted here phase =>
    refine .restarted (phase ▸ phaseOf_eq here) fun c => ?_
    rw [tokens_send, arrives_zero here]

def Booted (s : MstpRing) : Prop := ∃ p, s.phaseOf 0 = some p ∧ p ≠ .initializing

theorem Booted.set (booted : s.Booted) (here : s.masters b = some m)
    (keeps : m'.phase = .initializing → m.phase = .initializing) : (s.set b m').Booted := by
  by_cases zero : b = 0
  · subst zero
    obtain ⟨p, phase, other⟩ := booted
    rw [phaseOf_eq here] at phase
    cases phase
    exact ⟨m'.phase, phaseOf_set_self, fun same => other (keeps same)⟩
  · rw [Booted, phaseOf_set_other (Ne.symm zero)]
    exact booted

theorem Booted.send (booted : s.Booted) (f : MstpFrame) : (s.send f).Booted := by
  rw [Booted, phaseOf_send]
  exact booted

theorem Effect.booted (effect : Effect maxMaster s a s') (booted : s.Booted) : s'.Booted := by
  cases effect with
  | @joined b absent inside =>
    have other : 0 ≠ b := by
      rintro rfl
      obtain ⟨p, phase, _⟩ := booted
      rw [phaseOf, absent] at phase
      cases phase
    rw [Booted, phaseOf_set_other other]
    exact booted
  | started here phase other => exact booted.set here nofun
  | bootstrapped here phase => exact (booted.set here fun same => by cases same).send _
  | enqueued destination npdu here => exact booted.set here id
  | tokenReceived here phase unread mine => exact booted.set here nofun
  | polled here phase unread other => exact (booted.set here fun same => by exact same).send _
  | ignored here phase unread other => exact booted.set here id
  | lagged lost here phase => exact booted.set here id
  | dataSent here phase pending => exact (booted.set here fun same => by cases same).send _
  | nothingPending here phase pending => exact booted.set here nofun
  | passed here phase => exact (booted.set here fun same => by cases same).send _
  | waited here phase other => exact booted
  | restarted here phase => exact booted.send _

/-- A restart of master 0 comes when no token is held or in flight. -/
def RestartsLost (_past : List RingAction) (s : MstpRing) : RingAction → Prop
  | .ringTimeout b => b = 0 → s.tokens = 0
  | _ => True

structure OneToken (s : MstpRing) : Prop where
  atMostOne : AtMostOne s.tokens
  unbooted : ¬ s.Booted → s.tokens = 0

theorem atMostOne_zero (none : s.tokens = 0)
    (more : ∀ c, s'.tokens c = s.tokens c + if c = 0 then 1 else 0) :
    AtMostOne s'.tokens := by
  refine ⟨0, fun c => ?_⟩
  rw [more, none]
  exact Nat.le_of_eq (Nat.zero_add _)

theorem OneToken.step (one : OneToken s) (effect : Effect maxMaster s a s')
    (restarts : RestartsLost past s a) : OneToken s' := by
  have unbooted : ¬ s'.Booted → s.tokens = 0 :=
    fun stopped => one.unbooted fun booted => stopped (effect.booted booted)
  cases effect.tokenFlow with
  | stays same _ =>
    rw [← same] at unbooted
    exact ⟨same ▸ one.atMostOne, unbooted⟩
  | lost fewer =>
    obtain ⟨b, bound⟩ := one.atMostOne
    refine ⟨⟨b, fun c => (fewer c).trans (bound c)⟩, fun stopped => funext fun c => ?_⟩
    have few := fewer c
    rw [unbooted stopped] at few
    exact Nat.le_zero.mp few
  | @passed b held moved =>
    have some_ := held.tokens
    obtain ⟨d, bound⟩ := one.atMostOne
    constructor
    · refine ⟨nextStation maxMaster b, fun c => ?_⟩
      have here := bound b
      have same : b = d := by
        by_contra other
        rw [if_neg other] at here
        omega
      have left : s'.tokens c ≤ s.arrives (tokenFrame (nextStation maxMaster b) b) c := by
        have there := bound c
        have move := moved c
        rw [← same] at there
        omega
      refine left.trans ?_
      rw [arrives_tokenFrame]
      by_cases next : c = nextStation maxMaster b
      · rw [if_pos next]
        split <;> decide
      · rw [if_neg fun both => next both.1]
        exact Nat.zero_le _
    · intro stopped
      rw [unbooted stopped] at some_
      cases some_
  | bootstrapped phase after more =>
    have stopped : ¬ s.Booted := by
      rintro ⟨p, phase', other⟩
      exact other (Option.some.inj (phase'.symm.trans phase))
    refine ⟨atMostOne_zero (one.unbooted stopped) more, fun stopped => ?_⟩
    exact absurd ⟨.idle, after, nofun⟩ stopped
  | restarted phase more =>
    refine ⟨atMostOne_zero (restarts rfl) more, fun stopped => ?_⟩
    exact absurd (effect.booted ⟨.idle, phase, nofun⟩) stopped

def dataOf (b : UInt8) (bus : List MstpFrame) : List (UInt8 × Bytes) :=
  (bus.filter fun f => f.IsData ∧ f.source = b).map fun f => (f.destination, f.data)

def pendingOf (s : MstpRing) (b : UInt8) : List (UInt8 × Bytes) :=
  ((s.masters b).map (·.pending)).getD []

def outbound (b : UInt8) : List RingAction → List (UInt8 × Bytes)
  | [] => []
  | .enqueue c destination npdu :: past =>
    if c = b then outbound b past ++ [(destination, npdu)] else outbound b past
  | _ :: past => outbound b past

theorem dataOf_append (bus bus' : List MstpFrame) :
    dataOf b (bus ++ bus') = dataOf b bus ++ dataOf b bus' := by
  rw [dataOf, List.filter_append, List.map_append]
  rfl

theorem dataOf_send_other (other : ¬ f.IsData) : dataOf b (s.send f).bus = dataOf b s.bus := by
  have none : dataOf b [f] = [] := by simp [dataOf, other]
  rw [send, dataOf_append, none, List.append_nil]

theorem dataOf_dataFrame (destination source : UInt8) (npdu : Bytes) :
    dataOf b [dataFrame destination source npdu] =
      if source = b then [(destination, npdu)] else [] := by
  by_cases own : source = b
  · simp [dataOf, dataFrame, MstpFrame.IsData, own]
  · simp [dataOf, dataFrame, MstpFrame.IsData, own]

theorem pendingOf_send (f : MstpFrame) : (s.send f).pendingOf b = s.pendingOf b :=
  congrArg (·.getD []) (map_masters_send (g := Master.pending) (fun _ _ => rfl) f b)

theorem pendingOf_eq (here : s.masters b = some m) : s.pendingOf b = m.pending := by
  rw [pendingOf, here]
  rfl

theorem pendingOf_set_self : (s.set b m).pendingOf b = m.pending :=
  pendingOf_eq (masters_set_self b m)

theorem pendingOf_set_other (other : c ≠ b) : (s.set b m).pendingOf c = s.pendingOf c := by
  rw [pendingOf, pendingOf, masters_set_other other]

theorem pendingOf_set_same (here : s.masters c = some m) (same : m'.pending = m.pending) :
    (s.set c m').pendingOf b = s.pendingOf b :=
  congrArg (·.getD []) (map_masters_set (g := Master.pending) here same)

theorem token_not_data (destination source : UInt8) : ¬ (tokenFrame destination source).IsData := by
  rintro (same | same) <;> cases same

theorem reply_not_data (destination source : UInt8) : ¬ (replyFrame destination source).IsData := by
  rintro (same | same) <;> cases same

section Fifo
variable {queued : List (UInt8 × Bytes)}

theorem fifo_set (here : s.masters c = some m) (same : m'.pending = m.pending)
    (held : dataOf b s.bus ++ s.pendingOf b = queued) :
    dataOf b (s.set c m').bus ++ (s.set c m').pendingOf b = queued := by
  rw [pendingOf_set_same here same]
  exact held

theorem fifo_send (other : ¬ f.IsData) (held : dataOf b s.bus ++ s.pendingOf b = queued) :
    dataOf b (s.send f).bus ++ (s.send f).pendingOf b = queued := by
  rw [dataOf_send_other other, pendingOf_send]
  exact held

end Fifo

theorem Effect.fifo (effect : Effect maxMaster s a s')
    (held : dataOf b s.bus ++ s.pendingOf b = outbound b past) :
    dataOf b s'.bus ++ s'.pendingOf b = outbound b (a :: past) := by
  cases effect with
  | @joined c absent inside =>
    change dataOf b s.bus ++ _ = outbound b past
    by_cases own : b = c
    · subst own
      rw [← held, pendingOf_set_self, pendingOf, absent]
      rfl
    · rw [pendingOf_set_other own]
      exact held
  | started here phase other => exact fifo_set here rfl held
  | bootstrapped here phase => exact fifo_send (token_not_data _ _) (fifo_set here rfl held)
  | @enqueued c m destination npdu here =>
    rw [outbound]
    by_cases own : c = b
    · subst own
      rw [if_pos rfl, ← held, pendingOf_set_self, pendingOf_eq here, List.append_assoc]
      rfl
    · rw [if_neg own, pendingOf_set_other (Ne.symm own)]
      exact held
  | tokenReceived here phase unread mine => exact fifo_set here rfl held
  | polled here phase unread other => exact fifo_send (reply_not_data _ _) (fifo_set here rfl held)
  | ignored here phase unread other => exact fifo_set here rfl held
  | lagged lost here phase => exact fifo_set here rfl held
  | @dataSent c m destination npdu rest here phase pending =>
    change dataOf b (s.bus ++ [dataFrame destination c npdu]) ++ _ = outbound b past
    rw [← held, pendingOf_send, dataOf_append, dataOf_dataFrame]
    by_cases own : c = b
    · subst own
      rw [if_pos rfl, pendingOf_set_self, pendingOf_eq here, pending, List.append_assoc]
      rfl
    · rw [if_neg own, pendingOf_set_other (Ne.symm own), List.append_nil]
  | nothingPending here phase pending => exact fifo_set here rfl held
  | passed here phase => exact fifo_send (token_not_data _ _) (fifo_set here rfl held)
  | waited here phase other => exact held
  | restarted here phase => exact fifo_send (token_not_data _ _) held

theorem Effect.sends (effect : Effect maxMaster s a s') :
    ∃ sent, s'.bus = s.bus ++ sent ∧ ∀ f ∈ sent, f.IsData → s.Holds f.source := by
  have quiet : ∃ sent, s.bus = s.bus ++ sent ∧ ∀ f ∈ sent, f.IsData → s.Holds f.source :=
    ⟨[], (List.append_nil _).symm, nofun⟩
  have other : ∀ f : MstpFrame, ¬ f.IsData →
      ∃ sent, s.bus ++ [f] = s.bus ++ sent ∧ ∀ f ∈ sent, f.IsData → s.Holds f.source := by
    intro f control
    refine ⟨[f], rfl, fun g mem data => ?_⟩
    cases List.mem_singleton.mp mem
    exact absurd data control
  cases effect with
  | bootstrapped | passed | restarted => exact other _ (token_not_data _ _)
  | polled => exact other _ (reply_not_data _ _)
  | @dataSent c m destination npdu rest here phase pending =>
    refine ⟨[dataFrame destination c npdu], rfl, fun f mem _ => ?_⟩
    cases List.mem_singleton.mp mem
    exact ⟨m, here, by rw [phase]; trivial⟩
  | _ => exact quiet

end MstpRing

def RingAction.receipt : RingAction → Option UInt8
  | .receive b f => if f.IsTokenFor b then some b else none
  | _ => none

def receipts (past : List RingAction) : List UInt8 := past.filterMap RingAction.receipt

namespace MstpRing
variable {maxMaster : MaxMaster} {s s' : MstpRing} {a : RingAction} {b c : UInt8} {m m' : Master}
variable {f : MstpFrame} {past : List RingAction}

theorem receipts_none (receipt : a.receipt = none) : receipts (a :: past) = receipts past :=
  List.filterMap_cons_none receipt

theorem receipts_some (receipt : a.receipt = some b) : receipts (a :: past) = b :: receipts past :=
  List.filterMap_cons_some receipt

theorem receipts_token (mine : f.IsTokenFor b) : receipts [.receive b f] = [b] :=
  receipts_some (if_pos mine)

/-- The data frames that a master may send before it next receives the token. -/
def credit (s : MstpRing) (b : UInt8) : Nat := if s.phaseOf b = some .useToken then 1 else 0

theorem credit_set_le (here : s.masters c = some m)
    (keeps : m'.phase = .useToken → m.phase = .useToken) : (s.set c m').credit b ≤ s.credit b := by
  unfold credit
  by_cases own : b = c
  · subst own
    rw [phaseOf_set_self, phaseOf_eq here]
    split
    · rename_i using_
      rw [if_pos (congrArg some (keeps (Option.some.inj using_)))]
    · exact Nat.zero_le _
  · rw [phaseOf_set_other own]

theorem credit_send (f : MstpFrame) : (s.send f).credit b = s.credit b := by
  rw [credit, credit, phaseOf_send]

theorem credit_joined (absent : s.masters c = none) : (s.set c {}).credit b ≤ s.credit b := by
  unfold credit
  by_cases own : b = c
  · subst own
    rw [phaseOf_set_self]
    exact Nat.zero_le _
  · rw [phaseOf_set_other own]

theorem Effect.credit (effect : Effect maxMaster s a s') (b : UInt8) :
    (dataOf b s'.bus).length + s'.credit b ≤
      (dataOf b s.bus).length + s.credit b + (receipts [a]).count b := by
  have local_ : ∀ {t : MstpRing}, dataOf b t.bus = dataOf b s.bus → t.credit b ≤ s.credit b →
      (dataOf b t.bus).length + t.credit b ≤
        (dataOf b s.bus).length + s.credit b + (receipts [a]).count b := by
    intro t same less
    rw [same]
    omega
  cases effect with
  | joined absent inside => exact local_ rfl (credit_joined absent)
  | started here phase other => exact local_ rfl (credit_set_le here nofun)
  | bootstrapped here phase =>
    refine local_ (dataOf_send_other (token_not_data _ _)) ?_
    rw [credit_send]
    exact credit_set_le here nofun
  | enqueued destination npdu here => exact local_ rfl (credit_set_le here id)
  | @tokenReceived c m f rest here phase unread mine =>
    rw [receipts_token mine, List.count_singleton]
    change (dataOf b s.bus).length + _ ≤ _
    by_cases own : b = c
    · subst own
      have most : ∀ t : MstpRing, t.credit b ≤ 1 := by
        intro t
        unfold MstpRing.credit
        split <;> decide
      rw [beq_self_eq_true, if_pos rfl]
      have after := most (s.set b { m with
        unread := rest
        phase := .useToken
        tokenReceivedCount := m.tokenReceivedCount + 1 })
      omega
    · have same : ∀ m', (s.set c m').credit b = s.credit b := by
        intro m'
        rw [MstpRing.credit, MstpRing.credit, phaseOf_set_other own]
      rw [same]
      exact Nat.le_add_right _ _
  | polled here phase unread other =>
    refine local_ (dataOf_send_other (reply_not_data _ _)) ?_
    rw [credit_send]
    exact credit_set_le here id
  | ignored here phase unread other => exact local_ rfl (credit_set_le here id)
  | lagged lost here phase => exact local_ rfl (credit_set_le here id)
  | @dataSent c m destination npdu rest here phase pending =>
    change (dataOf b (s.bus ++ [dataFrame destination c npdu])).length + _ ≤ _
    rw [credit_send, dataOf_append, dataOf_dataFrame, List.length_append]
    by_cases own : c = b
    · subst own
      have before : s.credit c = 1 := by
        rw [MstpRing.credit, phaseOf_eq here, phase]
        rfl
      have after : ∀ m' : Master, m'.phase = .passToken → (s.set c m').credit c = 0 := by
        intro m' passing
        rw [MstpRing.credit, phaseOf_set_self, passing]
        rfl
      rw [if_pos rfl, before, after _ rfl]
      exact Nat.le_add_right _ _
    · have less : (s.set c { m with phase := .passToken, pending := rest }).credit b ≤ s.credit b :=
        credit_set_le here nofun
      rw [if_neg own]
      exact Nat.le_add_right_of_le (Nat.add_le_add_left less _)
  | nothingPending here phase pending => exact local_ rfl (credit_set_le here nofun)
  | passed here phase =>
    refine local_ (dataOf_send_other (token_not_data _ _)) ?_
    rw [credit_send]
    exact credit_set_le here nofun
  | waited here phase other => exact local_ rfl (Nat.le_refl _)
  | restarted here phase =>
    refine local_ (dataOf_send_other (token_not_data _ _)) ?_
    rw [credit_send]

theorem count_receipts_cons (a : RingAction) (past : List RingAction) (b : UInt8) :
    (receipts (a :: past)).count b = (receipts [a]).count b + (receipts past).count b := by
  rw [← List.count_append, receipts, receipts, receipts, ← List.filterMap_append]
  rfl

theorem data_le_receipts {later : List RingAction}
    (run : reached (next maxMaster) s later = some s') (b : UInt8) :
    (dataOf b s'.bus).length + s'.credit b ≤
      (dataOf b s.bus).length + s.credit b + (receipts later).count b := by
  refine reached_invariant (I := fun later s' => (dataOf b s'.bus).length + s'.credit b ≤
    (dataOf b s.bus).length + s.credit b + (receipts later).count b) (Nat.le_refl _) ?_ run
  intro past before a after held taken
  have spent := (next_effect taken).credit b
  rw [count_receipts_cons]
  omega

def receivedCount (s : MstpRing) (b : UInt8) : UInt64 :=
  ((s.masters b).map (·.tokenReceivedCount)).getD 0

theorem receivedCount_send (f : MstpFrame) :
    (s.send f).receivedCount b = s.receivedCount b :=
  congrArg (·.getD 0) (map_masters_send (g := Master.tokenReceivedCount) (fun _ _ => rfl) f b)

theorem receivedCount_set (here : s.masters c = some m)
    (same : m'.tokenReceivedCount = m.tokenReceivedCount) :
    (s.set c m').receivedCount b = s.receivedCount b :=
  congrArg (·.getD 0) (map_masters_set (g := Master.tokenReceivedCount) here same)

theorem Effect.receivedCount (effect : Effect maxMaster s a s') (b : UInt8) :
    s'.receivedCount b = s.receivedCount b + UInt64.ofNat ((receipts [a]).count b) := by
  have quiet : ∀ t : MstpRing, a.receipt = none → t.receivedCount b = s.receivedCount b →
      t.receivedCount b = s.receivedCount b + UInt64.ofNat ((receipts [a]).count b) := by
    intro t none same
    rw [same, receipts_none none]
    exact (UInt64.add_zero _).symm
  cases effect with
  | @joined c absent inside =>
    refine quiet _ rfl ?_
    by_cases own : b = c
    · subst own
      rw [MstpRing.receivedCount, MstpRing.receivedCount, masters_set_self, absent]
      rfl
    · rw [MstpRing.receivedCount, MstpRing.receivedCount, masters_set_other own]
  | started here | enqueued _ _ here | lagged _ here | nothingPending here =>
    exact quiet _ rfl (receivedCount_set here rfl)
  | bootstrapped here | dataSent here | passed here =>
    exact quiet _ rfl ((receivedCount_send _).trans (receivedCount_set here rfl))
  | @tokenReceived c m f rest here phase unread mine =>
    rw [receipts_token mine, List.count_singleton]
    by_cases own : b = c
    · subst own
      rw [MstpRing.receivedCount, MstpRing.receivedCount, masters_set_self, here, beq_self_eq_true]
      rfl
    · rw [MstpRing.receivedCount, MstpRing.receivedCount, masters_set_other own,
        if_neg (by simpa using Ne.symm own)]
      exact (UInt64.add_zero _).symm
  | polled here phase unread other =>
    exact quiet _ (if_neg other) ((receivedCount_send _).trans (receivedCount_set here rfl))
  | ignored here phase unread other => exact quiet _ (if_neg other) (receivedCount_set here rfl)
  | waited => exact quiet _ rfl rfl
  | restarted => exact quiet _ rfl (receivedCount_send _)

theorem tokens_joined (addresses : Finset UInt8) : (joined addresses).tokens = 0 := by
  funext b
  rw [tokens, masters_joined]
  split <;> rfl

theorem oneToken {addresses : Finset UInt8}
    (run : reached (next maxMaster) (joined addresses) past = some s)
    (restarts : EachStep (next maxMaster) (joined addresses) RestartsLost past) : OneToken s := by
  refine each_induction (I := fun _ s => OneToken s) ?_ ?_ run restarts
  · have none := tokens_joined addresses
    exact ⟨⟨0, fun c => none ▸ Nat.zero_le _⟩, fun _ => none⟩
  · intro past before a after _ one restart taken
    exact one.step (next_effect taken) restart

theorem fifo {addresses : Finset UInt8}
    (run : reached (next maxMaster) (joined addresses) past = some s) (b : UInt8) :
    dataOf b s.bus ++ s.pendingOf b = outbound b past := by
  refine reached_invariant (I := fun past s => dataOf b s.bus ++ s.pendingOf b = outbound b past)
    ?_ ?_ run
  · rw [pendingOf, masters_joined]
    split <;> rfl
  · intro past before a after held taken
    exact (next_effect taken).fifo held

theorem receivedCount_eq {addresses : Finset UInt8}
    (run : reached (next maxMaster) (joined addresses) past = some s) (b : UInt8) :
    s.receivedCount b = UInt64.ofNat ((receipts past).count b) := by
  refine reached_invariant (I := fun past s => s.receivedCount b =
    UInt64.ofNat ((receipts past).count b)) ?_ ?_ run
  · rw [receivedCount, masters_joined]
    split <;> rfl
  · intro past before a after held taken
    have total := count_receipts_cons a past b
    rw [(next_effect taken).receivedCount b, held, total, Nat.add_comm, UInt64.ofNat_add]

/-- While master 0 restarts the ring only when the token is lost: there is one token at most;
every data frame is sent by the holder; at most one follows each receipt; and each master
sends what was queued at it, in order and once. -/
theorem token_ring_safe {addresses : Finset UInt8}
    (run : reached (next maxMaster) (joined addresses) past = some s)
    (restarts : EachStep (next maxMaster) (joined addresses) RestartsLost past) :
    Throughout (next maxMaster) (joined addresses) (fun _ s => AtMostOne s.tokens) past ∧
      (∀ a earlier before after, a :: earlier <:+ past →
        reached (next maxMaster) (joined addresses) earlier = some before →
        next maxMaster before a = some after →
        ∃ sent, after.bus = before.bus ++ sent ∧ ∀ f ∈ sent, f.IsData → before.Holds f.source) ∧
      (∀ b later earlier before, past = later ++ earlier →
        reached (next maxMaster) (joined addresses) earlier = some before →
        (dataOf b s.bus).length ≤
          (dataOf b before.bus).length + before.credit b + (receipts later).count b) ∧
      ∀ b, dataOf b s.bus ++ s.pendingOf b = outbound b past := by
  refine ⟨?_, ?_, ?_, fifo run⟩
  · intro earlier before part ran
    exact (oneToken ran (restarts.earlier part)).atMostOne
  · intro a earlier before after _ _ taken
    exact (next_effect taken).sends
  · intro b later earlier before split ran
    rw [split, reached_append, ran] at run
    exact (Nat.le_add_right _ _).trans (data_le_receipts run b)

def dataRun : List RingAction :=
  [.passToken 0, .drain 0, .receive 0 (tokenFrame 0 0), .enqueue 0 1 [0x01, 0x00], .run 0]

theorem dataRun_safe :
    ∃ s, reached (next ⟨1, by decide⟩) (joined {0, 1}) dataRun = some s ∧
      s.bus = [tokenFrame 0 0, dataFrame 1 0 [0x01, 0x00], tokenFrame 1 0] ∧
      Throughout (next ⟨1, by decide⟩) (joined {0, 1}) (fun _ s => AtMostOne s.tokens) dataRun := by
  have trace : (reached (next ⟨1, by decide⟩) (joined {0, 1}) dataRun).map MstpRing.bus =
      some [tokenFrame 0 0, dataFrame 1 0 [0x01, 0x00], tokenFrame 1 0] := by
    decide +kernel
  obtain ⟨s, run, bus⟩ := Option.map_eq_some_iff.mp trace
  refine ⟨s, run, bus, (token_ring_safe run (each_of_forall ?_)).1⟩
  intro a mem earlier s
  cases a with
  | ringTimeout b => simp [dataRun] at mem
  | _ => trivial

end MstpRing

end BacnetSim
