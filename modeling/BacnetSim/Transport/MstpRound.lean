import BacnetSim.Transport.MstpToken
import Mathlib.Data.List.Chain

/-! The order in which the masters receive the token, and which of them a round leaves out. -/
namespace BacnetSim
open Rust Transitions

namespace MstpRing
variable {maxMaster : MaxMaster} {s s' : MstpRing} {a : RingAction} {b c : UInt8} {m m' : Master}
variable {f : MstpFrame} {past : List RingAction} {addresses : Finset UInt8}

theorem holds_send (f : MstpFrame) : (s.send f).Holds b ↔ s.Holds b := by
  unfold Holds
  rw [masters_send]
  cases s.masters b <;> simp

theorem holds_set_self : (s.set b m).Holds b ↔ m.phase.Holds := by
  simp [Holds, masters_set_self]

theorem holds_set_other (other : c ≠ b) : (s.set b m).Holds c ↔ s.Holds c := by
  simp [Holds, masters_set_other other]

theorem holds_eq (here : s.masters b = some m) : s.Holds b ↔ m.phase.Holds := by
  simp [Holds, here]

theorem holds_set_same (here : s.masters c = some m) (same : m'.phase.Holds ↔ m.phase.Holds) :
    (s.set c m').Holds b ↔ s.Holds b := by
  by_cases own : b = c
  · subst own
    rw [holds_set_self, same, holds_eq here]
  · exact holds_set_other own

theorem Effect.holds (effect : Effect maxMaster s a s') (b : UInt8) :
    s'.Holds b ↔ s.Holds b ∧ a ≠ .passToken b ∨ a.receipt = some b := by
  have quiet : ∀ t : MstpRing, (t.Holds b ↔ s.Holds b) → a ≠ .passToken b → a.receipt = none →
      (t.Holds b ↔ s.Holds b ∧ a ≠ .passToken b ∨ a.receipt = some b) := by
    intro t same other none
    rw [same, none, and_iff_left other]
    simp
  cases effect with
  | @joined c absent inside =>
    refine quiet _ ?_ (by simp) rfl
    by_cases own : b = c
    · subst own
      rw [holds_set_self]
      simp [Holds, absent, MasterPhase.Holds]
    · exact holds_set_other own
  | started here phase other =>
    exact quiet _ (holds_set_same here (by rw [phase]; rfl)) (by simp) rfl
  | bootstrapped here phase =>
    exact quiet _ ((holds_send _).trans (holds_set_same here (by rw [phase]; rfl))) (by simp) rfl
  | enqueued destination npdu here => exact quiet _ (holds_set_same here .rfl) (by simp) rfl
  | @tokenReceived c m f rest here phase unread mine =>
    have receipt : RingAction.receipt (.receive c f) = some c := if_pos mine
    rw [receipt]
    by_cases own : b = c
    · subst own
      rw [holds_set_self]
      exact iff_of_true trivial (.inr rfl)
    · rw [holds_set_other own]
      simp [Ne.symm own]
  | polled here phase unread other =>
    exact quiet _ ((holds_send _).trans (holds_set_same here .rfl)) (by simp) (if_neg other)
  | ignored here phase unread other =>
    exact quiet _ (holds_set_same here .rfl) (by simp) (if_neg other)
  | lagged lost here phase => exact quiet _ (holds_set_same here .rfl) (by simp) rfl
  | dataSent here phase pending =>
    exact quiet _ ((holds_send _).trans (holds_set_same here (by rw [phase]; rfl))) (by simp) rfl
  | nothingPending here phase pending =>
    exact quiet _ (holds_set_same here (by rw [phase]; rfl)) (by simp) rfl
  | @passed c m here phase =>
    by_cases own : b = c
    · subst own
      rw [holds_send, holds_set_self]
      exact iff_of_false id (by simp [RingAction.receipt])
    · refine quiet _ ((holds_send _).trans (holds_set_other own)) ?_ rfl
      rintro ⟨⟩
      exact own rfl
  | waited here phase other => exact quiet _ .rfl (by simp) rfl
  | restarted here phase => exact quiet _ (holds_send _) (by simp) rfl

theorem Effect.member (effect : Effect maxMaster s a s') (settled : ∀ c, a ≠ .join c) (b : UInt8) :
    (s'.masters b).isSome = (s.masters b).isSome := by
  have there : (s'.masters b).map (fun _ => ()) = (s.masters b).map (fun _ => ()) := by
    cases effect with
    | joined absent inside => exact absurd rfl (settled _)
    | started here | enqueued _ _ here | tokenReceived here | ignored here | lagged _ here
    | nothingPending here => exact map_masters_set here rfl
    | bootstrapped here | polled here | dataSent here | passed here =>
      exact (map_masters_send (fun _ _ => rfl) _ b).trans (map_masters_set here rfl)
    | waited => rfl
    | restarted => exact map_masters_send (fun _ _ => rfl) _ b
  have same := congrArg Option.isSome there
  rwa [Option.isSome_map, Option.isSome_map] at same

theorem Effect.receipt (effect : Effect maxMaster s a s') (received : a.receipt = some b) :
    1 ≤ s.tokens b ∧ ¬ s.Holds b ∧ (s.masters b).isSome := by
  cases effect with
  | @tokenReceived c m f rest here phase unread mine =>
    have same : c = b := by
      rw [RingAction.receipt, if_pos mine] at received
      exact Option.some.inj received
    subst same
    refine ⟨?_, ?_, by rw [here]; rfl⟩
    · rw [tokens_eq here, Master.tokens, unread, List.countP_cons_of_pos (by simpa using mine)]
      omega
    · rw [holds_eq here, phase]
      exact id
  | polled here phase unread other =>
    rw [RingAction.receipt, if_neg other] at received
    cases received
  | ignored here phase unread other =>
    rw [RingAction.receipt, if_neg other] at received
    cases received
  | _ => cases received

/-- After `k` the token goes to the next station, or to master 0 when there is no such station. -/
def Succeeds (maxMaster : MaxMaster) (addresses : Finset UInt8) (b k : UInt8) : Prop :=
  b = nextStation maxMaster k ∨ b = 0 ∧ nextStation maxMaster k ∉ addresses

def Due (maxMaster : MaxMaster) (addresses : Finset UInt8) (received : List UInt8) (b : UInt8) : Prop :=
  ∀ k ∈ received.head?, Succeeds maxMaster addresses b k

inductive Progress (maxMaster : MaxMaster) (addresses : Finset UInt8) (s : MstpRing) :
    List UInt8 → Prop
  | waiting (none : s.tokens = 0) : Progress maxMaster addresses s []
  | held {b : UInt8} {received : List UInt8} (booted : s.Booted) (holds : s.Holds b)
    (one : ∀ c, s.tokens c = if c = b then 1 else 0) :
    Progress maxMaster addresses s (b :: received)
  | inFlight {b : UInt8} {received : List UInt8} (booted : s.Booted) (unread : ¬ s.Holds b)
    (one : ∀ c, s.tokens c = if c = b then 1 else 0) (due : Due maxMaster addresses received b) :
    Progress maxMaster addresses s received
  | lost {k : UInt8} {received : List UInt8} (booted : s.Booted) (none : s.tokens = 0)
    (absent : nextStation maxMaster k ∉ addresses) : Progress maxMaster addresses s (k :: received)

theorem eq_of_token {d : UInt8} (one : ∀ c, s.tokens c = if c = d then 1 else 0)
    (some_ : 1 ≤ s.tokens b) : b = d := by
  by_contra other
  rw [one b, if_neg other] at some_
  cases some_

theorem not_holds (none : s.tokens = 0) (b : UInt8) : ¬ s.Holds b := by
  intro holds
  have some_ := holds.tokens
  rw [none] at some_
  cases some_

theorem Effect.not_holds (effect : Effect maxMaster s a s') (none : s.tokens = 0)
    (receipt : a.receipt = .none) (b : UInt8) : ¬ s'.Holds b := by
  intro after
  rcases (effect.holds b).mp after with ⟨before, _⟩ | received
  · exact MstpRing.not_holds none b before
  · rw [receipt] at received
    cases received

theorem Progress.quiet {received : List UInt8} (progress : Progress maxMaster addresses s received)
    (effect : Effect maxMaster s a s') (same : s'.tokens = s.tokens)
    (other : ∀ b, a ≠ .passToken b) (receipt : a.receipt = none) :
    Progress maxMaster addresses s' received := by
  have holds : ∀ b, s'.Holds b ↔ s.Holds b := by
    intro b
    rw [effect.holds b, receipt, and_iff_left (other b)]
    simp
  cases progress with
  | waiting none => exact .waiting (same.trans none)
  | held booted held one => exact .held (effect.booted booted) ((holds _).mpr held) (same ▸ one)
  | inFlight booted unread one due =>
    exact .inFlight (effect.booted booted) (fun held => unread ((holds _).mp held)) (same ▸ one) due
  | lost booted none absent => exact .lost (effect.booted booted) (same.trans none) absent

theorem Progress.receive {received : List UInt8}
    (progress : Progress maxMaster addresses s received) (effect : Effect maxMaster s a s')
    (same : s'.tokens = s.tokens) (receipt : a.receipt = some b) :
    Progress maxMaster addresses s' (b :: received) ∧ Due maxMaster addresses received b := by
  obtain ⟨some_, unread, _⟩ := effect.receipt receipt
  cases progress with
  | waiting none =>
    rw [none] at some_
    cases some_
  | held booted held one =>
    cases eq_of_token one some_
    exact absurd held unread
  | inFlight booted _ one due =>
    cases eq_of_token one some_
    exact ⟨.held (effect.booted booted) ((effect.holds b).mpr (.inr receipt)) (same ▸ one), due⟩
  | lost booted none absent =>
    rw [none] at some_
    cases some_

theorem Progress.pass {received : List UInt8} (progress : Progress maxMaster addresses s received)
    (member : ∀ c, (s.masters c).isSome ↔ c ∈ addresses)
    (effect : Effect maxMaster s (.passToken b) s') (holds : s.Holds b)
    (moved : ∀ c, s'.tokens c + (if c = b then 1 else 0) =
      s.tokens c + s.arrives (tokenFrame (nextStation maxMaster b) b) c) :
    Progress maxMaster addresses s' received := by
  have some_ := holds.tokens
  cases progress with
  | waiting none => exact absurd holds (not_holds none b)
  | lost booted none absent => exact absurd holds (not_holds none b)
  | inFlight booted unread one due =>
    cases eq_of_token one some_
    exact absurd holds unread
  | held booted held one =>
    cases eq_of_token one some_
    have left : ∀ c, s'.tokens c =
        if c = nextStation maxMaster b ∧ nextStation maxMaster b ∈ addresses then 1 else 0 := by
      intro c
      have move := moved c
      rw [one c, arrives_tokenFrame] at move
      simp only [member] at move
      omega
    by_cases there : nextStation maxMaster b ∈ addresses
    · refine .inFlight (b := nextStation maxMaster b) (effect.booted booted) ?_ (fun c => ?_) ?_
      · intro after
        rcases (effect.holds _).mp after with ⟨before, other⟩ | receipt
        · have same := eq_of_token one before.tokens
          rw [same] at other
          exact other rfl
        · cases receipt
      · simp only [left c, there, and_true]
      · rintro k ⟨⟩
        exact .inl rfl
    · refine .lost (effect.booted booted) (funext fun c => ?_) there
      rw [left c, if_neg fun both => there both.2]
      rfl

theorem Progress.bootstrap {received : List UInt8}
    (progress : Progress maxMaster addresses s received) (effect : Effect maxMaster s (.run 0) s')
    (phase : s.phaseOf 0 = some .initializing) (after : s'.phaseOf 0 = some .idle)
    (more : ∀ c, s'.tokens c = s.tokens c + if c = 0 then 1 else 0) :
    Progress maxMaster addresses s' received := by
  have stopped : ¬ s.Booted := by
    rintro ⟨p, phase', other⟩
    exact other (Option.some.inj (phase'.symm.trans phase))
  cases progress with
  | waiting none =>
    refine .inFlight ⟨.idle, after, nofun⟩ (effect.not_holds none rfl 0) (fun c => ?_) nofun
    rw [more, none]
    exact Nat.zero_add _
  | held booted _ _ => exact absurd booted stopped
  | inFlight booted _ _ _ => exact absurd booted stopped
  | lost booted _ _ => exact absurd booted stopped

theorem Progress.restart {received : List UInt8}
    (progress : Progress maxMaster addresses s received)
    (effect : Effect maxMaster s (.ringTimeout 0) s') (phase : s.phaseOf 0 = some .idle)
    (none : s.tokens = 0) (more : ∀ c, s'.tokens c = s.tokens c + if c = 0 then 1 else 0) :
    Progress maxMaster addresses s' received := by
  have booted : s'.Booted := effect.booted ⟨.idle, phase, nofun⟩
  have unread : ¬ s'.Holds 0 := effect.not_holds none rfl 0
  have one : ∀ c, s'.tokens c = if c = 0 then 1 else 0 := by
    intro c
    rw [more, none]
    exact Nat.zero_add _
  have gone : ∀ b, s.tokens b ≠ 1 := by
    intro b some_
    rw [none] at some_
    cases some_
  cases progress with
  | waiting _ => exact .inFlight booted unread one nofun
  | held _ _ held => exact absurd ((held _).trans (if_pos rfl)) (gone _)
  | inFlight _ _ flying _ => exact absurd ((flying _).trans (if_pos rfl)) (gone _)
  | lost _ _ absent =>
    refine .inFlight booted unread one ?_
    rintro k ⟨⟩
    exact .inr ⟨rfl, absent⟩

structure Rounds (maxMaster : MaxMaster) (addresses : Finset UInt8) (past : List RingAction)
    (s : MstpRing) : Prop where
  member : ∀ b, (s.masters b).isSome ↔ b ∈ addresses
  progress : Progress maxMaster addresses s (receipts past)
  chain : (receipts past).IsChain (Succeeds maxMaster addresses)
  inside : ∀ b ∈ receipts past, b ∈ addresses

theorem Rounds.other {s' : MstpRing} (rounds : Rounds maxMaster addresses past s)
    (effect : Effect maxMaster s a s') (settled : ∀ b, a ≠ .join b) (receipt : a.receipt = none)
    (progress : Progress maxMaster addresses s' (receipts past)) :
    Rounds maxMaster addresses (a :: past) s' where
  member b := by rw [effect.member settled b, rounds.member b]
  progress := by rwa [receipts_none receipt]
  chain := by
    rw [receipts_none receipt]
    exact rounds.chain
  inside := by
    rw [receipts_none receipt]
    exact rounds.inside

theorem Rounds.step (rounds : Rounds maxMaster addresses past s) (effect : Effect maxMaster s a s')
    (restarts : RestartsLost past s a) (settled : ∀ b, a ≠ .join b) (prompt : ∀ b, a ≠ .lagged b) :
    Rounds maxMaster addresses (a :: past) s' := by
  cases effect.tokenFlow with
  | stays same other =>
    cases receipt : a.receipt with
    | none =>
      exact rounds.other effect settled receipt (rounds.progress.quiet effect same other receipt)
    | some b =>
      obtain ⟨progress, due⟩ := rounds.progress.receive effect same receipt
      constructor
      · intro c
        rw [effect.member settled c, rounds.member c]
      · rwa [receipts_some receipt]
      · rw [receipts_some receipt]
        exact List.isChain_cons.mpr ⟨due, rounds.chain⟩
      · rw [receipts_some receipt]
        intro c mem
        rcases List.mem_cons.mp mem with rfl | earlier
        · exact (rounds.member c).mp (effect.receipt receipt).2.2
        · exact rounds.inside c earlier
  | lost fewer => exact absurd rfl (prompt _)
  | passed holds moved =>
    exact rounds.other effect settled rfl (rounds.progress.pass rounds.member effect holds moved)
  | bootstrapped phase after more =>
    exact rounds.other effect settled rfl (rounds.progress.bootstrap effect phase after more)
  | restarted phase more =>
    exact rounds.other effect settled rfl
      (rounds.progress.restart effect phase (restarts rfl) more)

theorem reached_rounds (run : reached (next maxMaster) (joined addresses) past = some s)
    (restarts : EachStep (next maxMaster) (joined addresses) RestartsLost past)
    (settled : ∀ b, .join b ∉ past) (prompt : ∀ b, .lagged b ∉ past) :
    Rounds maxMaster addresses past s := by
  refine each_induction (I := fun past s => (∀ b, .join b ∉ past) → (∀ b, .lagged b ∉ past) →
    Rounds maxMaster addresses past s) ?_ ?_ run restarts settled prompt
  · intro _ _
    refine ⟨fun b => ?_, .waiting (tokens_joined addresses), .nil, nofun⟩
    rw [masters_joined]
    split <;> simp_all
  · intro past before a after _ rounds restart taken settled prompt
    have rounds := rounds (fun b mem => settled b (List.mem_cons_of_mem a mem))
      (fun b mem => prompt b (List.mem_cons_of_mem a mem))
    refine rounds.step (next_effect taken) restart ?_ ?_
    · rintro b rfl
      exact settled b List.mem_cons_self
    · rintro b rfl
      exact prompt b List.mem_cons_self

theorem nextStation_toNat {k : UInt8} (inside : k ≤ maxMaster) :
    (nextStation maxMaster k).toNat = if k = maxMaster then 0 else k.toNat + 1 := by
  obtain ⟨max, small⟩ := maxMaster
  have small : max.toNat ≤ 254 := small
  have inside : k.toNat ≤ max.toNat := inside
  have number : (nextStation ⟨max, small⟩ k).toNat = (k.toNat + 1) % (max.toNat + 1) := by
    simp only [nextStation, UInt8.toNat_mod, UInt8.toNat_add]
    have left : (k.toNat + 1) % 256 = k.toNat + 1 := Nat.mod_eq_of_lt (by omega)
    have right : (max.toNat + 1) % 256 = max.toNat + 1 := Nat.mod_eq_of_lt (by omega)
    change (k.toNat + 1) % 256 % ((max.toNat + 1) % 256) = _
    rw [left, right]
  rw [number]
  by_cases last : k = max
  · subst last
    rw [if_pos rfl, Nat.mod_self]
  · have less : k.toNat ≠ max.toNat := fun same => last (UInt8.toNat_inj.mp same)
    rw [if_neg last, Nat.mod_eq_of_lt (by omega)]

/-- The receipts between two of master 0 are those of 1, 2 and so on, up to the last one. -/
theorem between_receipts {between earlier : List UInt8}
    (chain : (between ++ 0 :: earlier).IsChain (Succeeds maxMaster addresses))
    (inside : ∀ b ∈ between, b ≤ maxMaster) (first : 0 ∉ between) :
    ∃ last, (between ++ 0 :: earlier).head? = some last ∧ last ≤ maxMaster ∧
      ∀ b, b ∈ between ↔ b ≠ 0 ∧ b ≤ last := by
  induction between with
  | nil => exact ⟨0, rfl, by simp, by simp⟩
  | cons next between ih =>
    rw [List.cons_append, List.isChain_cons] at chain
    obtain ⟨follows, chain⟩ := chain
    obtain ⟨last, latest, most, members⟩ := ih chain
      (fun b mem => inside b (List.mem_cons_of_mem next mem))
      (fun mem => first (List.mem_cons_of_mem next mem))
    have other : next ≠ 0 := fun zero => first (zero ▸ List.mem_cons_self)
    have succ : next = nextStation maxMaster last :=
      (follows last latest).resolve_right fun restart => other restart.1
    have value := nextStation_toNat most
    rw [← succ] at value
    have more : last ≠ maxMaster := by
      intro same
      rw [if_pos same] at value
      exact other (UInt8.toNat_inj.mp value)
    rw [if_neg more] at value
    refine ⟨next, rfl, inside next List.mem_cons_self, fun b => ?_⟩
    rw [List.mem_cons, members b, UInt8.le_iff_toNat_le, UInt8.le_iff_toNat_le, value]
    constructor
    · rintro (rfl | ⟨positive, upTo⟩)
      · exact ⟨other, Nat.le_of_eq value⟩
      · exact ⟨positive, Nat.le_succ_of_le upTo⟩
    · rintro ⟨positive, upTo⟩
      rcases Nat.le_succ_iff.mp upTo with before | last_
      · exact .inr ⟨positive, before⟩
      · exact .inl (UInt8.toNat_inj.mp (last_.trans value.symm))

/-- A master other than 0 receives the token between two consecutive receipts by master 0, as
all do, exactly when no address below that of a master is missing on the bus. -/
theorem none_skipped_iff (zero : 0 ∈ addresses) (legal : ∀ b ∈ addresses, b ≤ maxMaster)
    (run : reached (next maxMaster) (joined addresses) past = some s)
    (restarts : EachStep (next maxMaster) (joined addresses) RestartsLost past)
    (settled : ∀ b, .join b ∉ past) (prompt : ∀ b, .lagged b ∉ past)
    {later between earlier : List UInt8}
    (consecutive : receipts past = later ++ 0 :: (between ++ 0 :: earlier)) (first : 0 ∉ between) :
    (∀ b ∈ addresses, b ≠ 0 → b ∈ between) ↔ ∀ b ∈ addresses, ∀ c < b, c ∈ addresses := by
  have rounds := reached_rounds run restarts settled prompt
  have joined_ : ∀ b ∈ between, b ∈ addresses := by
    intro b mem
    apply rounds.inside
    rw [consecutive]
    simp [mem]
  have chain := rounds.chain
  rw [consecutive] at chain
  obtain ⟨follows, chain⟩ := List.isChain_cons.mp chain.right_of_append
  obtain ⟨last, latest, most, members⟩ :=
    between_receipts chain (fun b mem => legal b (joined_ b mem)) first
  constructor
  · intro all b mem c less
    have positive : b ≠ 0 := by
      rintro rfl
      exact absurd less (Nat.not_lt_zero _)
    have upTo := ((members b).mp (all b mem positive)).2
    by_cases start : c = 0
    · exact start ▸ zero
    · exact joined_ c ((members c).mpr ⟨start, UInt8.le_trans (UInt8.le_of_lt less) upTo⟩)
  · intro whole b mem positive
    refine (members b).mpr ⟨positive, ?_⟩
    by_contra beyond
    have more : last ≠ maxMaster := fun same => beyond (same ▸ legal b mem)
    have value := nextStation_toNat most
    rw [if_neg more] at value
    have there : nextStation maxMaster last ∈ addresses := by
      have upTo : (nextStation maxMaster last).toNat ≤ b.toNat := by
        rw [UInt8.le_iff_toNat_le] at beyond
        omega
      rcases Nat.lt_or_eq_of_le upTo with less | same
      · exact whole b mem _ less
      · exact UInt8.toNat_inj.mp same ▸ mem
    rcases follows last latest with wrap | restart
    · rw [← wrap] at value
      cases value
    · exact restart.2 there

def roundRun : List RingAction :=
  [.receive 0 (tokenFrame 0 1), .receive 0 (tokenFrame 1 0), .passToken 1, .drain 1,
    .receive 1 (tokenFrame 1 0), .receive 1 (tokenFrame 0 0), .passToken 0, .drain 0,
    .receive 0 (tokenFrame 0 0), .run 1, .run 0]

theorem roundRun_skips_none :
    receipts roundRun = [0, 1, 0] ∧
      ((∀ b ∈ ({0, 1} : Finset UInt8), b ≠ 0 → b ∈ ([1] : List UInt8)) ↔
        ∀ b ∈ ({0, 1} : Finset UInt8), ∀ c < b, c ∈ ({0, 1} : Finset UInt8)) := by
  have trace : (reached (next ⟨1, by decide⟩) (joined {0, 1}) roundRun).isSome = true := by
    decide +kernel
  obtain ⟨s, run⟩ := Option.isSome_iff_exists.mp trace
  refine ⟨by decide, none_skipped_iff (by decide) (by simp) run (each_of_forall ?_)
    (by simp [roundRun]) (by simp [roundRun])
    (show receipts roundRun = [] ++ 0 :: ([1] ++ 0 :: []) by decide) (by decide)⟩
  intro a mem earlier s
  cases a with
  | ringTimeout b => simp [roundRun] at mem
  | _ => trivial

/-- Master 0 passes the token to a station that is not there, and restarts the ring. -/
def gapRun : List RingAction :=
  [.receive 0 (tokenFrame 0 0), .receive 0 (tokenFrame 1 0), .ringTimeout 0,
    .passToken 0, .drain 0, .receive 0 (tokenFrame 0 0), .run 0]

def gapStart : List RingAction :=
  [.passToken 0, .drain 0, .receive 0 (tokenFrame 0 0), .run 0]

theorem gapRun_restarts :
    EachStep (next ⟨2, by decide⟩) (joined {0, 2}) RestartsLost gapRun := by
  intro a earlier before after part ran _
  cases a with
  | ringTimeout b =>
    intro _
    have same : b = 0 ∧ earlier = gapStart := by
      simpa [gapRun, gapStart, List.suffix_cons_iff] using part
    have trace : (reached (next ⟨2, by decide⟩) (joined {0, 2}) gapStart).map (fun s =>
        decide (∀ n : Fin 256, s.tokens (UInt8.ofNat n) = 0)) = some true := by
      decide +kernel
    rw [← same.2, ran, Option.map_some, Option.some.injEq, decide_eq_true_eq] at trace
    funext c
    have none := trace ⟨c.toNat, c.toNat_lt⟩
    rwa [UInt8.ofNat_toNat] at none
  | _ => trivial

theorem gapRun_skips_two :
    ¬ ∀ (maxMaster : MaxMaster) (addresses : Finset UInt8), 0 ∈ addresses →
      (∀ b ∈ addresses, b ≤ maxMaster) → ∀ (past : List RingAction) (s : MstpRing),
      reached (next maxMaster) (joined addresses) past = some s →
      EachStep (next maxMaster) (joined addresses) RestartsLost past →
      (∀ b, .join b ∉ past) → (∀ b, .lagged b ∉ past) →
      ∀ later between earlier : List UInt8,
        receipts past = later ++ 0 :: (between ++ 0 :: earlier) → 0 ∉ between →
        ∀ b ∈ addresses, b ≠ 0 → b ∈ between := by
  intro claim
  have trace : (reached (next ⟨2, by decide⟩) (joined {0, 2}) gapRun).isSome = true := by
    decide +kernel
  obtain ⟨s, run⟩ := Option.isSome_iff_exists.mp trace
  have mem := claim ⟨2, by decide⟩ {0, 2} (by decide) (by simp) gapRun s run gapRun_restarts
    (by simp [gapRun]) (by simp [gapRun]) [] [] [] (by decide) (by decide) 2 (by decide) (by decide)
  cases mem

end MstpRing

end BacnetSim
