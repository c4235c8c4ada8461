import BacnetSim.Engine.Cov
import BacnetSim.Lib.Simulation

/-! Runs of the subscription manager: what a history of calls leaves each subscriber with, whom
the next check notifies, and when a notification comes after the end of a subscription. -/
namespace BacnetSim
open Rust Ieee754

inductive CovCall where
  | subscribe (key : CovSubKey) (sub : CovSubscription)
  | unsubscribe (key : CovSubKey)
  | checkAndNotify (change : CovChange)
  | expireOld (now : Instant)

structure CovTurn where
  call : CovCall
  sent : List CovNotification

namespace CovEngine

def step (arith : RealArith) (e : CovEngine) : CovCall → CovTurn × CovEngine
  | .subscribe key sub => (⟨.subscribe key sub, []⟩, e.subscribe key sub)
  | .unsubscribe key => (⟨.unsubscribe key, []⟩, e.unsubscribe key)
  | .checkAndNotify c =>
    let (check, e) := e.checkAndNotify arith c
    (⟨.checkAndNotify c, check.sent⟩, e)
  | .expireOld now => (⟨.expireOld now, []⟩, e.expireOld now)

def run (arith : RealArith) (calls : List CovCall) : List CovTurn × CovEngine :=
  runSpec (step arith) new calls

end CovEngine

/-- What a turn makes of the subscription under a key. Its reference value follows what it was
notified of. -/
def CovTurn.carry (key : CovSubKey) (held : Option CovSubscription) (turn : CovTurn) :
    Option CovSubscription :=
  match turn.call with
  | .subscribe k sub => if k = key then some sub else held
  | .unsubscribe k => if k = key then none else held
  | .checkAndNotify c =>
    if key ∈ turn.sent.map CovNotification.key then held.map c.noted else held
  | .expireOld now => held.filter (·.isAlive now)

def current (key : CovSubKey) (turns : List CovTurn) : Option CovSubscription :=
  turns.foldl (CovTurn.carry key) none

theorem current_concat (key : CovSubKey) (turns : List CovTurn) (turn : CovTurn) :
    current key (turns ++ [turn]) = turn.carry key (current key turns) := by
  rw [current, List.foldl_append]
  rfl

namespace CovEngine
variable (arith : RealArith)

theorem lookup_step (e : CovEngine) (call : CovCall) (key : CovSubKey) :
    (e.step arith call).2.lookup key = (e.step arith call).1.carry key (e.lookup key) := by
  cases call with
  | subscribe k sub => exact e.lookup_subscribe k key sub
  | unsubscribe k => exact e.lookup_unsubscribe k key
  | checkAndNotify c =>
    change (e.checkAndNotify arith c).2.lookup key =
      if key ∈ (e.checkAndNotify arith c).1.sent.map CovNotification.key then
        (e.lookup key).map c.noted
      else e.lookup key
    rw [lookup_check]
    split
    · rename_i sent
      obtain ⟨sub, held, hits⟩ := (e.mem_keys_sent arith c).mp sent
      rw [held, Option.map_some, Option.map_some, CovChange.leaves, if_pos hits]
    · rename_i unsent
      cases held : e.lookup key with
      | none => rfl
      | some sub =>
        refine congrArg some (if_neg fun hits => unsent ?_)
        exact (e.mem_keys_sent arith c).mpr ⟨sub, held, hits⟩
  | expireOld now => exact e.lookup_expireOld now key

theorem lookup_step_cases {e : CovEngine} {call : CovCall} {key : CovSubKey} {sub : CovSubscription}
    (held : (e.step arith call).2.lookup key = some sub) :
    call = .subscribe key sub ∨
      (∃ c old, call = .checkAndNotify c ∧ e.lookup key = some old ∧ c.Hits arith key old ∧
        sub = c.noted old) ∨
      e.lookup key = some sub ∧ ∀ c, call = .checkAndNotify c → ¬ c.Hits arith key sub := by
  cases call with
  | subscribe k new =>
    rw [step, lookup_subscribe] at held
    split at held
    · rename_i same
      cases held
      exact .inl (by rw [same])
    · exact .inr (.inr ⟨held, fun _ check => by cases check⟩)
  | unsubscribe k =>
    rw [step, lookup_unsubscribe] at held
    split at held
    · cases held
    · exact .inr (.inr ⟨held, fun _ check => by cases check⟩)
  | checkAndNotify c =>
    simp only [step] at held
    rw [lookup_check] at held
    obtain ⟨old, was, rfl⟩ := Option.map_eq_some_iff.mp held
    by_cases hits : c.Hits arith key old
    · exact .inr (.inl ⟨c, old, rfl, was, hits, if_pos hits⟩)
    · refine .inr (.inr ?_)
      rw [CovChange.leaves, if_neg hits]
      refine ⟨was, fun d check => ?_⟩
      cases check
      exact hits
  | expireOld now =>
    rw [step, lookup_expireOld, Option.filter_eq_some_iff] at held
    exact .inr (.inr ⟨held.1, fun _ check => by cases check⟩)

theorem lookup_run (calls : List CovCall) (key : CovSubKey) :
    (run arith calls).2.lookup key = current key (run arith calls).1 := by
  refine runSpec_history (I := fun (e : CovEngine) turns => e.lookup key = current key turns)
    rfl ?_ (fun _ _ => trivial : ∀ call ∈ calls, True)
  intro e turns call held _
  rw [current_concat, lookup_step, held]

end CovEngine

section Exact
variable {K : Type} [AddCommGroup K] [LinearOrder K] (x : ExactReals K)

def PropertyValue.IsReal (v : PropertyValue) : Prop := ∃ r, v = .real r

def CovCall.IsReal : CovCall → Prop
  | .subscribe _ sub => sub.lastValue.IsReal
  | .checkAndNotify c => c.newValue.IsReal
  | _ => True

def CovChange.IsDue (c : CovChange) (v : F32) (key : CovSubKey) (sub : CovSubscription) : Prop :=
  c.Concerns key sub ∧
    ∃ last, sub.lastValue = .real last ∧ x.num sub.increment ≤ |x.num v - x.num last|

/-- Each subscription that is due gets one notification and no other gets any; afterwards the
concerned ones are at the value or within their increment of it. -/
structure DeliversExactly (e : CovEngine) (c : CovChange) (v : F32) (check : CovCheck)
    (after : CovEngine) : Prop where
  once : (check.sent.map CovNotification.key).Nodup
  due : ∀ key, key ∈ check.sent.map CovNotification.key ↔
    ∃ sub, e.lookup key = some sub ∧ c.IsDue x v key sub
  carries : ∀ n ∈ check.sent, n.changedProperties = [(c.propertyId, .real v)]
  returns : check.notified = true ↔ check.sent ≠ []
  follows : ∀ key sub, e.lookup key = some sub → c.Concerns key sub →
    ∃ left, after.lookup key = some left ∧ left.increment = sub.increment ∧
      (left.lastValue = .real v ∨
        ∃ last, left.lastValue = .real last ∧ |x.num v - x.num last| < x.num left.increment)
  others : ∀ key, (∀ sub, e.lookup key = some sub → ¬ c.Concerns key sub) →
    after.lookup key = e.lookup key

variable {x} {c : CovChange} {v : F32} {key : CovSubKey} {sub : CovSubscription}

theorem CovChange.hits_iff (real : c.newValue = .real v) (held : sub.lastValue.IsReal) :
    c.Hits x.arith key sub ↔ c.IsDue x v key sub := by
  obtain ⟨last, held⟩ := held
  refine and_congr_right fun _ => ?_
  simp only [CovSubscription.shouldNotify, real, held, PropertyValue.real.injEq,
    exists_eq_left', ExactReals.reaches_iff]

namespace CovEngine

theorem check_exact {e : CovEngine} (real : c.newValue = .real v)
    (reals : ∀ key sub, e.lookup key = some sub → sub.lastValue.IsReal) :
    DeliversExactly x e c v (e.checkAndNotify x.arith c).1 (e.checkAndNotify x.arith c).2 where
  once := keys_sent_nodup x.arith e c
  due key := by
    rw [mem_keys_sent]
    refine exists_congr fun sub => and_congr_right fun held => ?_
    exact CovChange.hits_iff real (reals key sub held)
  carries n mem := by
    obtain ⟨key, sub, _, _, rfl⟩ := (e.mem_sent x.arith c).mp mem
    rw [CovChange.notification, real]
  returns := notified_iff x.arith e c
  follows key sub held concerns := by
    refine ⟨c.leaves x.arith key sub, by rw [lookup_check, held]; rfl, ?_⟩
    unfold CovChange.leaves
    split
    · exact ⟨rfl, .inl real⟩
    · rename_i misses
      refine ⟨rfl, .inr ?_⟩
      obtain ⟨last, value⟩ := reals key sub held
      refine ⟨last, value, not_le.mp fun due => misses ?_⟩
      exact (CovChange.hits_iff real ⟨last, value⟩).mpr ⟨concerns, last, value, due⟩
  others key other := by
    rw [lookup_check]
    cases held : e.lookup key with
    | none => rfl
    | some sub => exact congrArg some (if_neg fun hits => other sub held hits.1)

theorem run_reals {calls : List CovCall} (reals : ∀ call ∈ calls, call.IsReal) (key : CovSubKey)
    (sub : CovSubscription) (held : (run x.arith calls).2.lookup key = some sub) :
    sub.lastValue.IsReal := by
  refine runSpec_history
    (I := fun (e : CovEngine) _ => ∀ sub, e.lookup key = some sub → sub.lastValue.IsReal)
    (fun sub none_ => by cases none_) ?_ reals sub held
  intro e _ call kept real sub held
  rcases lookup_step_cases x.arith held with rfl | ⟨c, old, rfl, _, _, rfl⟩ | ⟨was, _⟩
  · exact real
  · exact real
  · exact kept sub was

/-- After every run of calls with reals the engine has the subscriptions that the history of
calls and notifications left, and the next check delivers exactly to those. -/
theorem delivery_exact {calls : List CovCall} (reals : ∀ call ∈ calls, call.IsReal)
    (real : c.newValue = .real v) :
    (∀ key, (run x.arith calls).2.lookup key = current key (run x.arith calls).1) ∧
      DeliversExactly x (run x.arith calls).2 c v
        ((run x.arith calls).2.checkAndNotify x.arith c).1
        ((run x.arith calls).2.checkAndNotify x.arith c).2 :=
  ⟨lookup_run x.arith calls, check_exact real (run_reals reals)⟩

end CovEngine
end Exact

def CovSubscription.Expired (now : Instant) (sub : CovSubscription) : Prop :=
  ∃ lifetime, sub.lifetimeSecs = some lifetime ∧
    sub.subscribedAt.nanos + (Duration.fromSecs lifetime.toNat).nanos ≤ now.nanos

theorem CovSubscription.not_expired {now : Instant} {sub : CovSubscription}
    (alive : sub.isAlive now = true) : ¬ sub.Expired now := by
  rintro ⟨lifetime, some_, passed⟩
  have short : (now.durationSince sub.subscribedAt).asSecs < lifetime.toNat := by
    rw [isAlive, some_] at alive
    exact of_decide_eq_true alive
  simp only [Duration.fromSecs, Instant.durationSince, Duration.asSecs] at passed short
  omega

def AtEachCheck (P : List CovCall → CovChange → Prop) (calls : List CovCall) : Prop :=
  ∀ before c after, calls = before ++ .checkAndNotify c :: after → P before c

namespace CovEngine
variable (arith : RealArith)

def HeardInTime (before : List CovCall) (c : CovChange) : Prop :=
  ∀ n ∈ ((run arith before).2.checkAndNotify arith c).1.sent,
    ∀ sub, current n.key (run arith before).1 = some sub → ¬ sub.Expired c.now

/-- No subscription that is left past its lifetime is one that the change would notify. -/
def NoneOverdue (before : List CovCall) (c : CovChange) : Prop :=
  ∀ key sub, current key (run arith before).1 = some sub → sub.Expired c.now →
    ¬ c.Hits arith key sub

theorem heardInTime_iff (before : List CovCall) (c : CovChange) :
    HeardInTime arith before c ↔ NoneOverdue arith before c := by
  constructor
  · intro inTime key sub held expired hits
    have found : (run arith before).2.lookup key = some sub :=
      (lookup_run arith before key).trans held
    have sent := (mem_sent arith _ c).mpr ⟨key, sub, found, hits, rfl⟩
    refine inTime _ sent sub ?_ expired
    rw [c.key_notification hits.1]
    exact held
  · intro none_ n mem sub held expired
    obtain ⟨key, sub', found, hits, rfl⟩ := (mem_sent arith _ c).mp mem
    rw [c.key_notification hits.1] at held
    rw [lookup_run, held] at found
    cases found
    exact none_ key sub held expired hits

theorem noneOverdue_of_swept (before : List CovCall) (c : CovChange) :
    NoneOverdue arith (before ++ [.expireOld c.now]) c := by
  intro key sub held expired
  rw [run, runSpec_concat, current_concat] at held
  have kept := (Option.filter_eq_some_iff.mp held).2
  exact absurd expired (CovSubscription.not_expired kept)

/-- Over a whole run no expired subscriber hears anything exactly when each check comes with
nothing overdue. -/
theorem expired_hear_nothing_iff (calls : List CovCall) :
    AtEachCheck (HeardInTime arith) calls ↔ AtEachCheck (NoneOverdue arith) calls := by
  constructor
  · intro inTime before c after part
    exact (heardInTime_iff arith before c).mp (inTime before c after part)
  · intro none_ before c after part
    exact (heardInTime_iff arith before c).mpr (none_ before c after part)

end CovEngine

def roomKey : CovSubKey where
  subscriber := ⟨0, .msTp 3⟩
  processId := 1
  objectId := ⟨.analogInput, 1⟩
  deviceId := ⟨1⟩

def roomSubscription (lifetimeSecs : Option UInt32) : CovSubscription where
  confirmed := false
  lifetimeSecs
  subscribedAt := ⟨0⟩
  covIncrement := some ⟨0x3F800000⟩
  monitoredProp := some .presentValue
  lastNotifiedAt := ⟨0⟩
  lastValue := .real ⟨0⟩

def roomChange (secs : Nat) (v : F32) : CovChange where
  now := ⟨(Duration.fromSecs secs).nanos⟩
  deviceId := ⟨1⟩
  objectId := ⟨.analogInput, 1⟩
  propertyId := .presentValue
  newValue := .real v

def Clocked (calls : List CovCall) : Prop :=
  (calls.filterMap fun
    | .subscribe _ sub => some sub.subscribedAt.nanos
    | .unsubscribe _ => none
    | .checkAndNotify c => some c.now.nanos
    | .expireOld now => some now.nanos).Pairwise (· ≤ ·)

/-- After a drift to 0.5 the reference value is still 0 when 1.5 comes. -/
theorem drift_then_change :
    let calls := [.subscribe roomKey (roomSubscription none),
      .checkAndNotify (roomChange 1 ⟨0x3F000000⟩)]
    (∀ key, (CovEngine.run ExactReals.scaled.arith calls).2.lookup key =
        current key (CovEngine.run ExactReals.scaled.arith calls).1) ∧
      DeliversExactly ExactReals.scaled (CovEngine.run ExactReals.scaled.arith calls).2
        (roomChange 2 ⟨0x3FC00000⟩) ⟨0x3FC00000⟩
        ((CovEngine.run ExactReals.scaled.arith calls).2.checkAndNotify ExactReals.scaled.arith
          (roomChange 2 ⟨0x3FC00000⟩)).1
        ((CovEngine.run ExactReals.scaled.arith calls).2.checkAndNotify ExactReals.scaled.arith
          (roomChange 2 ⟨0x3FC00000⟩)).2 := by
  refine CovEngine.delivery_exact ?_ rfl
  intro call mem
  simp only [List.mem_cons, List.not_mem_nil, or_false] at mem
  rcases mem with rfl | rfl
  · exact ⟨_, rfl⟩
  · exact ⟨_, rfl⟩

theorem expired_room_notified :
    ¬ ∀ calls, Clocked calls → AtEachCheck (CovEngine.HeardInTime .ieee) calls := by
  intro claim
  have clocked : Clocked [.subscribe roomKey (roomSubscription (some 1)),
      .checkAndNotify (roomChange 5 ⟨0x40A00000⟩)] := by
    simp [Clocked, roomSubscription]
  have inTime := claim _ clocked [.subscribe roomKey (roomSubscription (some 1))] _ [] rfl
  have overdue := (CovEngine.heardInTime_iff .ieee _ _).mp inTime
  refine overdue roomKey (roomSubscription (some 1)) rfl ⟨1, rfl, by decide⟩ ?_
  exact ⟨⟨rfl, rfl, rfl⟩, by decide⟩

end BacnetSim
