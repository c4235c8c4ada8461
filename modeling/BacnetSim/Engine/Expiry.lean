import BacnetSim.Engine.Readback

/-! How late a subscription can still be notified. The tick loop expires subscriptions every ten
seconds, behind the notifications of a tick, so what is over is notified for a while. -/
namespace BacnetSim
open Rust Ieee754

def nanosPerSec : Nat := 1000000000

def expiryPeriod : Nat := 10 * nanosPerSec

def CovSubscription.endsAt (sub : CovSubscription) : Option Nat :=
  sub.lifetimeSecs.map fun lifetime => sub.subscribedAt.nanos + lifetime.toNat * nanosPerSec

theorem isAlive_endsAt {now : Instant} {sub : CovSubscription} {stop : Nat}
    (alive : sub.isAlive now = true) (ends : sub.endsAt = some stop) : now.nanos ≤ stop := by
  cases lifetime : sub.lifetimeSecs with
  | none =>
    rw [CovSubscription.endsAt, lifetime] at ends
    cases ends
  | some secs =>
    have before : (now.durationSince sub.subscribedAt).asSecs < secs.toNat := by
      simpa only [CovSubscription.isAlive, lifetime, decide_eq_true_eq] using alive
    rw [CovSubscription.endsAt, lifetime, Option.map_some, Option.some.injEq] at ends
    simp only [Instant.durationSince, Duration.asSecs, nanosPerSec] at before ends
    omega

def CovEngine.KeepsEnds (e e' : CovEngine) : Prop :=
  ∀ key sub', e'.lookup key = some sub' → ∃ sub, e.lookup key = some sub ∧ sub.endsAt = sub'.endsAt

theorem CovEngine.KeepsEnds.refl (e : CovEngine) : e.KeepsEnds e := fun _ sub held => ⟨sub, held, rfl⟩

theorem CovEngine.KeepsEnds.trans {e₁ e₂ e₃ : CovEngine} (first : e₁.KeepsEnds e₂)
    (second : e₂.KeepsEnds e₃) : e₁.KeepsEnds e₃ := by
  intro key sub₃ held
  obtain ⟨sub₂, held₂, same₂⟩ := second key sub₃ held
  obtain ⟨sub₁, held₁, same₁⟩ := first key sub₂ held₂
  exact ⟨sub₁, held₁, same₁.trans same₂⟩

theorem CovEngine.keepsEnds_check (arith : RealArith) (e : CovEngine) (c : CovChange) :
    e.KeepsEnds (e.checkAndNotify arith c).2 := by
  intro key sub' held
  rw [CovEngine.lookup_check] at held
  obtain ⟨sub, was, rfl⟩ := Option.map_eq_some_iff.mp held
  refine ⟨sub, was, ?_⟩
  unfold CovChange.leaves
  split
  · rfl
  · rfl

theorem CovEngine.keepsEnds_expire (e : CovEngine) (now : Instant) : e.KeepsEnds (e.expireOld now) := by
  intro key sub held
  rw [CovEngine.lookup_expireOld, Option.filter_eq_some_iff] at held
  exact ⟨sub, held.1, rfl⟩

namespace TickLoop
variable {M R : Type} [ValueModel M R] (hash : Hasher) (arith : RealArith)
variable {s : TickLoop Object M R} {clock : TickClock}

/-- No subscription was over when the loop made its last expiry. -/
def Fresh (s : TickLoop Object M R) : Prop :=
  ∀ key sub stop, s.engine.covEngine.lookup key = some sub → sub.endsAt = some stop →
    s.lastExpire.nanos ≤ stop

theorem checks_ends (s : TickLoop Object M R) (clock : TickClock) :
    s.engine.covEngine.KeepsEnds (s.checks arith clock).2 ∧
      ∀ r ∈ (s.checks arith clock).1, ∀ n ∈ r.check.sent,
        ∃ sub, s.engine.covEngine.lookup n.key = some sub := by
  change s.engine.covEngine.KeepsEnds
      (runSpec (notify arith clock) s.engine.covEngine (s.sweep arith clock).1.changed).2 ∧
    ∀ r ∈ (runSpec (notify arith clock) s.engine.covEngine (s.sweep arith clock).1.changed).1, _
  refine runSpec_history (I := fun (e : CovEngine) (done : List Report) =>
    s.engine.covEngine.KeepsEnds e ∧ ∀ r ∈ done, ∀ n ∈ r.check.sent,
      ∃ sub, s.engine.covEngine.lookup n.key = some sub) ⟨.refl _, by simp⟩ ?_
    (fun _ _ => trivial : ∀ c ∈ (s.sweep arith clock).1.changed, True)
  rintro e done c ⟨kept, held⟩ _
  refine ⟨kept.trans (e.keepsEnds_check arith _), ?_⟩
  intro r mem n sent
  rcases List.mem_append.mp mem with earlier | now
  · exact held r earlier n sent
  · rw [List.mem_singleton.mp now] at sent
    obtain ⟨key, sub, found, hits, rfl⟩ := (e.mem_sent arith _).mp sent
    obtain ⟨old, was, _⟩ := kept key sub found
    exact ⟨old, by rwa [CovChange.key_notification _ hits.1]⟩

theorem tick_ends : s.engine.covEngine.KeepsEnds (s.tick arith clock).2.engine.covEngine := by
  have kept := (checks_ends arith s clock).1
  rcases tick_cov arith s clock with same | expired
  · rw [same]
    exact kept
  · rw [expired]
    exact kept.trans (CovEngine.keepsEnds_expire _ _)

theorem tick_expires (s : TickLoop Object M R) (clock : TickClock) :
    (expiryPeriod ≤ clock.now.nanos - s.lastExpire.nanos ∧
      (s.tick arith clock).2.engine.covEngine = (s.checks arith clock).2.expireOld clock.expire ∧
      (s.tick arith clock).2.lastExpire = clock.now) ∨
    (clock.now.nanos - s.lastExpire.nanos < expiryPeriod ∧
      (s.tick arith clock).2.lastExpire = s.lastExpire) := by
  by_cases due : 10 ≤ (clock.now.durationSince s.lastExpire).asSecs
  · refine .inl ⟨?_, ?_, ?_⟩
    · simp only [Instant.durationSince, Duration.asSecs] at due
      simp only [expiryPeriod, nanosPerSec]
      omega
    · simp [tick, due]
    · simp [tick, due]
  · refine .inr ⟨?_, ?_⟩
    · simp only [Instant.durationSince, Duration.asSecs] at due
      simp only [expiryPeriod, nanosPerSec]
      omega
    · simp [tick, due]

/-- Clock readings do not go back, ticks start at most `gap` nanoseconds apart, and make their
checks in the first `lasts` nanoseconds. The last tick read `last`. -/
def Timely (gap lasts : Nat) : Nat → List SimCall → Prop
  | _, [] => True
  | last, .tick clock :: calls =>
    last ≤ clock.now.nanos ∧ clock.now.nanos ≤ last + gap ∧
      (∀ r, (clock.check r).nanos ≤ clock.now.nanos + lasts) ∧ clock.now.nanos ≤ clock.expire.nanos ∧
      Timely gap lasts clock.now.nanos calls
  | last, .subscribe _ sub :: calls => last ≤ sub.subscribedAt.nanos ∧ Timely gap lasts last calls
  | last, .unsubscribe _ :: calls | last, .writeProperty _ _ _ _ _ _ _ :: calls =>
    Timely gap lasts last calls

structure Expires (s : TickLoop Object M R) (last : Nat) : Prop where
  made : s.lastExpire.nanos ≤ last
  recent : last < s.lastExpire.nanos + expiryPeriod
  fresh : s.Fresh

theorem Expires.tick {last : Nat} (expires : s.Expires last) (forward : last ≤ clock.now.nanos)
    (readings : clock.now.nanos ≤ clock.expire.nanos) :
    (s.tick arith clock).2.Expires clock.now.nanos := by
  have made := expires.made
  rcases tick_expires arith s clock with ⟨_, cov, now⟩ | ⟨soon, same⟩
  · refine ⟨by rw [now], by rw [now]; exact Nat.lt_add_of_pos_right (by decide), ?_⟩
    intro key sub stop held ends
    rw [cov, CovEngine.lookup_expireOld, Option.filter_eq_some_iff] at held
    rw [now]
    exact Nat.le_trans readings (isAlive_endsAt held.2 ends)
  · refine ⟨by rw [same]; omega, by rw [same]; omega, ?_⟩
    intro key sub stop held ends
    obtain ⟨old, was, sameEnd⟩ := tick_ends arith key sub held
    rw [same]
    exact expires.fresh key old stop was (sameEnd.trans ends)

theorem Expires.subscribe {last : Nat} (expires : s.Expires last) (key : CovSubKey)
    (sub : CovSubscription) (forward : last ≤ sub.subscribedAt.nanos) :
    (s.step hash arith (.subscribe key sub)).2.Expires last := by
  refine ⟨expires.made, expires.recent, ?_⟩
  intro key' sub' stop held ends
  have made := expires.made
  rw [show (s.step hash arith (.subscribe key sub)).2.engine.covEngine =
    s.engine.covEngine.subscribe key sub from rfl, CovEngine.lookup_subscribe] at held
  split at held
  · cases held
    obtain ⟨lifetime, _, rfl⟩ := Option.map_eq_some_iff.mp ends
    exact Nat.le_trans made (Nat.le_trans forward (Nat.le_add_right _ _))
  · exact expires.fresh key' sub' stop held ends

theorem Expires.unsubscribe {last : Nat} (expires : s.Expires last) (key : CovSubKey) :
    (s.step hash arith (.unsubscribe key)).2.Expires last := by
  refine ⟨expires.made, expires.recent, ?_⟩
  intro key' sub' stop held ends
  rw [show (s.step hash arith (.unsubscribe key)).2.engine.covEngine =
    s.engine.covEngine.unsubscribe key from rfl, CovEngine.lookup_unsubscribe] at held
  split at held
  · cases held
  · exact expires.fresh key' sub' stop held ends

theorem Expires.write {last : Nat} (expires : s.Expires last) (device : DeviceId) (objId : ObjectId)
    (now : Now) (p : PropertyIdentifier) (i : Option UInt32) (v : PropertyValue) (pri : Option UInt8) :
    (s.step hash arith (.writeProperty device objId now p i v pri)).2.Expires last := by
  rcases s.step_write hash arith device objId now p i v pri with ⟨_, left⟩ | ⟨o, _, left⟩
  · rw [left]
    exact expires
  · rw [left]
    exact ⟨expires.made, expires.recent, expires.fresh⟩

/-- What a tick notifies is held, and over for less than `margin` nanoseconds by the clock of the
check that notifies it. -/
def NotifiesWithin (margin : Nat) (s : TickLoop Object M R) (clock : TickClock) : Prop :=
  ∀ r ∈ (s.tick arith clock).1, ∀ n ∈ r.check.sent,
    ∃ sub, s.engine.covEngine.lookup n.key = some sub ∧
      ∀ stop, sub.endsAt = some stop → (clock.check r.changed.ref).nanos < stop + margin

theorem Expires.notifies {last gap lasts : Nat} (expires : s.Expires last)
    (soon : clock.now.nanos ≤ last + gap) (quick : ∀ r, (clock.check r).nanos ≤ clock.now.nanos + lasts) :
    NotifiesWithin arith (expiryPeriod + gap + lasts) s clock := by
  intro r mem n sent
  rw [tick_reports] at mem
  obtain ⟨sub, held⟩ := (checks_ends arith s clock).2 r mem n sent
  refine ⟨sub, held, fun stop ends => ?_⟩
  have fresh := expires.fresh n.key sub stop held ends
  have recent := expires.recent
  have checked := quick r.changed.ref
  omega

/-- With clocks that do not go back, ticks at most `gap` apart and checks within `lasts` of their
start, a subscription is notified no later than ten seconds, `gap` and `lasts` behind its end. -/
theorem notified_in_time {start : TickLoop Object M R} {gap lasts : Nat} (fresh : start.Fresh)
    {calls : List SimCall} (timely : Timely gap lasts start.lastExpire.nanos calls) :
    AtEachTick hash arith (NotifiesWithin arith (expiryPeriod + gap + lasts)) start calls := by
  suffices general : ∀ (before : List SimCall) (s : TickLoop Object M R) (last : Nat) (clock : TickClock)
      (after : List SimCall), s.Expires last →
      Timely gap lasts last (before ++ .tick clock :: after) →
      NotifiesWithin arith (expiryPeriod + gap + lasts) (runSpec (step hash arith) s before).2 clock by
    intro before clock after part
    have recent : start.lastExpire.nanos < start.lastExpire.nanos + expiryPeriod :=
      Nat.lt_add_of_pos_right (by decide)
    exact general before start _ clock after ⟨Nat.le_refl _, recent, fresh⟩ (part ▸ timely)
  intro before
  induction before with
  | nil =>
    intro s last clock after expires timely
    exact expires.notifies arith timely.2.1 timely.2.2.1
  | cons call before ih =>
    intro s last clock after expires timely
    rw [runSpec_cons]
    cases call with
    | tick turn =>
      obtain ⟨forward, _, _, readings, rest⟩ := timely
      have ticked : (s.step hash arith (.tick turn)).2.Expires turn.now.nanos := by
        rw [step]
        exact expires.tick arith forward readings
      exact ih _ _ clock after ticked rest
    | writeProperty device objId now p i v pri =>
      exact ih _ _ clock after (expires.write hash arith device objId now p i v pri) timely
    | subscribe key sub =>
      obtain ⟨forward, rest⟩ := timely
      exact ih _ _ clock after (expires.subscribe hash arith key sub forward) rest
    | unsubscribe key => exact ih _ _ clock after (expires.unsubscribe hash arith key) timely

end TickLoop

def lateTick : TickClock :=
  { firstTick with
    now := ⟨61 * nanosPerSec⟩
    check := fun _ => ⟨61 * nanosPerSec + 1000⟩
    expire := ⟨61 * nanosPerSec + 2000⟩ }

def minuteCalls : List SimCall :=
  [.subscribe valveKey { valveSubscription with lifetimeSecs := some 60 }, .tick firstTick, .tick lateTick]

theorem minute_in_time :
    TickLoop.AtEachTick (fun _ _ => 0) .ieee
      (TickLoop.NotifiesWithin .ieee (expiryPeriod + 61 * nanosPerSec + 1000)) (valvePlant.withCov .new)
      minuteCalls := by
  refine TickLoop.notified_in_time (fun _ _ => 0) .ieee ?_ ?_
  · intro key sub stop held
    cases held
  · simp [minuteCalls, TickLoop.Timely, TickLoop.withCov, valvePlant, valveSubscription, firstTick, lateTick]

end BacnetSim
