import BacnetSim.Engine.CovRuns
import Mathlib.Data.List.Chain

/-! Whether consecutive notifications of a subscription carry different values. An increment
of zero, or none, lets a real repeat. -/
namespace BacnetSim
open Rust Ieee754

def CovNotification.values (n : CovNotification) : List PropertyValue := n.changedProperties.map Prod.snd

def CovNotification.Changes (prev n : CovNotification) : Prop :=
  PropertyValue.eqItems n.values prev.values = false

def CovTurn.hear (key : CovSubKey) (sent : List CovNotification) (turn : CovTurn) : List CovNotification :=
  match turn.call with
  | .subscribe k _ | .unsubscribe k => if k = key then [] else sent
  | .checkAndNotify _ => sent ++ turn.sent.filter (·.key = key)
  | .expireOld _ => sent

def heard (key : CovSubKey) (turns : List CovTurn) : List CovNotification :=
  turns.foldl (CovTurn.hear key) []

theorem heard_concat (key : CovSubKey) (turns : List CovTurn) (turn : CovTurn) :
    heard key (turns ++ [turn]) = turn.hear key (heard key turns) := by
  rw [heard, List.foldl_append]
  rfl

theorem filter_key {α κ : Type} [DecidableEq κ] {key : α → κ} {l : List α} {a : α}
    (once : (l.map key).Nodup) (mem : a ∈ l) : l.filter (fun b => key b = key a) = [a] := by
  induction l with
  | nil => cases mem
  | cons b l ih =>
    obtain ⟨fresh, once⟩ := List.nodup_cons.mp once
    rcases List.mem_cons.mp mem with rfl | mem
    · rw [List.filter_cons_of_pos (by simp), List.filter_eq_nil_iff.mpr]
      intro c inside same
      exact fresh (of_decide_eq_true same ▸ List.mem_map_of_mem inside)
    · rw [List.filter_cons_of_neg, ih once mem]
      intro same
      exact fresh (of_decide_eq_true same ▸ List.mem_map_of_mem mem)

namespace CovEngine
variable (arith : RealArith) (e : CovEngine) (c : CovChange)

theorem sent_of_hits {key : CovSubKey} {sub : CovSubscription} (held : e.lookup key = some sub)
    (hits : c.Hits arith key sub) :
    (e.checkAndNotify arith c).1.sent.filter (·.key = key) = [c.notification key sub] := by
  have mem := (e.mem_sent arith c).mpr ⟨key, sub, held, hits, rfl⟩
  have only := filter_key (e.keys_sent_nodup arith c) mem
  rwa [c.key_notification hits.1] at only

theorem sent_of_misses {key : CovSubKey}
    (misses : ¬ ∃ sub, e.lookup key = some sub ∧ c.Hits arith key sub) :
    (e.checkAndNotify arith c).1.sent.filter (·.key = key) = [] := by
  rw [List.filter_eq_nil_iff]
  intro n mem same
  rw [← e.mem_keys_sent arith c] at misses
  exact misses (of_decide_eq_true same ▸ List.mem_map_of_mem mem)

theorem hear_step_cases (call : CovCall) (key : CovSubKey) (sent : List CovNotification) :
    (e.step arith call).1.hear key sent = [] ∨ (e.step arith call).1.hear key sent = sent ∨
      ∃ c sub, call = .checkAndNotify c ∧ e.lookup key = some sub ∧ c.Hits arith key sub ∧
        (e.step arith call).1.hear key sent = sent ++ [c.notification key sub] := by
  cases call with
  | subscribe k new => exact (ite_eq_or_eq (k = key) [] sent).imp_right .inl
  | unsubscribe k => exact (ite_eq_or_eq (k = key) [] sent).imp_right .inl
  | checkAndNotify c =>
    by_cases hit : ∃ sub, e.lookup key = some sub ∧ c.Hits arith key sub
    · obtain ⟨sub, held, hits⟩ := hit
      exact .inr (.inr ⟨c, sub, rfl, held, hits, congrArg (sent ++ ·) (e.sent_of_hits arith c held hits)⟩)
    · refine .inr (.inl ?_)
      exact (congrArg (sent ++ ·) (e.sent_of_misses arith c hit)).trans (List.append_nil sent)
  | expireOld now => exact .inr (.inl rfl)

theorem run_lastValue (calls : List CovCall) (key : CovSubKey) :
    ∀ sub, (run arith calls).2.lookup key = some sub →
      ∀ prev ∈ (heard key (run arith calls).1).getLast?, prev.values = [sub.lastValue] := by
  refine runSpec_history (I := fun (e : CovEngine) turns => ∀ sub, e.lookup key = some sub →
    ∀ prev ∈ (heard key turns).getLast?, prev.values = [sub.lastValue])
    (fun _ _ _ => nofun) ?_ (fun _ _ => trivial : ∀ call ∈ calls, True)
  intro e turns call kept _ sub held prev last
  rw [heard_concat] at last
  rcases lookup_step_cases arith held with rfl | ⟨c, old, rfl, was, hits, rfl⟩ | ⟨was, misses⟩
  · -- the notifications so far were for the subscription that this one replaces
    have ended : (e.step arith (.subscribe key sub)).1.hear key (heard key turns) = [] := if_pos rfl
    rw [ended] at last
    cases last
  · rw [step, CovTurn.hear, sent_of_hits arith e c was hits, List.getLast?_concat] at last
    cases last
    rfl
  · rcases hear_step_cases arith e call key (heard key turns) with ended | same | ⟨c, old, check, was', hits, _⟩
    · rw [ended] at last
      cases last
    · rw [same] at last
      exact kept sub was prev last
    · rw [was] at was'
      cases was'
      exact absurd hits (misses c check)

end CovEngine

/-- The subscription would be notified of its reference value again: a finite real, with an
increment that is no bound. -/
def CovSubscription.Repeats (v : PropertyValue) (sub : CovSubscription) : Prop :=
  ∃ new old, v = .real new ∧ sub.lastValue = .real old ∧ new.eq old = true ∧
    new.isInfinite = false ∧ sub.increment.isNan = false ∧ sub.increment.scaled ≤ 0

theorem CovSubscription.repeats_iff (v : PropertyValue) (sub : CovSubscription) :
    sub.shouldNotify .ieee v = true ∧ v.eq sub.lastValue = true ↔ sub.Repeats v := by
  unfold shouldNotify
  split
  · rename_i new old real
    rw [real]
    constructor
    · rintro ⟨reaches, same⟩
      exact ⟨new, old, rfl, real, same, (RealArith.reaches_same_iff same).mp reaches⟩
    · rintro ⟨_, _, ⟨⟩, real', same, passes⟩
      cases real.symm.trans real'
      exact ⟨(RealArith.reaches_same_iff same).mpr passes, same⟩
  · rename_i other
    constructor
    · rintro ⟨differs, same⟩
      rw [same] at differs
      cases differs
    · rintro ⟨new, old, here, real, _⟩
      exact absurd real (other new old here)

def AlwaysChanging (arith : RealArith) (calls : List CovCall) : Prop :=
  ∀ before, before <+: calls → ∀ key,
    (heard key (CovEngine.run arith before).1).IsChain CovNotification.Changes

/-- The check brings no subscription that has been notified its reference value again. -/
def NoRepeats (arith : RealArith) (before : List CovCall) (c : CovChange) : Prop :=
  ∀ key sub, current key (CovEngine.run arith before).1 = some sub → c.Concerns key sub →
    heard key (CovEngine.run arith before).1 ≠ [] → ¬ sub.Repeats c.newValue

namespace CovEngine

theorem heard_run_concat (arith : RealArith) (before : List CovCall) (call : CovCall) (key : CovSubKey) :
    heard key (run arith (before ++ [call])).1 =
      ((run arith before).2.step arith call).1.hear key (heard key (run arith before).1) := by
  rw [run, runSpec_concat, heard_concat]
  rfl

theorem changes_notification {c : CovChange} {key : CovSubKey} {sub : CovSubscription}
    {prev : CovNotification} (last : prev.values = [sub.lastValue]) :
    prev.Changes (c.notification key sub) ↔ c.newValue.eq sub.lastValue = false := by
  rw [CovNotification.Changes, last]
  simp [CovNotification.values, CovChange.notification, PropertyValue.eqItems]

/-- In every run the notifications of each subscription carry changing values exactly when no
check brings a notified one its reference value as a finite real with an increment of zero,
of less, or none. -/
theorem alwaysChanging_iff (calls : List CovCall) :
    AlwaysChanging .ieee calls ↔ AtEachCheck (NoRepeats .ieee) calls := by
  constructor
  · intro changing before c after part key sub held concerns nonempty repeats
    obtain ⟨due, same⟩ := (sub.repeats_iff c.newValue).mpr repeats
    have found : (run .ieee before).2.lookup key = some sub := (lookup_run .ieee before key).trans held
    have chain := changing (before ++ [.checkAndNotify c]) ⟨after, by simp [part]⟩ key
    rw [heard_run_concat, step, CovTurn.hear, sent_of_hits .ieee _ c found ⟨concerns, due⟩,
      List.isChain_append] at chain
    have newest := List.getLast?_eq_some_getLast nonempty
    have change := chain.2.2 _ newest _ rfl
    rw [changes_notification (run_lastValue .ieee before key sub found _ newest), same] at change
    cases change
  · intro noRepeats before
    induction before using List.reverseRecOn with
    | nil => exact fun _ _ => List.isChain_nil
    | append_singleton before call ih =>
      intro upTo key
      have changing := ih ((List.prefix_append before [call]).trans upTo) key
      rw [heard_run_concat]
      rcases hear_step_cases .ieee (run .ieee before).2 call key (heard key (run .ieee before).1) with
        ended | same | ⟨c, sub, rfl, found, hits, heard_⟩
      · rw [ended]
        exact List.isChain_nil
      · rw [same]
        exact changing
      · rw [heard_, List.isChain_append]
        refine ⟨changing, List.isChain_singleton _, ?_⟩
        rintro prev newest _ ⟨⟩
        rw [changes_notification (run_lastValue .ieee before key sub found prev newest)]
        by_contra equal
        obtain ⟨after, part⟩ := upTo
        refine noRepeats before c after (by simp [← part]) key sub
          ((lookup_run .ieee before key).symm.trans found) hits.1
          (List.ne_nil_of_mem (List.mem_of_getLast? newest)) ?_
        exact (sub.repeats_iff c.newValue).mp ⟨hits.2, Bool.eq_true_of_not_eq_false equal⟩

end CovEngine

theorem steady_room_notified_again :
    ¬ ∀ calls, Clocked calls → (∀ now, .expireOld now ∉ calls) → AlwaysChanging .ieee calls := by
  intro claim
  have changing := claim [.subscribe roomKey { roomSubscription none with covIncrement := none },
    .checkAndNotify (roomChange 1 ⟨0x41AC0000⟩), .checkAndNotify (roomChange 2 ⟨0x41AC0000⟩)]
    (by simp [Clocked, roomSubscription, roomChange, Duration.fromSecs]) (by simp) _ List.prefix_rfl roomKey
  have change := (List.isChain_cons_cons.mp changing).1
  cases change

end BacnetSim
