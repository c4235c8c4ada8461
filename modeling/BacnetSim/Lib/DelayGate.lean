import BacnetSim.Lib.Simulation
import Mathlib.Data.List.Chain

/-! Delay gates: a component that goes over to a new state only when a single timer has run
for its delay. Every evaluation computes a target; the timer starts when the target is not
the state in force and stops when it is. -/
namespace DelayGate
open Rust

def Linked {R σ : Type} (left entered : R → σ) : σ → List R → σ → Prop
  | s, [], t => s = t
  | s, r :: rest, t => left r = s ∧ left r ≠ entered r ∧ Linked left entered (entered r) rest t

theorem Linked.concat {R σ : Type} {left entered : R → σ} {s t : σ} {done : List R} {r : R}
    (linked : Linked left entered s done t) (leaves : left r = t) (differs : left r ≠ entered r) :
    Linked left entered s (done ++ [r]) (entered r) := by
  induction done generalizing s with
  | nil =>
    cases linked
    exact ⟨leaves, differs, rfl⟩
  | cons first done ih => exact ⟨linked.1, linked.2.1, ih linked.2.2⟩

structure Gate (S A σ R : Type) where
  delay : Nat
  current : S → σ
  pending : S → Option Nat
  target : S → A → σ
  now : A → Nat
  next : S → A → S
  report : S → A → Option R
  left : R → σ
  entered : R → σ
  stamp : R → Nat

namespace Gate
variable {S A σ R : Type} (g : Gate S A σ R)

def start (s : S) (a : A) : Nat := (g.pending s).getD (g.now a)

inductive Outcome (s : S) (a : A) : Prop where
  | settled (same : g.target s a = g.current s) (silent : g.report s a = none)
      (stays : g.current (g.next s a) = g.current s) (stopped : g.pending (g.next s a) = none)
  | waiting (differs : g.target s a ≠ g.current s) (early : g.now a - g.start s a < g.delay)
      (silent : g.report s a = none) (stays : g.current (g.next s a) = g.current s)
      (runs : g.pending (g.next s a) = some (g.start s a))
  | reported (r : R) (differs : g.target s a ≠ g.current s)
      (due : g.delay ≤ g.now a - g.start s a) (emitted : g.report s a = some r)
      (leaves : g.left r = g.current s) (enters : g.entered r = g.target s a)
      (stamped : g.stamp r = g.now a) (moved : g.current (g.next s a) = g.target s a)
      (stopped : g.pending (g.next s a) = none)

structure Lawful (Valid : S → Prop) : Prop where
  kept : ∀ {s} a, Valid s → Valid (g.next s a)
  outcome : ∀ {s} a, Valid s → g.Outcome s a

def run (s : S) (calls : List A) : List (S × A) × S :=
  runSpec (fun s a => ((s, a), g.next s a)) s calls

def reports (done : List (S × A)) : List R := done.filterMap fun x => g.report x.1 x.2

variable {g} {Valid : S → Prop} {s : S} {a : A} {calls : List A}

theorem run_concat (s : S) (calls : List A) (a : A) :
    g.run s (calls ++ [a]) =
      ((g.run s calls).1 ++ [((g.run s calls).2, a)], g.next (g.run s calls).2 a) :=
  runSpec_concat s calls a

theorem run_calls (s : S) (calls : List A) : (g.run s calls).1.map Prod.snd = calls := by
  induction calls using List.reverseRecOn with
  | nil => rfl
  | append_singleton calls a ih => rw [run_concat, List.map_append, ih]; rfl

theorem Lawful.run_induction (lawful : g.Lawful Valid) (valid : Valid s)
    {I : S → List (S × A) → Prop} (initial : I s [])
    (keeps : ∀ {t done a}, Valid t → I t done → (∀ x ∈ done, g.now x.2 ≤ g.now a) →
      I (g.next t a) (done ++ [(t, a)]))
    (ordered : calls.Pairwise fun a b => g.now a ≤ g.now b) :
    Valid (g.run s calls).2 ∧ I (g.run s calls).2 (g.run s calls).1 := by
  induction calls using List.reverseRecOn with
  | nil => exact ⟨valid, initial⟩
  | append_singleton calls a ih =>
    obtain ⟨earlier, _, between⟩ := List.pairwise_append.mp ordered
    obtain ⟨reached, held⟩ := ih earlier
    rw [run_concat]
    refine ⟨lawful.kept a reached, keeps reached held fun x mem => ?_⟩
    have called : x.2 ∈ (g.run s calls).1.map Prod.snd := List.mem_map_of_mem mem
    rw [run_calls] at called
    exact between x.2 called a List.mem_cons_self

def after (g : Gate S A σ R) (s : S) (calls : List A) : S := (g.run s calls).2

theorem after_append (s : S) (earlier later : List A) :
    g.after s (earlier ++ later) = g.after (g.after s earlier) later := by
  induction earlier generalizing s with
  | nil => rfl
  | cons a earlier ih => exact ih (g.next s a)

theorem Lawful.after_valid (lawful : g.Lawful Valid) (valid : Valid s) (calls : List A) :
    Valid (g.after s calls) := by
  induction calls generalizing s with
  | nil => exact valid
  | cons a calls ih => exact ih (lawful.kept a valid)

theorem Lawful.visited (lawful : g.Lawful Valid) (valid : Valid s) (calls : List A) :
    ∀ x ∈ (g.run s calls).1, Valid x.1 := by
  induction calls generalizing s with
  | nil => exact fun x mem => absurd mem List.not_mem_nil
  | cons a calls ih =>
    intro x mem
    rcases List.mem_cons.mp mem with rfl | later
    · exact valid
    · exact ih (lawful.kept a valid) x later

theorem reports_concat (done : List (S × A)) (x : S × A) :
    g.reports (done ++ [x]) = g.reports done ++ (g.report x.1 x.2).toList := by
  cases reported : g.report x.1 x.2 <;> simp [reports, reported]

theorem Lawful.linked (lawful : g.Lawful Valid) (valid : Valid s)
    (ordered : calls.Pairwise fun a b => g.now a ≤ g.now b) :
    Linked g.left g.entered (g.current s) (g.reports (g.run s calls).1) (g.current (g.run s calls).2) := by
  refine (lawful.run_induction valid
    (I := fun t done => Linked g.left g.entered (g.current s) (g.reports done) (g.current t)) rfl
    (fun {t done a} reached linked _ => ?_) ordered).2
  rw [reports_concat]
  cases lawful.outcome a reached with
  | settled same silent stays stopped =>
    rwa [silent, stays, Option.toList_none, List.append_nil]
  | waiting differs early silent stays runs =>
    rwa [silent, stays, Option.toList_none, List.append_nil]
  | reported r differs due emitted leaves enters stamped moved stopped =>
    rw [emitted, moved, ← enters]
    exact linked.concat leaves (by rw [leaves, enters]; exact differs.symm)

structure Spaced (g : Gate S A σ R) (s : S) (done : List (S × A)) : Prop where
  apart : (g.reports done).IsChain fun r r' => g.stamp r + g.delay ≤ g.stamp r'
  stamped : ∀ r ∈ g.reports done, ∃ x ∈ done, g.stamp r = g.now x.2
  timed : ∀ start, g.pending s = some start → ∀ r ∈ g.reports done, g.stamp r ≤ start

theorem Spaced.silent {done : List (S × A)} (spaced : Spaced g s done)
    (silent : g.report s a = none) {t : S}
    (timed : ∀ start, g.pending t = some start → ∀ r ∈ g.reports done, g.stamp r ≤ start) :
    Spaced g t (done ++ [(s, a)]) := by
  have same : g.reports (done ++ [(s, a)]) = g.reports done := by
    rw [reports_concat, silent, Option.toList_none, List.append_nil]
  refine ⟨same ▸ spaced.apart, fun r mem => ?_, same ▸ timed⟩
  obtain ⟨x, inside, stamp⟩ := spaced.stamped r (same ▸ mem)
  exact ⟨x, List.mem_append_left _ inside, stamp⟩

theorem Spaced.before_start {done : List (S × A)} (spaced : Spaced g s done)
    (later : ∀ x ∈ done, g.now x.2 ≤ g.now a) {r : R} (mem : r ∈ g.reports done) :
    g.stamp r ≤ g.start s a ∧ g.stamp r ≤ g.now a := by
  obtain ⟨x, inside, stamp⟩ := spaced.stamped r mem
  have past : g.stamp r ≤ g.now a := stamp ▸ later x inside
  refine ⟨?_, past⟩
  unfold start
  cases pending : g.pending s with
  | none => exact past
  | some start => exact spaced.timed start pending r mem

/-- Consecutive reports are at least the delay apart. -/
theorem Lawful.spaced (lawful : g.Lawful Valid) (valid : Valid s)
    (ordered : calls.Pairwise fun a b => g.now a ≤ g.now b) :
    Spaced g (g.run s calls).2 (g.run s calls).1 := by
  refine (lawful.run_induction valid (I := Spaced g)
    ⟨.nil, fun _ mem => absurd mem List.not_mem_nil, fun _ _ _ mem => absurd mem List.not_mem_nil⟩
    (fun {t done a} reached spaced later => ?_) ordered).2
  cases lawful.outcome a reached with
  | settled same silent stays stopped =>
    exact spaced.silent silent fun start running => by cases stopped.symm.trans running
  | waiting differs early silent stays runs =>
    refine spaced.silent silent fun start running r mem => ?_
    cases runs.symm.trans running
    exact (spaced.before_start later mem).1
  | reported r differs due emitted leaves enters stamped moved stopped =>
    have new : g.reports (done ++ [(t, a)]) = g.reports done ++ [r] := by
      rw [reports_concat, emitted, Option.toList_some]
    refine ⟨?_, ?_, fun start running => by cases stopped.symm.trans running⟩
    · rw [new]
      refine List.isChain_append.mpr ⟨spaced.apart, .singleton r, fun r' last r'' first => ?_⟩
      obtain rfl : r = r'' := by simpa using first
      have before := spaced.before_start later (List.mem_of_getLast? last)
      rw [stamped]
      omega
    · rw [new]
      intro r' mem
      rcases List.mem_append.mp mem with old | here
      · obtain ⟨x, inside, stamp⟩ := spaced.stamped r' old
        exact ⟨x, List.mem_append_left _ inside, stamp⟩
      · obtain rfl : r' = r := by simpa using here
        exact ⟨(t, a), by simp, stamped⟩

theorem Lawful.started (lawful : g.Lawful Valid) (valid : Valid s) {start : Nat}
    (running : g.pending (g.after s calls) = some start) :
    g.pending s = some start ∨ ∃ a ∈ calls, g.now a = start := by
  induction calls generalizing s with
  | nil => exact .inl running
  | cons a calls ih =>
    rcases ih (lawful.kept a valid) running with first | ⟨b, mem, same⟩
    · cases lawful.outcome a valid with
      | settled same silent stays stopped => cases stopped.symm.trans first
      | waiting differs early silent stays runs =>
        have started := Option.some.inj (runs.symm.trans first)
        unfold Gate.start at started
        cases pending : g.pending s with
        | none =>
          rw [pending] at started
          exact .inr ⟨a, List.mem_cons_self, started⟩
        | some start' =>
          rw [pending] at started
          exact .inl (congrArg some started)
      | reported r differs due emitted leaves enters stamped moved stopped =>
        cases stopped.symm.trans first
    · exact .inr ⟨b, List.mem_cons_of_mem a mem, same⟩

theorem Lawful.step_towards (lawful : g.Lawful Valid) {goal : σ} {t₀ : Nat} (valid : Valid s)
    (aim : g.target s a = goal) (underway : g.current s = goal ∨ g.start s a ≤ t₀) :
    g.current (g.next s a) = goal ∨ ∃ start ≤ t₀,
      g.pending (g.next s a) = some start ∧ g.now a - start < g.delay := by
  cases lawful.outcome a valid with
  | settled same silent stays stopped => exact .inl (stays.trans (same.symm.trans aim))
  | waiting differs early silent stays runs =>
    rcases underway with there | started
    · exact absurd (aim.trans there.symm) differs
    · exact .inr ⟨_, started, runs, early⟩
  | reported r differs due emitted leaves enters stamped moved stopped =>
    exact .inl (moved.trans aim)

theorem Lawful.run_towards (lawful : g.Lawful Valid) {goal : σ} {t₀ : Nat} {first : A}
    {rest : List A} (valid : Valid s)
    (aim : ∀ a ∈ first :: rest, ∀ t, Valid t → g.target t a = goal)
    (underway : g.current s = goal ∨ g.start s first ≤ t₀) :
    g.current (g.after s (first :: rest)) = goal ∨
      ∃ start ≤ t₀, g.now ((first :: rest).getLast (List.cons_ne_nil _ _)) - start < g.delay := by
  have step := lawful.step_towards valid (aim first List.mem_cons_self s valid) underway
  induction rest generalizing s first with
  | nil =>
    rcases step with there | ⟨start, bound, _, early⟩
    · exact .inl there
    · exact .inr ⟨start, bound, early⟩
  | cons second rest ih =>
    have kept := lawful.kept first valid
    have aim' : ∀ a ∈ second :: rest, ∀ t, Valid t → g.target t a = goal :=
      fun a mem => aim a (List.mem_cons_of_mem first mem)
    have underway' : g.current (g.next s first) = goal ∨ g.start (g.next s first) second ≤ t₀ := by
      rcases step with there | ⟨start, bound, runs, _⟩
      · exact .inl there
      · exact .inr (by rwa [Gate.start, runs])
    have others := ih kept aim' underway'
      (lawful.step_towards kept (aim' second List.mem_cons_self _ kept) underway')
    rwa [List.getLast_cons (List.cons_ne_nil _ _)]

/-- Evaluations with one target that last for the delay end in that state. -/
theorem Lawful.reaches (lawful : g.Lawful Valid) {goal : σ} {first : A} {rest : List A}
    (valid : Valid s) (aim : ∀ a ∈ first :: rest, ∀ t, Valid t → g.target t a = goal)
    (timer : ∀ start, g.pending s = some start → start ≤ g.now first)
    (lasts : g.now first + g.delay ≤ g.now ((first :: rest).getLast (List.cons_ne_nil _ _))) :
    g.current (g.after s (first :: rest)) = goal := by
  have started : g.start s first ≤ g.now first := by
    unfold Gate.start
    cases pending : g.pending s with
    | none => exact Nat.le_refl _
    | some start => exact timer start pending
  rcases lawful.run_towards valid aim (.inr started) with there | ⟨start, bound, early⟩
  · exact there
  · omega

def Held (g : Gate S A σ R) (goal : σ) (u : Nat) (done : List (S × A)) : Prop :=
  ∃ lead first rest, done = lead ++ first :: rest ∧ g.now first.2 = u ∧
    ∀ x ∈ first :: rest, g.target x.1 x.2 = goal

theorem Held.last (done : List (S × A)) (s : S) (a : A) :
    Held g (g.target s a) (g.now a) (done ++ [(s, a)]) :=
  ⟨done, (s, a), [], rfl, rfl, fun x mem => by rw [List.mem_singleton.mp mem]⟩

theorem Held.concat {goal : σ} {u : Nat} {done : List (S × A)} (held : Held g goal u done)
    (same : g.target s a = goal) : Held g goal u (done ++ [(s, a)]) := by
  obtain ⟨lead, first, rest, rfl, time, all⟩ := held
  refine ⟨lead, first, rest ++ [(s, a)], by simp, time, fun x mem => ?_⟩
  rw [← List.cons_append] at mem
  rcases List.mem_append.mp mem with old | new
  · exact all x old
  · rw [List.mem_singleton.mp new]
    exact same

theorem Held.mem {goal : σ} {u : Nat} {done : List (S × A)} (held : Held g goal u done) :
    ∃ x ∈ done, g.now x.2 = u := by
  obtain ⟨lead, first, rest, rfl, time, _⟩ := held
  exact ⟨first, by simp, time⟩

/-- The timer that `y` finds does not pass from one target to another: no time has passed
since its start, `y` stops it, or `y` has the target that the evaluation before it had. -/
def Steady (g : Gate S A σ R) (x y : S × A) : Prop :=
  ∀ start, g.pending y.1 = some start → start = g.now y.2 ∨
    g.target y.1 y.2 = g.current y.1 ∨ g.target y.1 y.2 = g.target x.1 x.2

def Timed (g : Gate S A σ R) (s : S) (done : List (S × A)) : Prop :=
  ∀ start, g.pending s = some start →
    ∃ last ∈ done.getLast?, ∃ u ≤ start, Held g (g.target last.1 last.2) u done

theorem Timed.held {done : List (S × A)} (timed : Timed g s done)
    (steady : ∀ last ∈ done.getLast?, Steady g last (s, a))
    (differs : g.target s a ≠ g.current s) :
    ∃ u ≤ g.start s a, Held g (g.target s a) u (done ++ [(s, a)]) := by
  unfold Gate.start
  cases pending : g.pending s with
  | none => exact ⟨_, Nat.le_refl _, Held.last done s a⟩
  | some start =>
    obtain ⟨last, isLast, u, bound, held⟩ := timed start pending
    rcases steady last isLast start pending with fresh | back | same
    · exact ⟨g.now a, by rw [fresh]; exact Nat.le_refl _, Held.last done s a⟩
    · exact absurd back differs
    · exact ⟨u, bound, same ▸ held.concat same⟩

theorem Lawful.timed (lawful : g.Lawful Valid) (valid : Valid s) (fresh : g.pending s = none)
    (ordered : calls.Pairwise fun a b => g.now a ≤ g.now b)
    (steady : (g.run s calls).1.IsChain (Steady g)) :
    Timed g (g.after s calls) (g.run s calls).1 := by
  refine (lawful.run_induction valid (I := fun t done => done.IsChain (Steady g) → Timed g t done)
    (fun _ start running => by cases fresh.symm.trans running)
    (fun {t done a} reached timed _ chain => ?_) ordered).2 steady
  obtain ⟨earlier, _, link⟩ := List.isChain_append.mp chain
  intro start running
  cases lawful.outcome a reached with
  | settled same silent stays stopped => cases stopped.symm.trans running
  | waiting differs early silent stays runs =>
    cases runs.symm.trans running
    obtain ⟨u, bound, held⟩ := (timed earlier).held (fun last isLast => link last isLast (t, a) rfl)
      differs
    exact ⟨(t, a), by simp, u, bound, held⟩
  | reported r differs due emitted leaves enters stamped moved stopped =>
    cases stopped.symm.trans running

/-- A report of a run without a switch of targets: its state was the target for the delay. -/
theorem Lawful.report_held (lawful : g.Lawful Valid) (valid : Valid s) (fresh : g.pending s = none)
    (ordered : (calls ++ [a]).Pairwise fun a b => g.now a ≤ g.now b)
    (steady : (g.run s (calls ++ [a])).1.IsChain (Steady g)) {r : R}
    (reported : g.report (g.after s calls) a = some r) :
    ∃ u, u + g.delay ≤ g.now a ∧ Held g (g.entered r) u (g.run s (calls ++ [a])).1 := by
  obtain ⟨before, _, between⟩ := List.pairwise_append.mp ordered
  rw [run_concat] at steady ⊢
  obtain ⟨earlier, _, link⟩ := List.isChain_append.mp steady
  cases lawful.outcome a (lawful.after_valid valid calls) with
  | settled same silent stays stopped => cases silent.symm.trans reported
  | waiting differs early silent stays runs => cases silent.symm.trans reported
  | reported r' differs due emitted leaves enters stamped moved stopped =>
    cases emitted.symm.trans reported
    obtain ⟨u, bound, held⟩ := (lawful.timed valid fresh before earlier).held
      (fun last isLast => link last isLast _ rfl) differs
    have past : u ≤ g.now a := by
      obtain ⟨x, mem, rfl⟩ := held.mem
      rcases List.mem_append.mp mem with old | new
      · have called : x.2 ∈ (g.run s calls).1.map Prod.snd := List.mem_map_of_mem old
        rw [run_calls] at called
        exact between x.2 called a List.mem_cons_self
      · rw [List.mem_singleton.mp new]
    exact ⟨u, by omega, enters ▸ held⟩

end Gate

end DelayGate
