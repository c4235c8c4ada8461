import BacnetSim.Lib.Rust
import Mathlib.Data.List.Induction

/-! Runs of a component that answers calls, and when one component's runs are another's. -/
namespace Rust

variable {ε S T C A : Type}

def runCalls (step : S → C → Res ε (A × S)) (s : S) : List C → Res ε (List A × S)
  | [] => .ok ([], s)
  | c :: calls => do
    let (a, s) ← step s c
    let (answers, s) ← runCalls step s calls
    .ok (a :: answers, s)

def runSpec (spec : T → C → A × T) (t : T) : List C → List A × T
  | [] => ([], t)
  | c :: calls =>
    let (a, t) := spec t c
    let (answers, t) := runSpec spec t calls
    (a :: answers, t)

variable {step : S → C → Res ε (A × S)} {spec : T → C → A × T}

/-- Every answer is the specification's, and the states stay related. -/
def Simulates (step : S → C → Res ε (A × S)) (spec : T → C → A × T) (Allowed : C → Prop)
    (Related : S → T → Prop) : Prop :=
  ∀ {s t c}, Related s t → Allowed c →
    ∃ s', step s c = .ok ((spec t c).1, s') ∧ Related s' (spec t c).2

theorem Simulates.run {Allowed : C → Prop} {Related : S → T → Prop}
    (simulates : Simulates step spec Allowed Related) {s : S} {t : T} (related : Related s t)
    {calls : List C} (allowed : ∀ c ∈ calls, Allowed c) :
    ∃ s', runCalls step s calls = .ok ((runSpec spec t calls).1, s') ∧
      Related s' (runSpec spec t calls).2 := by
  induction calls generalizing s t with
  | nil => exact ⟨s, rfl, related⟩
  | cons c calls ih =>
    obtain ⟨s₁, first, related₁⟩ := simulates related (allowed c List.mem_cons_self)
    obtain ⟨s₂, rest, related₂⟩ := ih related₁ fun d mem => allowed d (List.mem_cons_of_mem c mem)
    refine ⟨s₂, ?_, related₂⟩
    simp only [runCalls, first, ok_bind, rest]
    rfl

theorem runSpec_cons (t : T) (c : C) (calls : List C) :
    runSpec spec t (c :: calls) =
      ((spec t c).1 :: (runSpec spec (spec t c).2 calls).1, (runSpec spec (spec t c).2 calls).2) := rfl

theorem runSpec_concat (t : T) (calls : List C) (c : C) :
    runSpec spec t (calls ++ [c]) =
      ((runSpec spec t calls).1 ++ [(spec (runSpec spec t calls).2 c).1],
        (spec (runSpec spec t calls).2 c).2) := by
  induction calls generalizing t with
  | nil => rfl
  | cons first calls ih => simp only [List.cons_append, runSpec, ih]

theorem runSpec_answer {t : T} {calls : List C} {a : A} (mem : a ∈ (runSpec spec t calls).1) :
    ∃ s c, c ∈ calls ∧ a = (spec s c).1 := by
  induction calls generalizing t with
  | nil => cases mem
  | cons c calls ih =>
    rcases List.mem_cons.mp mem with rfl | mem
    · exact ⟨t, c, List.mem_cons_self, rfl⟩
    · obtain ⟨s, d, inside, same⟩ := ih mem
      exact ⟨s, d, List.mem_cons_of_mem c inside, same⟩

theorem runSpec_invariant {I : T → List C → Prop} {t : T} (start : I t [])
    (keeps : ∀ {t before c}, I t before → I (spec t c).2 (before ++ [c])) (calls : List C) :
    I (runSpec spec t calls).2 calls := by
  suffices general : ∀ (calls before : List C) (t : T), I t before →
      I (runSpec spec t calls).2 (before ++ calls) from general calls [] t start
  intro calls
  induction calls with
  | nil =>
    intro before t held
    rwa [List.append_nil]
  | cons c calls ih =>
    intro before t held
    have rest := ih (before ++ [c]) (spec t c).2 (keeps held)
    rwa [List.append_assoc] at rest

def AtEachCall (spec : T → C → A × T) (P : T → C → Prop) (t : T) (calls : List C) : Prop :=
  ∀ before c after, calls = before ++ c :: after → P (runSpec spec t before).2 c

theorem atEachCall_singleton {P : T → C → Prop} {t : T} {c : C} : AtEachCall spec P t [c] ↔ P t c := by
  constructor
  · intro holds
    exact holds [] c [] rfl
  · intro holds before d after part
    cases before with
    | nil =>
      cases part
      exact holds
    | cons first before =>
      have sizes := congrArg List.length part
      simp at sizes

theorem atEachCall_congr {P Q : T → C → Prop} {I : T → Prop} {t : T} (start : I t)
    (keeps : ∀ {t c}, I t → I (spec t c).2) (same : ∀ {t} c, I t → (P t c ↔ Q t c)) (calls : List C) :
    AtEachCall spec P t calls ↔ AtEachCall spec Q t calls := by
  have held (before : List C) : I (runSpec spec t before).2 :=
    runSpec_invariant (I := fun t _ => I t) start (fun held => keeps held) before
  constructor
  · intro holds before c after part
    exact (same c (held before)).mp (holds before c after part)
  · intro holds before c after part
    exact (same c (held before)).mpr (holds before c after part)

theorem runSpec_history {I : T → List A → Prop} {Allowed : C → Prop} {t : T} (start : I t [])
    (keeps : ∀ {t done c}, I t done → Allowed c → I (spec t c).2 (done ++ [(spec t c).1]))
    {calls : List C} (allowed : ∀ c ∈ calls, Allowed c) :
    I (runSpec spec t calls).2 (runSpec spec t calls).1 := by
  induction calls using List.reverseRecOn with
  | nil => exact start
  | append_singleton calls c ih =>
    have held := ih fun d mem => allowed d (List.mem_append_left _ mem)
    rw [runSpec_concat]
    exact keeps held (allowed c (by simp))

end Rust
