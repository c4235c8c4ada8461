import BacnetSim.Lib.Rust

/-! Loops that read items off a buffer. A turn either ends the loop or reads one item
and moves forward, which bounds the number of turns. -/
namespace Rust

inductive Turn (α : Type) where
  | done (pos : Nat)
  | item (a : α) (next : Nat)

/-- A `while` loop over one position, which stays below `limit` while it reads. -/
structure Loop (ε α : Type) where
  limit : Nat
  turn : Nat → Res ε (Turn α)
  forward : ∀ {pos : Nat} {a : α} {next : Nat}, turn pos = .ok (.item a next) →
    pos < limit ∧ pos < next

namespace Loop
variable {ε α σ : Type}

def run (l : Loop ε α) (pos : Nat) : Res ε (List α × Nat) :=
  match _read : l.turn pos with
  | .error e => .error e
  | .ok (.done stop) => .ok ([], stop)
  | .ok (.item a next) => do
    let (items, stop) ← run l next
    .ok (a :: items, stop)
termination_by l.limit - pos
decreasing_by
  have forward := l.forward _read
  omega

def runWithin (l : Loop ε α) : Nat → Nat → Option (Res ε (List α × Nat))
  | 0, _ => none
  | fuel + 1, pos =>
    match l.turn pos with
    | .error e => some (.error e)
    | .ok (.done stop) => some (.ok ([], stop))
    | .ok (.item a next) => (runWithin l fuel next).map fun tail => do
      let (items, stop) ← tail
      .ok (a :: items, stop)

variable {l : Loop ε α} {pos stop next : Nat} {a : α}

theorem run_error {e : Fault ε} (read : l.turn pos = .error e) : l.run pos = .error e := by
  rw [run]
  split
  · rename_i other
    cases read.symm.trans other
    rfl
  · rename_i other
    cases read.symm.trans other
  · rename_i other
    cases read.symm.trans other

theorem run_done (read : l.turn pos = .ok (.done stop)) : l.run pos = .ok ([], stop) := by
  rw [run]
  split
  · rename_i other
    cases read.symm.trans other
  · rename_i other
    cases read.symm.trans other
    rfl
  · rename_i other
    cases read.symm.trans other

theorem run_item (read : l.turn pos = .ok (.item a next)) :
    l.run pos = (do let (items, stop) ← l.run next; .ok (a :: items, stop)) := by
  rw [run]
  split
  · rename_i other
    cases read.symm.trans other
  · rename_i other
    cases read.symm.trans other
  · rename_i other
    cases read.symm.trans other
    rfl

/-- A turn that reads moves forward, so a turn for each position that is left is enough. -/
theorem runWithin_eq {fuel : Nat} (enough : l.limit - pos < fuel) :
    l.runWithin fuel pos = some (l.run pos) := by
  induction fuel generalizing pos with
  | zero => exact absurd enough (Nat.not_lt_zero _)
  | succ fuel ih =>
    rw [runWithin]
    cases read : l.turn pos with
    | error e => rw [run_error read]
    | ok turn =>
      cases turn with
      | done stop => rw [run_done read]
      | item a next =>
        have forward := l.forward read
        have rest : l.limit - next < fuel := by omega
        simp only [ih rest, Option.map_some, run_item read]

theorem run_invariant {I : Nat → List α → Nat → Prop}
    (done : ∀ {pos stop}, l.turn pos = .ok (.done stop) → I pos [] stop)
    (item : ∀ {pos a next items stop}, l.turn pos = .ok (.item a next) → I next items stop →
      I pos (a :: items) stop)
    {r : List α × Nat} (ran : l.run pos = .ok r) : I pos r.1 r.2 := by
  induction pos using run.induct l generalizing r with
  | case1 pos e read =>
    rw [run_error read] at ran
    cases ran
  | case2 pos stop read =>
    rw [run_done read] at ran
    cases ran
    exact done read
  | case3 pos a next read ih =>
    rw [run_item read] at ran
    obtain ⟨⟨items, stop⟩, tail, eq⟩ := bind_eq_ok ran
    cases eq
    exact item read (ih tail)

theorem run_safe (each : ∀ pos, Safe (l.turn pos)) : Safe (l.run pos) := by
  induction pos using run.induct l with
  | case1 pos e read =>
    rw [run_error read]
    intro failed
    cases failed
    exact each pos read
  | case2 pos stop read =>
    rw [run_done read]
    exact safe_ok _
  | case3 pos a next read ih =>
    rw [run_item read]
    exact ih.bind fun _ _ => safe_ok _

/-- A loop inverts a concatenation of encodings when each turn inverts one of them.
`Follows` says what a turn may find behind its own item. -/
theorem run_inverts {β : Type} {value : β → α} (Follows : List σ → Prop) (tail : List σ) (extra : Nat)
    {encode : β → List σ} {Valid : β → Prop} {buf : List σ}
    (each : ∀ {b pos rest}, Valid b → Follows rest → Cursor buf pos (encode b ++ rest) →
      l.turn pos = .ok (.item (value b) (pos + (encode b).length)))
    (follow : ∀ {b rest}, Follows (encode b ++ rest)) (last : Follows tail)
    (ends : ∀ {pos}, Cursor buf pos tail → l.turn pos = .ok (.done (pos + extra)))
    {items : List β} (valid : ∀ b ∈ items, Valid b)
    (at_ : Cursor buf pos (items.flatMap encode ++ tail)) :
    l.run pos = .ok (items.map value, pos + (items.flatMap encode).length + extra) := by
  induction items generalizing pos with
  | nil => exact run_done (ends at_)
  | cons b items ih =>
    rw [List.flatMap_cons, List.append_assoc] at at_
    have behind : Follows (items.flatMap encode ++ tail) := by
      cases items with
      | nil => exact last
      | cons next items =>
        rw [List.flatMap_cons, List.append_assoc]
        exact follow
    have read := each (valid b List.mem_cons_self) behind at_
    have others := ih (fun other mem => valid other (List.mem_cons_of_mem b mem)) at_.advance
    rw [run_item read, others, List.flatMap_cons, List.length_append]
    simp only [ok_bind, List.map_cons, Nat.add_assoc]

end Loop

end Rust
