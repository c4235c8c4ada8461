import BacnetSim.Lib.Rust

/-! Readers of a buffer at a position. A self-delimiting one goes by the octets that it takes:
it takes the same ones wherever they stand, and returns the same for them. -/
namespace Rust

abbrev Reader (ε σ α : Type) := List σ → Nat → Res ε (α × Nat)

variable {ε σ α β : Type} {f : Reader ε σ α} {g : α → Reader ε σ β} {e e' : List σ} {a : α} {b : β}

/-- Off any stream that starts with `e`, the reader takes `e`, and returns `a`. -/
def Reads (f : Reader ε σ α) (e : List σ) (a : α) : Prop :=
  ∀ ⦃buf : List σ⦄ ⦃pos : Nat⦄ ⦃rest : List σ⦄, Cursor buf pos (e ++ rest) →
    f buf pos = .ok (a, pos + e.length)

/-- What is accepted once is accepted wherever it stands. -/
def SelfDelimiting (f : Reader ε σ α) : Prop :=
  ∀ ⦃buf : List σ⦄ ⦃pos : Nat⦄ ⦃stream : List σ⦄ ⦃r : α × Nat⦄, Cursor buf pos stream →
    f buf pos = .ok r → ∃ e rest, stream = e ++ rest ∧ r.2 = pos + e.length ∧ Reads f e r.1

namespace Reader

def bind (f : Reader ε σ α) (g : α → Reader ε σ β) : Reader ε σ β := fun buf pos => do
  let (a, pos) ← f buf pos
  g a buf pos

def ret (x : Res ε α) : Reader ε σ α := fun _ pos => do
  let a ← x
  .ok (a, pos)

def take (n : Nat) (short : ε) : Reader ε σ (List σ) := fun buf pos =>
  if pos + n > buf.length then fail short
  else do
    let bytes ← slice buf pos (pos + n)
    .ok (bytes, pos + n)

end Reader

theorem Reads.bind (first : Reads f e a) (next : Reads (g a) e' b) : Reads (f.bind g) (e ++ e') b := by
  intro buf pos rest at_
  rw [List.append_assoc] at at_
  rw [Reader.bind, first at_, ok_bind, List.length_append, ← Nat.add_assoc]
  exact next at_.advance

theorem SelfDelimiting.bind (first : SelfDelimiting f) (next : ∀ a, SelfDelimiting (g a)) :
    SelfDelimiting (f.bind g) := by
  intro buf pos stream r at_ read
  obtain ⟨⟨a, middle⟩, one, two⟩ := bind_eq_ok read
  obtain ⟨e, rest, rfl, stop, reads⟩ := first at_ one
  obtain rfl : middle = pos + e.length := stop
  obtain ⟨e', rest, rfl, stop, reads'⟩ := next a at_.advance two
  refine ⟨e ++ e', rest, (List.append_assoc _ _ _).symm, ?_, reads.bind reads'⟩
  rw [stop, List.length_append, Nat.add_assoc]

theorem selfDelimiting_ret (x : Res ε α) : SelfDelimiting (Reader.ret x : Reader ε σ α) := by
  intro buf pos stream r at_ read
  obtain ⟨a, value, eq⟩ := bind_eq_ok read
  cases eq
  refine ⟨[], stream, rfl, rfl, ?_⟩
  intro buf pos rest at_
  rw [Reader.ret, value]
  rfl

theorem selfDelimiting_take (n : Nat) (short : ε) :
    SelfDelimiting (Reader.take n short : Reader ε σ (List σ)) := by
  intro buf pos stream r at_ read
  have total := at_.length
  unfold Reader.take at read
  split at read
  · cases read
  · have size : (stream.take n).length = n := List.length_take_of_le (by omega)
    have parts : stream = stream.take n ++ stream.drop n := (List.take_append_drop n stream).symm
    have again : Reads (Reader.take n short) (stream.take n) (stream.take n) := by
      intro buf pos rest at_
      have total := at_.length
      rw [List.length_append, size] at total
      have same := at_.slice (ε := ε)
      rw [size] at same ⊢
      rw [Reader.take, if_neg (by omega), same]
      rfl
    rw [parts] at at_
    have first := again at_
    rw [Reader.take, if_neg (by omega)] at first
    cases read.symm.trans first
    exact ⟨stream.take n, stream.drop n, parts, rfl, again⟩

theorem SelfDelimiting.reads (self : SelfDelimiting f) (read : f e 0 = .ok (a, e.length)) :
    Reads f e a := by
  obtain ⟨front, rest, parts, stop, reads⟩ := self (.start e) read
  have none : rest = [] := by
    have sizes := congrArg List.length parts
    rw [List.length_append] at sizes
    apply List.length_eq_zero_iff.mp
    dsimp only at stop
    omega
  rw [none, List.append_nil] at parts
  subst parts
  exact reads

end Rust
