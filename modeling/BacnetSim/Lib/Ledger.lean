import Mathlib.Data.List.Basic

/-! Jobs, numbered as they come, that put what they give into one log, in any order among them. -/
namespace Ledger
variable {T A : Type}

/-- What one job has put into the log, in its order. -/
def share (log : List (Nat × A)) (i : Nat) : List A :=
  log.filterMap fun entry => if entry.1 = i then some entry.2 else none

theorem share_own (log : List (Nat × A)) (i : Nat) (a : A) : share (log ++ [(i, a)]) i = share log i ++ [a] := by
  simp [share]

theorem share_other {i j : Nat} (other : i ≠ j) (log : List (Nat × A)) (a : A) :
    share (log ++ [(i, a)]) j = share log j := by
  simp [share, other]

theorem mem_share {log : List (Nat × A)} {i : Nat} {a : A} : a ∈ share log i ↔ (i, a) ∈ log := by
  rw [share, List.mem_filterMap]
  constructor
  · rintro ⟨⟨j, b⟩, mem, given⟩
    split at given
    · rename_i own
      obtain rfl : j = i := own
      cases given
      exact mem
    · cases given
  · exact fun mem => ⟨(i, a), mem, if_pos rfl⟩

/-- `owes i t given`: the job `i` may have come to `t` with `given` in the log. -/
structure Balanced (owes : Nat → T → List A → Prop) (jobs : List T) (log : List (Nat × A)) : Prop where
  known : ∀ entry ∈ log, entry.1 < jobs.length
  shares : ∀ i t, jobs[i]? = some t → owes i t (share log i)

variable {owes owes' : Nat → T → List A → Prop} {jobs : List T} {log : List (Nat × A)} {t t' : T} {i : Nat}

theorem Balanced.nothing : Balanced owes [] [] where
  known entry mem := by cases mem
  shares i t found := by cases found

theorem Balanced.mono (balanced : Balanced owes jobs log)
    (weaker : ∀ i t given, i < jobs.length → owes i t given → owes' i t given) : Balanced owes' jobs log :=
  ⟨balanced.known, fun i t found =>
    weaker i t _ (List.getElem?_eq_some_iff.mp found).1 (balanced.shares i t found)⟩

theorem Balanced.share_new (balanced : Balanced owes jobs log) : share log jobs.length = [] := by
  refine List.eq_nil_iff_forall_not_mem.mpr fun a mem => ?_
  exact absurd (balanced.known _ (mem_share.mp mem)) (Nat.lt_irrefl _)

theorem Balanced.spawn (balanced : Balanced owes jobs log) (fresh : owes jobs.length t []) :
    Balanced owes (jobs ++ [t]) log where
  known entry mem := by
    rw [List.length_append]
    exact Nat.lt_of_lt_of_le (balanced.known entry mem) (Nat.le_add_right _ _)
  shares j u found := by
    rcases Nat.lt_or_ge j jobs.length with old | new
    · rw [List.getElem?_append_left old] at found
      exact balanced.shares j u found
    · rw [List.getElem?_append_right new] at found
      have inside := (List.getElem?_eq_some_iff.mp found).1
      obtain rfl : j = jobs.length := by
        rw [List.length_singleton] at inside
        omega
      rw [Nat.sub_self] at found
      cases found
      exact balanced.share_new ▸ fresh

theorem getElem?_set_iff (there : jobs[i]? = some t) {j : Nat} {u : T} :
    (jobs.set i t')[j]? = some u ↔ (j = i ∧ u = t') ∨ (j ≠ i ∧ jobs[j]? = some u) := by
  have inside := (List.getElem?_eq_some_iff.mp there).1
  by_cases here : j = i
  · subst here
    rw [List.getElem?_set_self inside, Option.some.injEq]
    constructor
    · exact fun same => .inl ⟨rfl, same.symm⟩
    · rintro (⟨_, same⟩ | ⟨other, _⟩)
      · exact same.symm
      · exact absurd rfl other
  · rw [List.getElem?_set_ne (Ne.symm here)]
    constructor
    · exact fun found => .inr ⟨here, found⟩
    · rintro (⟨same, _⟩ | ⟨_, found⟩)
      · exact absurd same here
      · exact found

theorem Balanced.move (balanced : Balanced owes jobs log) (there : jobs[i]? = some t)
    (owed : owes i t' (share log i)) : Balanced owes (jobs.set i t') log where
  known entry mem := by
    rw [List.length_set]
    exact balanced.known entry mem
  shares j u found := by
    rcases (getElem?_set_iff there).mp found with ⟨rfl, rfl⟩ | ⟨_, before⟩
    · exact owed
    · exact balanced.shares j u before

theorem Balanced.give (balanced : Balanced owes jobs log) (there : jobs[i]? = some t) {a : A}
    (owed : owes i t' (share log i ++ [a])) : Balanced owes (jobs.set i t') (log ++ [(i, a)]) where
  known entry mem := by
    rw [List.length_set]
    rcases List.mem_append.mp mem with old | new
    · exact balanced.known entry old
    · rw [List.mem_singleton.mp new]
      exact (List.getElem?_eq_some_iff.mp there).1
  shares j u found := by
    rcases (getElem?_set_iff there).mp found with ⟨rfl, rfl⟩ | ⟨other, before⟩
    · rw [share_own]
      exact owed
    · rw [share_other (Ne.symm other)]
      exact balanced.shares j u before

end Ledger
