import Mathlib.Data.List.Forall2
import Mathlib.Logic.Function.Basic

/-! A stream whose items, numbered as they come, are handed to consumers: each to one of them
at most, and to each in their order. -/
namespace Dispatch

variable {K : Type}

/-- `source k` are the numbers of the items that the consumer `k` has, out of `count`. -/
structure InOrder (source : K → List Nat) (count : Nat) : Prop where
  below : ∀ k, ∀ i ∈ source k, i < count
  increasing : ∀ k, (source k).Pairwise (· < ·)
  apart : ∀ j k i, i ∈ source j → i ∈ source k → j = k

variable {source : K → List Nat} {count : Nat}

theorem InOrder.nothing : InOrder (fun _ : K => []) 0 where
  below := nofun
  increasing _ := .nil
  apart := nofun

theorem InOrder.skip {more : Nat} (held : InOrder source count) (grown : count ≤ more) :
    InOrder source more where
  below k i mem := Nat.lt_of_lt_of_le (held.below k i mem) grown
  increasing := held.increasing
  apart := held.apart

theorem InOrder.lose {source' : K → List Nat} (held : InOrder source count)
    (part : ∀ k, (source' k).Sublist (source k)) : InOrder source' count where
  below k i mem := held.below k i ((part k).subset mem)
  increasing k := (held.increasing k).sublist (part k)
  apart j k i left right := held.apart j k i ((part j).subset left) ((part k).subset right)

variable [DecidableEq K]

theorem InOrder.hand (held : InOrder source count) (k : K) :
    InOrder (Function.update source k (source k ++ [count])) (count + 1) := by
  have old : ∀ j i, i ∈ Function.update source k (source k ++ [count]) j →
      i ∈ source j ∨ (j = k ∧ i = count) := by
    intro j i mem
    by_cases own : j = k
    · subst own
      rw [Function.update_self, List.mem_append, List.mem_singleton] at mem
      exact mem.imp_right fun last => ⟨rfl, last⟩
    · rw [Function.update_of_ne own] at mem
      exact .inl mem
  constructor
  · intro j i mem
    rcases old j i mem with before | ⟨_, rfl⟩
    · exact Nat.lt_succ_of_lt (held.below j i before)
    · exact Nat.lt_succ_self i
  · intro j
    by_cases own : j = k
    · subst own
      rw [Function.update_self, List.pairwise_append]
      refine ⟨held.increasing j, List.pairwise_singleton _ _, ?_⟩
      intro i mem last at_
      rw [List.mem_singleton.mp at_]
      exact held.below j i mem
    · rw [Function.update_of_ne own]
      exact held.increasing j
  · intro j l i left right
    rcases old j i left with before | ⟨rfl, rfl⟩
    · rcases old l i right with after | ⟨rfl, rfl⟩
      · exact held.apart j l i before after
      · exact absurd (held.below j _ before) (Nat.lt_irrefl _)
    · rcases old l _ right with after | ⟨rfl, _⟩
      · exact absurd (held.below l _ after) (Nat.lt_irrefl _)
      · rfl

omit [DecidableEq K] in
theorem forall₂_sublist {A B : Type} {R : A → B → Prop} {reasons : List A} {items part : List B}
    (each : List.Forall₂ R reasons items) (some : part.Sublist items) :
    ∃ chosen, chosen.Sublist reasons ∧ List.Forall₂ R chosen part := by
  induction some generalizing reasons with
  | slnil => exact ⟨[], List.nil_sublist _, .nil⟩
  | cons item _ ih =>
    cases each with
    | cons _ rest =>
      obtain ⟨chosen, inside, explained⟩ := ih rest
      exact ⟨chosen, inside.cons _, explained⟩
  | cons_cons item _ ih =>
    cases each with
    | cons first rest =>
      obtain ⟨chosen, inside, explained⟩ := ih rest
      exact ⟨_ :: chosen, inside.cons_cons _, .cons first explained⟩

end Dispatch
