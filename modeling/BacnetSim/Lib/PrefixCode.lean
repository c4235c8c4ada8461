import Mathlib.Data.List.Forall2

/-! Encodings that can be split off the front of any longer stream, up to a relation
that says which items the encoding does not tell apart. -/
namespace PrefixCode

variable {α β σ : Type} {Valid : α → Prop} {Same : α → α → Prop} {f : α → List σ}

def Separates (Valid : α → Prop) (Same : α → α → Prop) (f : α → List σ) : Prop :=
  ∀ {a b : α} {s t : List σ}, Valid a → Valid b → f a ++ s = f b ++ t → Same a b ∧ s = t

def Apart (e e' : List σ) : Prop := ∀ s t : List σ, e ++ s ≠ e' ++ t

theorem apart_of_heads {x y : σ} {e e' : List σ} (differ : x ≠ y) : Apart (x :: e) (y :: e') := by
  intro s t same
  exact differ (List.cons.inj same).1

theorem Apart.append_left {e e' e'' : List σ} (apart : Apart e e') : Apart (e ++ e'') e' := by
  intro s t same
  rw [List.append_assoc] at same
  exact apart _ t same

theorem Separates.congr {e : α → List σ} (code : Separates Valid Same f)
    (same : ∀ a, Valid a → e a = f a) : Separates Valid Same e := by
  intro a b s t va vb equal
  rw [same a va, same b vb] at equal
  exact code va vb equal

theorem Separates.optional {ValidB : β → Prop} {SameB : β → β → Prop} {g : β → List σ}
    (first : Separates Valid Same f) (second : Separates ValidB SameB g)
    (apart : ∀ a b, Valid a → ValidB b → Apart (f a) (g b)) {o o' : Option α} {b b' : β}
    {s t : List σ} (vo : ∀ a ∈ o, Valid a) (vo' : ∀ a ∈ o', Valid a) (vb : ValidB b)
    (vb' : ValidB b') (same : ((o.map f).getD [] ++ g b) ++ s = ((o'.map f).getD [] ++ g b') ++ t) :
    Option.Rel Same o o' ∧ SameB b b' ∧ s = t := by
  cases o with
  | none =>
    cases o' with
    | none =>
      obtain ⟨tail, rest⟩ := second vb vb' same
      exact ⟨.none, tail, rest⟩
    | some a' =>
      have va' := vo' a' rfl
      simp only [Option.map_none, Option.map_some, Option.getD_none, Option.getD_some,
        List.nil_append, List.append_assoc] at same
      exact absurd same.symm (apart a' b va' vb _ _)
  | some a =>
    have va := vo a rfl
    cases o' with
    | none =>
      simp only [Option.map_none, Option.map_some, Option.getD_none, Option.getD_some,
        List.nil_append, List.append_assoc] at same
      exact absurd same (apart a b' va vb' _ _)
    | some a' =>
      simp only [Option.map_some, Option.getD_some, List.append_assoc] at same
      obtain ⟨head, same⟩ := first va (vo' a' rfl) same
      obtain ⟨tail, rest⟩ := second vb vb' same
      exact ⟨.some head, tail, rest⟩

theorem Separates.list (Ends : List σ → Prop) (code : Separates Valid Same f)
    (goesOn : ∀ {a s}, Valid a → ¬ Ends (f a ++ s)) {items items' : List α} {s t : List σ}
    (valid : ∀ a ∈ items, Valid a) (valid' : ∀ a ∈ items', Valid a) (ends : Ends s) (ends' : Ends t)
    (same : items.flatMap f ++ s = items'.flatMap f ++ t) : List.Forall₂ Same items items' ∧ s = t := by
  induction items generalizing items' with
  | nil =>
    cases items' with
    | nil => exact ⟨.nil, same⟩
    | cons a' items' =>
      rw [List.flatMap_nil, List.nil_append, List.flatMap_cons, List.append_assoc] at same
      rw [same] at ends
      exact absurd ends (goesOn (valid' a' List.mem_cons_self))
  | cons a items ih =>
    have va := valid a List.mem_cons_self
    cases items' with
    | nil =>
      rw [List.flatMap_nil, List.nil_append, List.flatMap_cons, List.append_assoc] at same
      rw [← same] at ends'
      exact absurd ends' (goesOn va)
    | cons a' items' =>
      rw [List.flatMap_cons, List.flatMap_cons, List.append_assoc, List.append_assoc] at same
      obtain ⟨head, same⟩ := code va (valid' a' List.mem_cons_self) same
      obtain ⟨tail, rest⟩ := ih (fun b mem => valid b (List.mem_cons_of_mem a mem))
        (fun b mem => valid' b (List.mem_cons_of_mem a' mem)) same
      exact ⟨.cons head tail, rest⟩

theorem Separates.closed {stop : List σ} (code : Separates Valid Same f)
    (apart : ∀ a, Valid a → Apart (f a) stop) :
    Separates (fun items => ∀ a ∈ items, Valid a) (List.Forall₂ Same)
      (fun items => items.flatMap f ++ stop) := by
  intro items items' s t valid valid' same
  rw [List.append_assoc, List.append_assoc] at same
  have goesOn : ∀ {a s}, Valid a → ¬ ∃ t, f a ++ s = stop ++ t :=
    fun va ⟨t, eq⟩ => apart _ va _ t eq
  obtain ⟨all, rest⟩ := code.list (fun s => ∃ t, s = stop ++ t) goesOn valid valid' ⟨s, rfl⟩
    ⟨t, rfl⟩ same
  exact ⟨all, List.append_cancel_left rest⟩

theorem Separates.whole (code : Separates Valid Same f) (nonempty : ∀ a, Valid a → f a ≠ [])
    {items items' : List α} (valid : ∀ a ∈ items, Valid a) (valid' : ∀ a ∈ items', Valid a)
    (same : items.flatMap f = items'.flatMap f) : List.Forall₂ Same items items' := by
  have padded : items.flatMap f ++ [] = items'.flatMap f ++ [] := by rw [same]
  have goesOn : ∀ {a s}, Valid a → f a ++ s ≠ [] := by
    intro a s va empty
    exact nonempty a va (List.append_eq_nil_iff.mp empty).1
  exact (code.list (· = []) goesOn valid valid' rfl rfl padded).1

end PrefixCode
