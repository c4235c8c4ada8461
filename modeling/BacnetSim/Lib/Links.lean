import Mathlib.Data.List.Nodup
import Mathlib.Logic.Function.Basic

/-! Values carried along links, one link after the other: each is given what its source holds at
that time, and changes its target. -/
namespace Links

variable {Ref Obj : Type}

structure Link (Ref Obj : Type) where
  source : Ref
  target : Ref
  carry : Obj → Option (Obj → Obj)

def Link.effect (s : Ref → Option Obj) (l : Link Ref Obj) : Obj → Obj :=
  ((s l.source).bind l.carry).getD id

variable [DecidableEq Ref]

def step (s : Ref → Option Obj) (l : Link Ref Obj) : Ref → Option Obj :=
  Function.update s l.target ((s l.target).map (l.effect s))

def run (s : Ref → Option Obj) (links : List (Link Ref Obj)) : Ref → Option Obj := links.foldl step s

def Independent (links : List (Link Ref Obj)) : Prop :=
  links.Pairwise fun l m => l.target ≠ m.source

variable {s : Ref → Option Obj} {l : Link Ref Obj} {links links' : List (Link Ref Obj)} {r : Ref}

theorem step_other (other : l.target ≠ r) : step s l r = s r := Function.update_of_ne (Ne.symm other) _ _

theorem effect_step {m : Link Ref Obj} (apart : l.target ≠ m.source) : m.effect (step s l) = m.effect s := by
  rw [Link.effect, Link.effect, step_other apart]

/-- What a place holds after all links: the changes of those that end there, in their order, each
by what its source held in the beginning. -/
theorem run_apply (independent : Independent links) :
    run s links r = (s r).map fun o =>
      (links.filter (·.target = r)).foldl (fun o l => l.effect s o) o := by
  induction links generalizing s with
  | nil => exact (congrFun Option.map_id (s r)).symm
  | cons l links ih =>
    have later : ∀ m ∈ links, m.effect (step s l) = m.effect s := fun m mem =>
      effect_step ((List.pairwise_cons.mp independent).1 m mem)
    have changes (o : Obj) :
        (links.filter (·.target = r)).foldl (fun o m => m.effect (step s l) o) o =
          (links.filter (·.target = r)).foldl (fun o m => m.effect s o) o := by
      refine List.foldl_ext _ _ _ fun o m mem => ?_
      rw [later m (List.mem_of_mem_filter mem)]
    rw [run, List.foldl_cons, ← run, ih (List.pairwise_cons.mp independent).2]
    simp only [changes]
    by_cases here : l.target = r
    · subst here
      rw [List.filter_cons_of_pos (by simp), step, Function.update_self, Option.map_map]
      rfl
    · rw [List.filter_cons_of_neg (by simpa using here), step_other here]

theorem filter_target (distinct : (links.map Link.target).Nodup) (mem : l ∈ links) :
    links.filter (·.target = l.target) = [l] := by
  induction links with
  | nil => cases mem
  | cons m links ih =>
    rw [List.map_cons, List.nodup_cons] at distinct
    rcases List.mem_cons.mp mem with rfl | mem
    · have none_ : links.filter (·.target = l.target) = [] := by
        rw [List.filter_eq_nil_iff]
        intro m mem
        have other : m.target ≠ l.target := fun same =>
          distinct.1 (List.mem_map.mpr ⟨m, mem, same⟩)
        simpa using other
      rw [List.filter_cons_of_pos (by simp), none_]
    · have other : m.target ≠ l.target := fun same =>
        distinct.1 (List.mem_map.mpr ⟨l, mem, same.symm⟩)
      rw [List.filter_cons_of_neg (by simpa using other)]
      exact ih distinct.2 mem

/-- Links with different ends may come in any such order. -/
theorem run_perm (independent : Independent links) (independent' : Independent links')
    (distinct : (links.map Link.target).Nodup) (perm : links.Perm links') :
    run s links = run s links' := by
  funext r
  rw [run_apply independent, run_apply independent']
  have chosen := perm.filter (·.target = r)
  by_cases ends : ∃ l ∈ links, l.target = r
  · obtain ⟨l, mem, rfl⟩ := ends
    rw [filter_target distinct mem] at chosen ⊢
    rw [List.singleton_perm.mp chosen]
  · have none_ : links.filter (·.target = r) = [] := by
      rw [List.filter_eq_nil_iff]
      intro l mem
      simpa using fun same => ends ⟨l, mem, same⟩
    rw [none_] at chosen ⊢
    rw [List.nil_perm.mp chosen]

end Links
