import BacnetSim.Lib.Sharded

/-! Loops over a hash map that change its values in place, and clean-ups. The keys stay, so
each entry is visited once; what a lemma says of a visit holds in whatever order they come. -/
namespace Rust

namespace HashMap
variable {K V σ : Type}

def visitEntries (body : σ → K → V → σ × V) (s : σ) :
    List (Σ _ : K, V) → σ × List (Σ _ : K, V)
  | [] => (s, [])
  | ⟨k, v⟩ :: rest =>
    let (s, v) := body s k v
    let (s, rest) := visitEntries body s rest
    (s, ⟨k, v⟩ :: rest)

theorem keys_visitEntries (body : σ → K → V → σ × V) (s : σ) (l : List (Σ _ : K, V)) :
    (visitEntries body s l).2.keys = l.keys := by
  induction l generalizing s with
  | nil => rfl
  | cons e l ih => exact congrArg (e.1 :: ·) (ih _)

/-- `for (k, v) in m.iter_mut()`: the body goes on with a state, and leaves a value. -/
def iterMut (body : σ → K → V → σ × V) (s : σ) (m : HashMap K V) : σ × HashMap K V :=
  ((visitEntries body s m.entries).1, ⟨(visitEntries body s m.entries).2, by
    rw [List.NodupKeys, keys_visitEntries]
    exact m.nodupKeys⟩)

/-- `m.retain(|k, v| keep)`. -/
def retain (keep : K → V → Bool) (m : HashMap K V) : HashMap K V :=
  ⟨m.entries.filter fun e => keep e.1 e.2, m.nodupKeys.sublist List.filter_sublist⟩

variable {body : σ → K → V → σ × V} {m : HashMap K V} {s : σ} {k : K} {v : V}

theorem visitEntries_invariant {I : σ → Prop} {l : List (Σ _ : K, V)} (start : I s)
    (keeps : ∀ {s} e, e ∈ l → I s → I (body s e.1 e.2).1) : I (visitEntries body s l).1 := by
  induction l generalizing s with
  | nil => exact start
  | cons e l ih =>
    exact ih (keeps e List.mem_cons_self start) fun e mem => keeps e (List.mem_cons_of_mem _ mem)

/-- The loop seen from one entry: `I` until its visit, and `Q` of what that leaves from there on. -/
theorem visitEntries_tracks {I : σ → Prop} {Q : V → σ → Prop} {l : List (Σ _ : K, V)}
    (nodup : l.NodupKeys) (stored : ⟨k, v⟩ ∈ l) (start : I s)
    (before : ∀ {s} e, e ∈ l → e.1 ≠ k → I s → I (body s e.1 e.2).1)
    (visit : ∀ {s}, I s → Q (body s k v).2 (body s k v).1)
    (after : ∀ {v' s} e, e ∈ l → e.1 ≠ k → Q v' s → Q v' (body s e.1 e.2).1) :
    ∃ v', ⟨k, v'⟩ ∈ (visitEntries body s l).2 ∧ Q v' (visitEntries body s l).1 := by
  induction l generalizing s with
  | nil => cases stored
  | cons e l ih =>
    obtain ⟨fresh, nodup⟩ := List.nodupKeys_cons.mp nodup
    rcases List.mem_cons.mp stored with rfl | stored
    · have other : ∀ e ∈ l, e.1 ≠ k := by
        rintro e mem rfl
        have key := List.mem_keys_of_mem mem
        exact fresh key
      have rest : Q (body s k v).2 (visitEntries body (body s k v).1 l).1 :=
        visitEntries_invariant (visit start) fun e mem =>
          after e (List.mem_cons_of_mem _ mem) (other e mem)
      exact ⟨(body s k v).2, List.mem_cons_self, rest⟩
    · have other : e.1 ≠ k := fun same => fresh (same ▸ List.mem_keys_of_mem stored)
      obtain ⟨v', left, holds⟩ := ih nodup stored (before e List.mem_cons_self other start)
        (fun e mem => before e (List.mem_cons_of_mem _ mem))
        (fun e mem => after e (List.mem_cons_of_mem _ mem))
      exact ⟨v', List.mem_cons_of_mem _ left, holds⟩

section Lookups
variable [DecidableEq K]

theorem lookup_retain (keep : K → V → Bool) (m : HashMap K V) (k : K) :
    AList.lookup k (m.retain keep) = (AList.lookup k m).filter (keep k) := by
  ext v
  rw [Option.filter_eq_some_iff]
  rw [← Option.mem_def, ← Option.mem_def, AList.mem_lookup_iff, AList.mem_lookup_iff]
  exact List.mem_filter

theorem iterMut_invariant {I : σ → Prop} (start : I s)
    (keeps : ∀ {s k v}, AList.lookup k m = some v → I s → I (body s k v).1) :
    I (m.iterMut body s).1 :=
  visitEntries_invariant start fun _ mem => keeps (AList.mem_lookup_iff.mpr mem)

theorem iterMut_tracks {I : σ → Prop} {Q : V → σ → Prop} (stored : AList.lookup k m = some v)
    (start : I s)
    (before : ∀ {s k' v'}, AList.lookup k' m = some v' → k' ≠ k → I s → I (body s k' v').1)
    (visit : ∀ {s}, I s → Q (body s k v).2 (body s k v).1)
    (after : ∀ {left s k' v'}, AList.lookup k' m = some v' → k' ≠ k → Q left s →
      Q left (body s k' v').1) :
    ∃ left, AList.lookup k (m.iterMut body s).2 = some left ∧ Q left (m.iterMut body s).1 := by
  obtain ⟨left, mem, holds⟩ := visitEntries_tracks m.nodupKeys (AList.mem_lookup_iff.mp stored)
    start (fun _ mem => before (AList.mem_lookup_iff.mpr mem)) visit
    (fun _ mem => after (AList.mem_lookup_iff.mpr mem))
  exact ⟨left, AList.mem_lookup_iff.mpr mem, holds⟩

theorem isSome_lookup_iterMut (body : σ → K → V → σ × V) (s : σ) (m : HashMap K V) (k : K) :
    (AList.lookup k (m.iterMut body s).2).isSome = (AList.lookup k m).isSome := by
  rw [Bool.eq_iff_iff, AList.lookup_isSome, AList.lookup_isSome, AList.mem_keys, AList.mem_keys]
  exact iff_of_eq (congrArg (k ∈ ·) (keys_visitEntries body s m.entries))

theorem iterMut_relates {I : σ → Prop} {R : K → V → V → Prop} (start : I s)
    (keeps : ∀ {s k v}, I s → I (body s k v).1) (visit : ∀ {s k v}, I s → R k v (body s k v).2) (k : K) :
    Option.Rel (R k) (AList.lookup k m) (AList.lookup k (m.iterMut body s).2) := by
  have kept := isSome_lookup_iterMut body s m k
  cases stored : AList.lookup k m with
  | none =>
    rw [stored] at kept
    rw [Option.isNone_iff_eq_none.mp (Option.isSome_eq_false_iff.mp kept)]
    exact .none
  | some v =>
    obtain ⟨left, found, related⟩ : ∃ left, AList.lookup k (m.iterMut body s).2 = some left ∧ R k v left :=
      iterMut_tracks (I := I) (Q := fun left _ => R k v left) stored start
        (fun _ _ held => keeps held) (fun held => visit held) (fun _ _ related => related)
    rw [found]
    exact .some related

theorem lookup_iterMut {g : K → V → V} (same : ∀ s k v, (body s k v).2 = g k v) :
    AList.lookup k (m.iterMut body s).2 = (AList.lookup k m).map (g k) := by
  cases stored : AList.lookup k m with
  | none =>
    have kept := isSome_lookup_iterMut body s m k
    rw [stored] at kept
    exact Option.isNone_iff_eq_none.mp (Option.isSome_eq_false_iff.mp kept)
  | some v =>
    obtain ⟨left, found, rfl⟩ := iterMut_tracks (I := fun _ => True) (Q := fun left _ => left = g k v)
      (s := s) stored trivial (fun _ _ _ => trivial) (fun _ => same _ k v) (fun _ _ left => left)
    exact found

end Lookups
end HashMap

namespace Shards
variable {n : Nat} {K V σ : Type}

def visitShards (body : σ → Fin n → K → V → σ × V) (visited : σ × Shards n K V) :
    List (Fin n) → σ × Shards n K V
  | [] => visited
  | i :: rest =>
    let (s, m) := (visited.2.get i).iterMut (fun s => body s i) visited.1
    visitShards body (s, visited.2.set i m i.isLt) rest

def iterMut (body : σ → Fin n → K → V → σ × V) (s : σ) (shards : Shards n K V) :
    σ × Shards n K V :=
  visitShards body (s, shards) (List.finRange n)

variable {body : σ → Fin n → K → V → σ × V} {shards : Shards n K V} {s : σ} {i : Fin n} {k : K}
  {v : V}

theorem get_set_ne {α : Type} {xs : Vector α n} {i j : Fin n} (x : α) (ne : j ≠ i) :
    (xs.set j x j.isLt).get i = xs.get i :=
  Vector.getElem_set_ne _ _ fun same => ne (Fin.ext same)

theorem get_set_self {α : Type} {xs : Vector α n} {i : Fin n} (x : α) :
    (xs.set i x i.isLt).get i = x :=
  Vector.getElem_set_self i.isLt

theorem visitShards_other {visited : σ × Shards n K V} {is : List (Fin n)} (other : i ∉ is) :
    (visitShards body visited is).2.get i = visited.2.get i := by
  induction is generalizing visited with
  | nil => rfl
  | cons j is ih =>
    rw [visitShards, ih (fun mem => other (List.mem_cons_of_mem j mem))]
    exact get_set_ne _ fun same => other (same ▸ List.mem_cons_self)

variable [DecidableEq K]

theorem lookup_get (shards : Shards n K V) (i : Fin n) (k : K) :
    shards.lookup i k = AList.lookup k (shards.get i) := rfl

theorem visitShards_invariant {I : σ → Prop} {visited : σ × Shards n K V} {is : List (Fin n)}
    (nodup : is.Nodup) (fresh : ∀ i ∈ is, visited.2.get i = shards.get i) (start : I visited.1)
    (keeps : ∀ {s i k v}, i ∈ is → shards.lookup i k = some v → I s → I (body s i k v).1) :
    I (visitShards body visited is).1 := by
  induction is generalizing visited with
  | nil => exact start
  | cons i is ih =>
    obtain ⟨once, nodup⟩ := List.nodup_cons.mp nodup
    refine ih nodup ?_ ?_ fun mem => keeps (List.mem_cons_of_mem i mem)
    · intro j mem
      have other : i ≠ j := fun same => once (same ▸ mem)
      rw [get_set_ne _ other]
      exact fresh j (List.mem_cons_of_mem i mem)
    · rw [fresh i List.mem_cons_self]
      exact HashMap.iterMut_invariant start fun found => keeps List.mem_cons_self found

theorem lookup_visitShard {visited : σ × Shards n K V} {i j : Fin n} (k : K) :
    Shards.lookup (visitShards body visited [i]).2 j k =
      if j = i then AList.lookup k ((visited.2.get i).iterMut (fun s => body s i) visited.1).2
      else visited.2.lookup j k := by
  rw [lookup_get]
  split
  · rename_i here
    subst here
    exact congrArg (AList.lookup k) (get_set_self _)
  · rename_i other
    rw [visitShards_other (by simpa using other), lookup_get]

/-- Each value is related to what the loops over some shards make of it as it is to what a visit
does. -/
theorem visitShards_relates {I : σ → Prop} {R : Fin n → K → V → V → Prop}
    (refl : ∀ {i k} v, R i k v v) (trans : ∀ {i k v v' v''}, R i k v v' → R i k v' v'' → R i k v v'')
    (keeps : ∀ {s i k v}, I s → I (body s i k v).1) (visit : ∀ {s i k v}, I s → R i k v (body s i k v).2)
    (visited : σ × Shards n K V) (start : I visited.1) (is : List (Fin n)) :
    I (visitShards body visited is).1 ∧ ∀ j k, Option.Rel (R j k) (visited.2.lookup j k)
      (Shards.lookup (visitShards body visited is).2 j k) := by
  have same : ∀ j k (o : Option V), Option.Rel (R j k) o o := by
    intro j k o
    cases o with
    | none => exact .none
    | some v => exact .some (refl v)
  induction is generalizing visited with
  | nil => exact ⟨start, fun j k => same j k _⟩
  | cons i is ih =>
    have first : I (visitShards body visited [i]).1 := HashMap.iterMut_invariant start fun _ => keeps
    obtain ⟨held, rest⟩ := ih _ first
    refine ⟨held, fun j k => ?_⟩
    have step : Option.Rel (R j k) (visited.2.lookup j k)
        (Shards.lookup (visitShards body visited [i]).2 j k) := by
      rw [lookup_visitShard]
      split
      · rename_i here
        subst here
        exact HashMap.iterMut_relates (I := I) (R := R j) start (fun held => keeps held)
          (fun held => visit held) k
      · exact same j k _
    have later := rest j k
    change Option.Rel (R j k) _ (Shards.lookup (visitShards body (visitShards body visited [i]) is).2 j k)
    generalize Shards.lookup (visitShards body visited [i]).2 j k = middle at step later
    generalize visited.2.lookup j k = before at step
    generalize Shards.lookup (visitShards body (visitShards body visited [i]) is).2 j k = after at later
    cases step with
    | none => exact later
    | some related =>
      cases later with
      | some related' => exact .some (trans related related')

theorem iterMut_invariant {I : σ → Prop} (start : I s)
    (keeps : ∀ {s i k v}, shards.lookup i k = some v → I s → I (body s i k v).1) :
    I (shards.iterMut body s).1 :=
  visitShards_invariant (List.nodup_finRange n) (fun _ _ => rfl) start fun _ => keeps

theorem iterMut_tracks (body : σ → Fin n → K → V → σ × V) {I : σ → Prop} {Q : V → σ → Prop}
    (stored : shards.lookup i k = some v) (start : I s)
    (before : ∀ {s i' k' v'}, shards.lookup i' k' = some v' → (i', k') ≠ (i, k) → I s →
      I (body s i' k' v').1)
    (visit : ∀ {s}, I s → Q (body s i k v).2 (body s i k v).1)
    (after : ∀ {left s i' k' v'}, shards.lookup i' k' = some v' → (i', k') ≠ (i, k) → Q left s →
      Q left (body s i' k' v').1) :
    ∃ left, Shards.lookup (shards.iterMut body s).2 i k = some left ∧
      Q left (shards.iterMut body s).1 := by
  suffices general : ∀ (is : List (Fin n)) (visited : σ × Shards n K V), is.Nodup → i ∈ is →
      (∀ j ∈ is, visited.2.get j = shards.get j) → I visited.1 →
      ∃ left, Shards.lookup (visitShards body visited is).2 i k = some left ∧
        Q left (visitShards body visited is).1 from
    general _ (s, shards) (List.nodup_finRange n) (List.mem_finRange i) (fun _ _ => rfl) start
  intro is
  induction is with
  | nil =>
    intro visited nodup mem
    cases mem
  | cons j is ih =>
    intro visited nodup mem fresh start
    obtain ⟨once, nodup⟩ := List.nodup_cons.mp nodup
    have rest : ∀ m : HashMap K V, ∀ j' ∈ is, (visited.2.set j m j.isLt).get j' = shards.get j' := by
      intro m j' mem
      have other : j ≠ j' := fun same => once (same ▸ mem)
      rw [get_set_ne _ other]
      exact fresh j' (List.mem_cons_of_mem j mem)
    rw [visitShards, fresh j List.mem_cons_self]
    by_cases here : j = i
    · subst here
      obtain ⟨left, found, holds⟩ := HashMap.iterMut_tracks (Q := Q) stored start
        (fun found ne => before found fun same => ne (Prod.mk.inj same).2) visit
        (fun found ne => after found fun same => ne (Prod.mk.inj same).2)
      refine ⟨left, ?_, ?_⟩
      · rw [lookup_get, visitShards_other once, get_set_self]
        exact found
      · exact visitShards_invariant nodup (rest _) holds fun mem found =>
          after found fun same => once ((Prod.mk.inj same).1 ▸ mem)
    · refine ih _ nodup ((List.mem_cons.mp mem).resolve_left (Ne.symm here)) (rest _) ?_
      exact HashMap.iterMut_invariant start fun found =>
        before found fun same => here (Prod.mk.inj same).1

theorem isSome_lookup_iterMut (body : σ → Fin n → K → V → σ × V) (s : σ) (shards : Shards n K V)
    (i : Fin n) (k : K) :
    (Shards.lookup (shards.iterMut body s).2 i k).isSome = (shards.lookup i k).isSome := by
  suffices general : ∀ (is : List (Fin n)) (visited : σ × Shards n K V),
      (Shards.lookup (visitShards body visited is).2 i k).isSome =
        (Shards.lookup visited.2 i k).isSome from general _ (s, shards)
  intro is
  induction is with
  | nil => exact fun _ => rfl
  | cons j is ih =>
    intro visited
    rw [visitShards, ih]
    by_cases here : j = i
    · subst here
      rw [lookup_get, get_set_self, lookup_get]
      exact HashMap.isSome_lookup_iterMut _ _ _ _
    · rw [lookup_get, get_set_ne _ here, lookup_get]

theorem lookup_iterMut {left : V} (found : Shards.lookup (shards.iterMut body s).2 i k = some left) :
    ∃ v s', shards.lookup i k = some v ∧ left = (body s' i k v).2 := by
  have kept := isSome_lookup_iterMut body s shards i k
  rw [found] at kept
  obtain ⟨v, stored⟩ := Option.isSome_iff_exists.mp kept.symm
  obtain ⟨left', found', s', same⟩ := iterMut_tracks body (s := s) (I := fun _ => True)
    (Q := fun left _ => ∃ s', left = (body s' i k v).2) stored trivial (fun _ _ _ => trivial)
    (fun _ => ⟨_, rfl⟩) (fun _ _ left => left)
  cases found.symm.trans found'
  exact ⟨v, s', stored, same⟩

end Shards

namespace HashMap
variable {K V W σ τ : Type}

def mapValues (f : V → W) (m : HashMap K V) : HashMap K W :=
  ⟨m.entries.map (.map id fun _ => f), List.NodupKeys.map₂ (fun _ => f) m.entries m.nodupKeys⟩

theorem visitEntries_erase {body : σ → K → V → σ × V} {plain : τ → K → V → τ × V} {erase : σ → τ}
    (visit : ∀ s k v, Prod.map erase id (body s k v) = plain (erase s) k v) (s : σ)
    (l : List (Σ _ : K, V)) :
    Prod.map erase id (visitEntries body s l) = visitEntries plain (erase s) l := by
  induction l generalizing s with
  | nil => rfl
  | cons e l ih =>
    have first := visit s e.1 e.2
    have rest := ih (body s e.1 e.2).1
    simp only [visitEntries, ← first, Prod.map_fst, ← rest]
    rfl

variable [DecidableEq K] (f : V → W) (m : HashMap K V) (k : K)

theorem lookup_mapValues : AList.lookup k (m.mapValues f) = (AList.lookup k m).map f :=
  List.dlookup_map₂ k

theorem mapValues_insert (v : V) :
    mapValues f (AList.insert k v m) = AList.insert k (f v) (m.mapValues f) := by
  apply AList.ext
  rw [AList.entries_insert]
  simp only [mapValues, AList.entries_insert, List.kerase, List.eraseP_map, List.map_cons]
  rfl

end HashMap

/-- A loop whose body is `plain` when seen through `erase` is the loop of `plain` when seen so. -/
theorem Shards.iterMut_erase {n : Nat} {K V σ τ : Type} {body : σ → Fin n → K → V → σ × V}
    {plain : τ → Fin n → K → V → τ × V} {erase : σ → τ}
    (visit : ∀ s i k v, Prod.map erase id (body s i k v) = plain (erase s) i k v) (s : σ)
    (shards : Shards n K V) :
    shards.iterMut plain (erase s) = (erase (shards.iterMut body s).1, (shards.iterMut body s).2) := by
  suffices general : ∀ (is : List (Fin n)) (visited : σ × Shards n K V),
      visitShards plain (erase visited.1, visited.2) is =
        (erase (visitShards body visited is).1, (visitShards body visited is).2) from general _ (s, shards)
  intro is
  induction is with
  | nil => exact fun _ => rfl
  | cons i is ih =>
    intro visited
    have all : Prod.map erase id (HashMap.visitEntries (fun s => body s i) visited.1 _) =
        HashMap.visitEntries (fun t => plain t i) (erase visited.1) (visited.2.get i).entries :=
      HashMap.visitEntries_erase (fun s => visit s i) visited.1 _
    obtain ⟨states, left⟩ := Prod.mk.inj all
    have entries : (visited.2.get i).iterMut (fun t => plain t i) (erase visited.1) =
        (erase ((visited.2.get i).iterMut (fun s => body s i) visited.1).1,
          ((visited.2.get i).iterMut (fun s => body s i) visited.1).2) :=
      Prod.ext states.symm (AList.ext left.symm)
    rw [visitShards, entries, visitShards]
    generalize (visited.2.get i).iterMut (fun s => body s i) visited.1 = swept
    exact ih (swept.1, visited.2.set i swept.2 i.isLt)

end Rust
