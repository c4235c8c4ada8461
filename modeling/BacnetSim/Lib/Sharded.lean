import BacnetSim.Lib.Rust

/-! Hash maps split into shards. An insertion names its shard, so nothing is assumed
about how shards are chosen. -/
namespace Rust

abbrev Shards (n : Nat) (K V : Type) := Vector (HashMap K V) n

namespace Shards
variable {n : Nat} {K V : Type} [DecidableEq K]

abbrev Item (n : Nat) (K V : Type) := Fin n × K × V

def empty (n : Nat) (K V : Type) : Shards n K V := Vector.replicate n ∅

def lookup (s : Shards n K V) (i : Fin n) (k : K) : Option V := AList.lookup k s[i]

def insert (s : Shards n K V) (item : Item n K V) : Shards n K V :=
  s.set item.1 (AList.insert item.2.1 item.2.2 s[item.1])

/-- The first pass of a bulk insertion: the items by shard, in their order. -/
def bucket (items : List (Item n K V)) : Vector (List (K × V)) n :=
  items.foldl (fun byShard item => byShard.set item.1 (byShard[item.1] ++ [item.2]))
    (Vector.replicate n [])

def insertAll (m : HashMap K V) (entries : List (K × V)) : HashMap K V :=
  entries.foldl (fun m entry => AList.insert entry.1 entry.2 m) m

def bulkInsert (s : Shards n K V) (items : List (Item n K V)) : Shards n K V :=
  (List.finRange n).foldl (fun s i =>
    if (bucket items)[i].isEmpty then s else s.set i (insertAll s[i] (bucket items)[i])) s

def count (s : Shards n K V) : Nat := (s.map HashMap.len).sum

@[simp] theorem lookup_empty (i : Fin n) (k : K) : (empty n K V).lookup i k = none := by
  simp [lookup, empty]

theorem lookup_insert (s : Shards n K V) (item : Item n K V) (i : Fin n) (k : K) :
    (s.insert item).lookup i k =
      if item.1 = i ∧ item.2.1 = k then some item.2.2 else s.lookup i k := by
  obtain ⟨j, k', v⟩ := item
  by_cases shard : j = i
  · subst shard
    by_cases key : k' = k
    · subst key
      simp [lookup, insert]
    · simp [lookup, insert, key, AList.lookup_insert_ne (Ne.symm key)]
  · have other : (j : Nat) ≠ i := fun h => shard (Fin.ext h)
    simp [lookup, insert, shard, Vector.getElem_set_ne _ _ other]

theorem sum_set (l : List Nat) (i : Nat) (x : Nat) (h : i < l.length) :
    (l.set i x).sum + l[i] = l.sum + x := by
  induction l generalizing i with
  | nil => cases h
  | cons a l ih =>
    cases i with
    | zero =>
      simp only [List.set_cons_zero, List.sum_cons, List.getElem_cons_zero]
      omega
    | succ i =>
      have tail := ih i (Nat.lt_of_succ_lt_succ h)
      simp only [List.set_cons_succ, List.sum_cons, List.getElem_cons_succ]
      omega

omit [DecidableEq K] in
theorem count_eq (s : Shards n K V) : s.count = (s.toList.map HashMap.len).sum := by
  rw [count, ← Vector.sum_toList, Vector.toList_map]

omit [DecidableEq K] in
theorem count_set (s : Shards n K V) (i : Fin n) (m : HashMap K V) :
    Shards.count (s.set i m) + s[i].len = s.count + m.len := by
  have h : (i : Nat) < (s.toList.map HashMap.len).length := by simp
  have sums := sum_set (s.toList.map HashMap.len) i m.len h
  simpa [count_eq, Vector.toList_set, List.map_set] using sums

omit [DecidableEq K] in
@[simp] theorem count_empty : (empty n K V).count = 0 := by
  simp [count_eq, empty, HashMap.len]

theorem count_insert (s : Shards n K V) (item : Item n K V) :
    (s.insert item).count = s.count + if (s.lookup item.1 item.2.1).isSome then 0 else 1 := by
  obtain ⟨i, k, v⟩ := item
  have sums := count_set s i (AList.insert k v s[i])
  rw [HashMap.len_insert] at sums
  change Shards.count (s.set i (AList.insert k v s[i])) =
    s.count + if (AList.lookup k s[i]).isSome then 0 else 1
  omega

def itemsOf (i : Fin n) (items : List (Item n K V)) : List (K × V) :=
  (items.filter (·.1 = i)).map (·.2)

omit [DecidableEq K] in
theorem foldl_bucket (items : List (Item n K V)) (byShard : Vector (List (K × V)) n) (i : Fin n) :
    (items.foldl (fun byShard item => byShard.set item.1 (byShard[item.1] ++ [item.2])) byShard)[i] =
      byShard[i] ++ itemsOf i items := by
  induction items generalizing byShard with
  | nil => simp [itemsOf]
  | cons item items ih =>
    rw [List.foldl_cons, ih]
    by_cases shard : item.1 = i
    · subst shard
      simp [itemsOf]
    · have other : (item.1 : Nat) ≠ i := fun h => shard (Fin.ext h)
      simp [itemsOf, shard, Vector.getElem_set_ne _ _ other]

omit [DecidableEq K] in
theorem bucket_get (items : List (Item n K V)) (i : Fin n) :
    (bucket items)[i] = itemsOf i items := by
  rw [bucket, foldl_bucket]
  simp

theorem foldl_insert_get (items : List (Item n K V)) (s : Shards n K V) (i : Fin n) :
    (items.foldl insert s)[i] = insertAll s[i] (itemsOf i items) := by
  induction items generalizing s with
  | nil => rfl
  | cons item items ih =>
    rw [List.foldl_cons, ih]
    by_cases shard : item.1 = i
    · subst shard
      simp [itemsOf, insert, insertAll]
    · have other : (item.1 : Nat) ≠ i := fun h => shard (Fin.ext h)
      simp [itemsOf, shard, insert, Vector.getElem_set_ne _ _ other]

theorem foldl_set_get {α : Type} (f : Fin n → α → α) (is : List (Fin n)) (distinct : is.Nodup)
    (s : Vector α n) (i : Fin n) :
    (i ∈ is → (is.foldl (fun s i => s.set i (f i s[i])) s)[i] = f i s[i]) ∧
      (i ∉ is → (is.foldl (fun s i => s.set i (f i s[i])) s)[i] = s[i]) := by
  induction is generalizing s with
  | nil => exact ⟨nofun, fun _ => rfl⟩
  | cons j is ih =>
    obtain ⟨fresh, distinct⟩ := List.nodup_cons.mp distinct
    rw [List.foldl_cons]
    have rest := ih distinct (s.set j (f j s[j]))
    by_cases here : j = i
    · subst here
      constructor
      · intro _
        exact (rest.2 fresh).trans (by simp)
      · intro missing
        exact absurd List.mem_cons_self missing
    · have other : (j : Nat) ≠ i := fun h => here (Fin.ext h)
      have kept : (s.set j (f j s[j]))[i] = s[i] := Vector.getElem_set_ne _ _ other
      rw [kept] at rest
      simpa [Ne.symm here] using rest

/-- Bucketing keeps the order of the items of each shard, so a bulk insertion is the
insertion of its items one by one. -/
theorem bulkInsert_eq_foldl (s : Shards n K V) (items : List (Item n K V)) :
    s.bulkInsert items = items.foldl insert s := by
  have body : ∀ (s : Shards n K V) (i : Fin n),
      (if (bucket items)[i].isEmpty then s else s.set i (insertAll s[i] (bucket items)[i])) =
        s.set i (insertAll s[i] (itemsOf i items)) := by
    intro s i
    rw [bucket_get]
    split
    · rename_i none
      rw [List.isEmpty_iff.mp none]
      simp [insertAll]
    · rfl
  apply Vector.ext
  intro i h
  have looped := foldl_set_get (fun i m => insertAll m (itemsOf i items)) (List.finRange n)
    (List.nodup_finRange n) s ⟨i, h⟩
  have inserted := foldl_insert_get items s ⟨i, h⟩
  simp only [bulkInsert, body]
  exact (looped.1 (List.mem_finRange _)).trans inserted.symm

end Shards

end Rust
