import Mathlib.Data.List.AList
import Mathlib.Tactic.Ring

/-! Outcomes of fallible code that can also panic, checked slice access, and a
position in a buffer. `Cursor buf pos rest` says what is left to read at a
position, so that a reader's specification never mentions what was read before. -/
namespace Rust

inductive Fault (ε : Type) where
  | err (e : ε)
  | panicked
  deriving DecidableEq, Repr

abbrev Res (ε α : Type) := Except (Fault ε) α

variable {ε α β σ : Type}

def fail (e : ε) : Res ε α := .error (.err e)

def okOr (o : Option α) (e : ε) : Res ε α :=
  match o with
  | some a => .ok a
  | none => fail e

def index (buf : List σ) (i : Nat) : Res ε σ :=
  match buf[i]? with
  | some b => .ok b
  | none => .error .panicked

def slice (buf : List σ) (start stop : Nat) : Res ε (List σ) :=
  if start ≤ stop ∧ stop ≤ buf.length then .ok ((buf.drop start).take (stop - start))
  else .error .panicked

def checkedSub (a b : Nat) : Res ε Nat := if b ≤ a then .ok (a - b) else .error .panicked

/-- `array.copy_from_slice(bs)` into an array of `n` elements. -/
def copyFromSlice (n : Nat) (bs : List σ) : Res ε (Vector σ n) :=
  if size : bs.length = n then .ok ⟨bs.toArray, size⟩ else .error .panicked

def ofExcept (r : Except ε α) : Res ε α :=
  match r with
  | .ok a => .ok a
  | .error e => fail e

@[simp] theorem ok_bind (a : α) (f : α → Res ε β) : (Except.ok a : Res ε α) >>= f = f a := rfl

@[simp] theorem error_bind (e : Fault ε) (f : α → Res ε β) :
    (Except.error e : Res ε α) >>= f = .error e := rfl

@[simp] theorem fail_bind (e : ε) (f : α → Res ε β) :
    (fail e : Res ε α) >>= f = fail e := rfl

@[simp] theorem okOr_some (a : α) (e : ε) : okOr (some a) e = .ok a := rfl

@[simp] theorem okOr_none (e : ε) : okOr (none : Option α) e = fail e := rfl

@[simp] theorem pure_eq_ok (a : α) : (pure a : Res ε α) = .ok a := rfl

@[simp] theorem fail_ne_ok (e : ε) (a : α) : (fail e : Res ε α) ≠ .ok a := nofun

theorem bind_eq_ok {x : Res ε α} {f : α → Res ε β} {b : β} (h : x >>= f = .ok b) :
    ∃ a, x = .ok a ∧ f a = .ok b := by
  cases x with
  | error e => cases h
  | ok a => exact ⟨a, rfl, h⟩

theorem okOr_eq_ok {o : Option α} {e : ε} {a : α} (h : okOr o e = .ok a) : o = some a := by
  cases o with
  | none => cases h
  | some b => cases h; rfl

theorem slice_of_le {buf : List σ} {start stop : Nat} (order : start ≤ stop)
    (bound : stop ≤ buf.length) :
    (slice buf start stop : Res ε (List σ)) = .ok ((buf.drop start).take (stop - start)) := by
  simp [slice, order, bound]

theorem bind_eq_panicked {x : Res ε α} {f : α → Res ε β} :
    x >>= f = .error .panicked ↔
      x = .error .panicked ∨ ∃ a, x = .ok a ∧ f a = .error .panicked := by
  cases x with
  | error e => simp
  | ok a => simp

theorem index_of_lt {buf : List σ} {i : Nat} (bound : i < buf.length) :
    (index buf i : Res ε σ) = .ok buf[i] := by
  simp [index, bound]

@[simp] theorem copyFromSlice_toList {n : Nat} (v : Vector σ n) :
    (copyFromSlice n v.toList : Res ε (Vector σ n)) = .ok v := by
  rw [copyFromSlice, dif_pos v.length_toList]
  rfl

theorem checkedSub_panicked_iff {a b : Nat} :
    (checkedSub a b : Res ε Nat) = .error .panicked ↔ a < b := by
  unfold checkedSub
  split
  · exact iff_of_false nofun (by omega)
  · exact iff_of_true rfl (by omega)

theorem exists_four {buf : List σ} (long : 4 ≤ buf.length) :
    ∃ a b c d rest, buf = a :: b :: c :: d :: rest := by
  match buf, long with
  | a :: b :: c :: d :: rest, _ => exact ⟨a, b, c, d, rest, rfl⟩

/-- No index, slice or subtraction of the call failed. -/
def Safe (r : Res ε α) : Prop := r ≠ .error .panicked

@[simp] theorem safe_ok (a : α) : Safe (.ok a : Res ε α) := nofun

@[simp] theorem safe_fail (e : ε) : Safe (fail e : Res ε α) := nofun

@[simp] theorem safe_okOr (o : Option α) (e : ε) : Safe (okOr o e) := by
  cases o <;> nofun

theorem safe_index {buf : List σ} {i : Nat} (bound : i < buf.length) :
    Safe (index buf i : Res ε σ) := by
  rw [index_of_lt bound]
  exact safe_ok _

theorem safe_slice {buf : List σ} {start stop : Nat} (order : start ≤ stop)
    (bound : stop ≤ buf.length) : Safe (slice buf start stop : Res ε (List σ)) := by
  rw [slice_of_le order bound]
  exact safe_ok _

theorem Safe.bind {x : Res ε α} {f : α → Res ε β} (first : Safe x)
    (next : ∀ a, x = .ok a → Safe (f a)) : Safe (x >>= f) := by
  intro failed
  rcases bind_eq_panicked.mp failed with here | ⟨a, read, there⟩
  · exact first here
  · exact next a read there

theorem Safe.outcome {r : Res ε α} (safe : Safe r) : (∃ a, r = .ok a) ∨ ∃ e, r = fail e := by
  cases r with
  | ok a => exact .inl ⟨a, rfl⟩
  | error f =>
    cases f with
    | err e => exact .inr ⟨e, rfl⟩
    | panicked => exact absurd rfl safe

theorem Safe.refused_or {x : Res ε α} {f : α → Res ε β} {P : Prop} (first : Safe x)
    (next : ∀ a, x = .ok a → (∃ e, f a = fail e) ∨ P) : (∃ e, x >>= f = fail e) ∨ P := by
  rcases first.outcome with ⟨a, ok⟩ | ⟨e, refused⟩
  · rw [ok]
    exact next a ok
  · exact .inl ⟨e, by rw [refused, fail_bind]⟩

/-- The failing calls of which the caller hears. -/
def Refused (r : Res ε α) : Prop := ∃ e, r = fail e

theorem refused_iff {r : Res ε α} {P : Prop} (accepted : ∀ a, r = .ok a → P)
    (crashed : r = .error .panicked → P) (returned : P → ¬ Refused r) : Refused r ↔ ¬ P := by
  constructor
  · intro refused holds
    exact returned holds refused
  · intro fails
    match r with
    | .ok a => exact absurd (accepted a rfl) fails
    | .error (.err e) => exact ⟨e, rfl⟩
    | .error .panicked => exact absurd (crashed rfl) fails

theorem not_refused_ok (a : α) : ¬ Refused (.ok a : Res ε α) := nofun

theorem refused_map_iff {r : Res ε α} (f : α → β) : Refused (r >>= fun a => .ok (f a)) ↔ Refused r := by
  match r with
  | .ok a => exact iff_of_false nofun nofun
  | .error (.err e) => exact iff_of_true ⟨e, rfl⟩ ⟨e, rfl⟩
  | .error .panicked => exact iff_of_false nofun nofun

theorem mapM_ok {f : α → Res ε β} {items : List α} (each : ∀ a ∈ items, ∃ b, f a = .ok b) :
    ∃ results, items.mapM f = .ok results := by
  induction items with
  | nil => exact ⟨[], rfl⟩
  | cons a items ih =>
    obtain ⟨b, first⟩ := each a List.mem_cons_self
    obtain ⟨results, rest⟩ := ih fun c mem => each c (List.mem_cons_of_mem a mem)
    refine ⟨b :: results, ?_⟩
    rw [List.mapM_cons, first, ok_bind, rest]
    rfl

theorem mapM_map {f : α → Res ε β} {g : α → β} {items : List α}
    (each : ∀ a ∈ items, f a = .ok (g a)) : items.mapM f = .ok (items.map g) := by
  induction items with
  | nil => rfl
  | cons a items ih =>
    have first := each a List.mem_cons_self
    have rest := ih fun c mem => each c (List.mem_cons_of_mem a mem)
    rw [List.mapM_cons, first, ok_bind, rest]
    rfl

/-- A loop whose every turn adds to an output: the outputs of the turns, in their order. -/
theorem foldl_emits {f : σ → α → σ} (out : σ → List β) {g : α → List β}
    (emits : ∀ s a, out (f s a) = out s ++ g a) (s : σ) (items : List α) :
    out (items.foldl f s) = out s ++ items.flatMap g := by
  induction items generalizing s with
  | nil => simp
  | cons a items ih => rw [List.foldl_cons, ih, emits, List.flatMap_cons, List.append_assoc]

/-- What `buf` holds from position `pos` on is `rest`. -/
def Cursor (buf : List σ) (pos : Nat) (rest : List σ) : Prop :=
  ∃ read, buf = read ++ rest ∧ read.length = pos

namespace Cursor
variable {buf rest e : List σ} {pos : Nat} {b : σ}

theorem start (buf : List σ) : Cursor buf 0 buf := ⟨[], rfl, rfl⟩

theorem drop (inside : pos ≤ buf.length) : Cursor buf pos (buf.drop pos) :=
  ⟨buf.take pos, (List.take_append_drop pos buf).symm, List.length_take_of_le inside⟩

theorem drop_eq (at_ : Cursor buf pos rest) : buf.drop pos = rest := by
  obtain ⟨read, rfl, rfl⟩ := at_
  exact List.drop_left

theorem unique {rest' : List σ} (at_ : Cursor buf pos rest) (at' : Cursor buf pos rest') :
    rest = rest' := by
  obtain ⟨read, eq, stop⟩ := at_
  obtain ⟨read', eq', stop'⟩ := at'
  exact (List.append_inj (eq.symm.trans eq') (stop.trans stop'.symm)).2

theorem length (at_ : Cursor buf pos rest) : buf.length = pos + rest.length := by
  obtain ⟨read, rfl, rfl⟩ := at_
  exact List.length_append

theorem advance (at_ : Cursor buf pos (e ++ rest)) : Cursor buf (pos + e.length) rest := by
  obtain ⟨read, rfl, rfl⟩ := at_
  exact ⟨read ++ e, by simp, by simp⟩

theorem next (at_ : Cursor buf pos (b :: rest)) : Cursor buf (pos + 1) rest :=
  advance (e := [b]) at_

theorem get (at_ : Cursor buf pos rest) (i : Nat) : buf[pos + i]? = rest[i]? := by
  obtain ⟨read, rfl, rfl⟩ := at_
  rw [List.getElem?_append_right (by omega)]
  simp

theorem peek (at_ : Cursor buf pos rest) : buf[pos]? = rest[0]? := at_.get 0

theorem index (at_ : Cursor buf pos rest) {i : Nat} (h : rest[i]? = some b) :
    (Rust.index buf (pos + i) : Res ε σ) = .ok b := by
  simp [Rust.index, at_.get i, h]

theorem slice (at_ : Cursor buf pos (e ++ rest)) :
    (Rust.slice buf pos (pos + e.length) : Res ε (List σ)) = .ok e := by
  have bound := at_.length
  rw [List.length_append] at bound
  rw [slice_of_le (by omega) (by omega)]
  obtain ⟨read, rfl, rfl⟩ := at_
  simp

theorem sliceRest (at_ : Cursor buf pos rest) :
    (Rust.slice buf pos buf.length : Res ε (List σ)) = .ok rest := by
  have bound := at_.length
  rw [slice_of_le (by omega) (Nat.le_refl _)]
  obtain ⟨read, rfl, rfl⟩ := at_
  simp

end Cursor

def rangeInclusive (lo hi : UInt32) : List UInt32 :=
  (List.range' lo.toNat (hi.toNat + 1 - lo.toNat)).map UInt32.ofNat

theorem mem_rangeInclusive {lo hi n : UInt32} :
    n ∈ rangeInclusive lo hi ↔ lo.toNat ≤ n.toNat ∧ n.toNat ≤ hi.toNat := by
  have top := hi.toNat_lt
  simp only [rangeInclusive, List.mem_map, List.mem_range'_1]
  constructor
  · rintro ⟨k, within, rfl⟩
    rw [UInt32.toNat_ofNat', Nat.mod_eq_of_lt (by omega)]
    omega
  · intro within
    exact ⟨n.toNat, by omega, UInt32.ofNat_toNat⟩

theorem rangeInclusive_nodup (lo hi : UInt32) : (rangeInclusive lo hi).Nodup := by
  have top := hi.toNat_lt
  apply List.Nodup.map_on _ List.nodup_range'
  intro a inA b inB same
  rw [List.mem_range'_1] at inA inB
  have numbers := congrArg UInt32.toNat same
  rw [UInt32.toNat_ofNat', UInt32.toNat_ofNat', Nat.mod_eq_of_lt (by omega),
    Nat.mod_eq_of_lt (by omega)] at numbers
  exact numbers

theorem rangeInclusive_length (lo hi : UInt32) :
    (rangeInclusive lo hi).length = hi.toNat + 1 - lo.toNat := by
  rw [rangeInclusive, List.length_map, List.length_range']

/-- Entries in the map's iteration order. Nothing is assumed about that order, which `std` leaves
to the hasher: code whose result depends on it takes it as a parameter. -/
abbrev HashMap (K V : Type) := AList (fun _ : K => V)

namespace HashMap
variable {K V : Type}

def len (m : HashMap K V) : Nat := m.entries.length

def values (m : HashMap K V) : List V := m.entries.map Sigma.snd

theorem len_insert [DecidableEq K] (m : HashMap K V) (k : K) (v : V) :
    len (AList.insert k v m) = m.len + if (AList.lookup k m).isSome then 0 else 1 := by
  have size : ∀ m : HashMap K V, m.len = m.keys.length := fun m => (List.length_map _).symm
  rw [size, size, AList.keys_insert, List.length_cons]
  by_cases mem : k ∈ m
  · have positive := List.length_pos_of_mem (AList.mem_keys.mp mem)
    rw [List.length_erase_of_mem (AList.mem_keys.mp mem), if_pos (AList.lookup_isSome.mpr mem)]
    omega
  · rw [List.erase_of_not_mem (fun h => mem (AList.mem_keys.mpr h)), if_neg]
    exact fun h => mem (AList.lookup_isSome.mp h)

end HashMap

end Rust
