import BacnetSim.Lib.HashMap
import BacnetSim.Lib.Simulation

/-! A loop over the shards of a map that gives up the lock between two shards. What other tasks
do then, each time under the lock of one shard, might as well be done before the whole loop, when
that shard was still to come, and behind it otherwise. -/
namespace Rust

namespace Shards
variable {n : Nat} {K V σ A : Type}

structure Op (n : Nat) (K V A : Type) where
  shard : Fin n
  body : HashMap K V → A × HashMap K V

def Op.run (shards : Shards n K V) (op : Op n K V A) : A × Shards n K V :=
  ((op.body (shards.get op.shard)).1,
    shards.set op.shard (op.body (shards.get op.shard)).2 op.shard.isLt)

inductive Event (n : Nat) (K V A : Type) where
  | visit
  | op (op : Op n K V A)

def Event.isVisit : Event n K V A → Bool
  | .visit => true
  | .op _ => false

/-- The loop and the tasks in the order of their events, where `rest` are the shards to come.
An answer is given back with whether its shard was one of these. -/
def interleave (body : σ → Fin n → K → V → σ × V) (visited : σ × Shards n K V) (rest : List (Fin n)) :
    List (Event n K V A) → List (Bool × A) × σ × Shards n K V
  | [] => ([], visited)
  | .visit :: events =>
    match rest with
    | [] => interleave body visited [] events
    | i :: rest =>
      let (s, m) := (visited.2.get i).iterMut (fun s => body s i) visited.1
      interleave body (s, visited.2.set i m i.isLt) rest events
  | .op op :: events =>
    let (a, shards) := op.run visited.2
    let (answers, visited) := interleave body (visited.1, shards) rest events
    ((decide (op.shard ∈ rest), a) :: answers, visited)

def early (rest : List (Fin n)) : List (Event n K V A) → List (Op n K V A)
  | [] => []
  | .visit :: events => early rest.tail events
  | .op op :: events => if op.shard ∈ rest then op :: early rest events else early rest events

def late (rest : List (Fin n)) : List (Event n K V A) → List (Op n K V A)
  | [] => []
  | .visit :: events => late rest.tail events
  | .op op :: events => if op.shard ∈ rest then late rest events else op :: late rest events

variable {body : σ → Fin n → K → V → σ × V} {shards : Shards n K V} {i : Fin n} {m : HashMap K V}

theorem set_set_ne {j : Fin n} (shards : Shards n K V) (m m' : HashMap K V) (ne : i ≠ j) :
    (shards.set i m i.isLt).set j m' j.isLt = (shards.set j m' j.isLt).set i m i.isLt :=
  Vector.set_comm _ _ fun same => ne (Fin.ext same)

theorem set_get_self (shards : Shards n K V) (i : Fin n) : shards.set i (shards.get i) i.isLt = shards := by
  apply Vector.ext
  intro j inside
  by_cases same : i.val = j
  · subst same
    exact Vector.getElem_set_self i.isLt
  · exact Vector.getElem_set_ne _ _ same

theorem run_set {op : Op n K V A} (other : op.shard ≠ i) :
    op.run (shards.set i m i.isLt) = ((op.run shards).1, (op.run shards).2.set i m i.isLt) := by
  simp only [Op.run, get_set_ne m (Ne.symm other), set_set_ne shards m _ (Ne.symm other)]

theorem runOps_set {ops : List (Op n K V A)} (other : ∀ op ∈ ops, op.shard ≠ i) :
    runSpec Op.run (shards.set i m i.isLt) ops =
      ((runSpec Op.run shards ops).1, (runSpec Op.run shards ops).2.set i m i.isLt) := by
  induction ops generalizing shards with
  | nil => rfl
  | cons op ops ih =>
    have first : op.run (shards.set i m i.isLt) =
        ((op.run shards).1, (op.run shards).2.set i m i.isLt) :=
      run_set (other op List.mem_cons_self)
    have rest : runSpec Op.run ((op.run shards).2.set i m i.isLt) ops =
        ((runSpec Op.run (op.run shards).2 ops).1, (runSpec Op.run (op.run shards).2 ops).2.set i m i.isLt) :=
      ih fun o mem => other o (List.mem_cons_of_mem op mem)
    simp only [runSpec, first, rest]

theorem runOps_get {ops : List (Op n K V A)} (other : ∀ op ∈ ops, op.shard ≠ i) :
    (runSpec Op.run shards ops).2.get i = shards.get i := by
  have framed : runSpec Op.run (shards.set i (shards.get i) i.isLt) ops =
      ((runSpec Op.run shards ops).1, (runSpec Op.run shards ops).2.set i (shards.get i) i.isLt) :=
    runOps_set other
  rw [set_get_self] at framed
  have final := congrArg (fun run => Vector.get run.2 i) framed
  exact final.trans (get_set_self _)

theorem visitShards_set {s : σ} {is : List (Fin n)} (other : i ∉ is) :
    visitShards body (s, shards.set i m i.isLt) is =
      ((visitShards body (s, shards) is).1, (visitShards body (s, shards) is).2.set i m i.isLt) := by
  induction is generalizing s shards with
  | nil => rfl
  | cons j is ih =>
    rw [List.mem_cons, not_or] at other
    simp only [visitShards, get_set_ne m other.1, set_set_ne shards m _ other.1]
    exact ih other.2

theorem early_shard {rest : List (Fin n)} {events : List (Event n K V A)} :
    ∀ op ∈ early rest events, op.shard ∈ rest := by
  induction events generalizing rest with
  | nil =>
    intro op mem
    cases mem
  | cons event events ih =>
    intro op mem
    cases event with
    | visit => exact List.mem_of_mem_tail (ih op mem)
    | op first =>
      rw [early] at mem
      split at mem
      · rename_i inside
        rcases List.mem_cons.mp mem with rfl | mem
        · exact inside
        · exact ih op mem
      · exact ih op mem

/-- The early operations, the whole loop and the late operations in turn: the answers of the
first, those of the last, and what is left. -/
def serially (body : σ → Fin n → K → V → σ × V) (visited : σ × Shards n K V) (rest : List (Fin n))
    (events : List (Event n K V A)) : List A × List A × σ × Shards n K V :=
  let before := runSpec Op.run visited.2 (early rest events)
  let swept := visitShards body (visited.1, before.2) rest
  let after := runSpec Op.run swept.2 (late rest events)
  (before.1, after.1, swept.1, after.2)

def gather (left : List (Bool × A) × σ × Shards n K V) : List A × List A × σ × Shards n K V :=
  ((left.1.filter (·.1)).map (·.2), (left.1.filter (!·.1)).map (·.2), left.2)

section Cases
variable {visited : σ × Shards n K V} {rest : List (Fin n)} {events : List (Event n K V A)}
  {op : Op n K V A}

/-- A visit commutes with the operations that come before the visits of other shards. -/
theorem serially_visit (fresh : i ∉ rest) :
    serially body visited (i :: rest) (.visit :: events) =
      serially body (((visited.2.get i).iterMut (fun s => body s i) visited.1).1,
        visited.2.set i ((visited.2.get i).iterMut (fun s => body s i) visited.1).2 i.isLt)
        rest events := by
  have apart : ∀ op ∈ early rest events, op.shard ≠ i := by
    rintro op mem rfl
    exact fresh (early_shard op mem)
  simp only [serially, early, late, List.tail_cons, runOps_set apart, visitShards, runOps_get apart]

theorem gather_early (coming : op.shard ∈ rest)
    (ih : gather (interleave body (visited.1, (op.run visited.2).2) rest events) =
      serially body (visited.1, (op.run visited.2).2) rest events) :
    gather (interleave body visited rest (.op op :: events)) =
      serially body visited rest (.op op :: events) := by
  simp only [gather, serially, Prod.mk.injEq] at ih
  simp only [gather, serially, interleave, early, late, decide_eq_true coming, if_pos coming, runSpec,
    List.filter_cons_of_pos, List.filter_cons_of_neg, Bool.not_true, Bool.false_eq_true,
    not_false_eq_true, List.map_cons, ih]

theorem gather_late (passed : op.shard ∉ rest)
    (ih : gather (interleave body (visited.1, (op.run visited.2).2) rest events) =
      serially body (visited.1, (op.run visited.2).2) rest events) :
    gather (interleave body visited rest (.op op :: events)) =
      serially body visited rest (.op op :: events) := by
  have apart : ∀ o ∈ early rest events, o.shard ≠ op.shard := by
    intro o mem same
    exact passed (same ▸ early_shard o mem)
  have unmoved : (visitShards body (visited.1, (runSpec Op.run visited.2 (early rest events)).2)
      rest).2.get op.shard = visited.2.get op.shard := by
    rw [visitShards_other passed, runOps_get apart]
  simp only [gather, serially, Op.run, runOps_set apart, visitShards_set passed, Prod.mk.injEq] at ih
  simp only [gather, serially, interleave, early, late, decide_eq_false passed, if_neg passed, runSpec,
    List.filter_cons_of_pos, List.filter_cons_of_neg, Bool.not_false, Bool.false_eq_true,
    not_false_eq_true, List.map_cons, Op.run, unmoved, ih]

end Cases

/-- The loop that lets others in does what it does alone between the early and the late
operations, and these are answered as they are there. -/
theorem interleave_serial {visited : σ × Shards n K V} {rest : List (Fin n)}
    {events : List (Event n K V A)} (nodup : rest.Nodup)
    (complete : events.countP Event.isVisit = rest.length) :
    gather (interleave body visited rest events) = serially body visited rest events := by
  induction events generalizing visited rest with
  | nil =>
    rw [List.countP_nil] at complete
    rw [List.length_eq_zero_iff.mp complete.symm]
    rfl
  | cons event events ih =>
    cases event with
    | visit =>
      rw [List.countP_cons_of_pos rfl] at complete
      cases rest with
      | nil => cases complete
      | cons i rest =>
        obtain ⟨fresh, nodup⟩ := List.nodup_cons.mp nodup
        rw [serially_visit fresh, ← ih nodup (Nat.succ.inj complete)]
        rfl
    | op op =>
      rw [List.countP_cons_of_neg (by simp [Event.isVisit])] at complete
      by_cases coming : op.shard ∈ rest
      · exact gather_early coming (ih nodup complete)
      · exact gather_late coming (ih nodup complete)

end Shards

end Rust
