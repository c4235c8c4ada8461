import BacnetSim.Lib.Simulation
import BacnetSim.Types.Basic
import Mathlib.Data.Finset.Card
import Mathlib.Data.Finset.Range

/-! Reassembly of segmented APDUs (`apdu/segmentation.rs`), and what a buffer answers in terms
of the segments that it was given. -/
namespace BacnetSim
open Rust

structure SegmentBuffer where
  invokeId : UInt8
  sequenceCount : Nat
  windowSize : UInt8
  segments : HashMap UInt8 Bytes
  totalExpected : Option Nat

structure Segment where
  sequenceNumber : UInt8
  moreFollows : Bool
  data : Bytes
  deriving DecidableEq, Repr

namespace SegmentBuffer

def new (invokeId windowSize : UInt8) : SegmentBuffer where
  invokeId
  sequenceCount := 0
  windowSize
  segments := ∅
  totalExpected := none

/-- The loop bound is `total as u8`. -/
def reassemble (b : SegmentBuffer) (total : Nat) : Bytes :=
  (List.range (UInt8.ofNat total).toNat).flatMap fun i =>
    (AList.lookup (UInt8.ofNat i) b.segments).getD []

def addSegment (b : SegmentBuffer) (s : Segment) : Option Bytes × SegmentBuffer :=
  let segments := AList.insert s.sequenceNumber s.data b.segments
  let totalExpected :=
    if s.moreFollows then b.totalExpected else some (s.sequenceNumber.toNat + 1)
  let b := { b with segments, totalExpected }
  match b.totalExpected with
  | some total => if b.segments.len = total then (some (b.reassemble total), b) else (none, b)
  | none => (none, b)

end SegmentBuffer

namespace Reassembly

def latest (n : Nat) (calls : List Segment) : Option Bytes :=
  (calls.reverse.find? (·.sequenceNumber.toNat == n)).map (·.data)

def expected (calls : List Segment) : Option Nat :=
  (calls.reverse.find? (!·.moreFollows)).map (·.sequenceNumber.toNat + 1)

def numbers (calls : List Segment) : Finset Nat :=
  (calls.map (·.sequenceNumber.toNat)).toFinset

def gathered (t : Nat) (calls : List Segment) : Bytes :=
  (List.range t).flatMap fun n => (latest n calls).getD []

/-- An answer when the segments received are as many as the expected total. -/
def answer (calls : List Segment) : Option Bytes :=
  match expected calls with
  | some t => if (numbers calls).card = t then some (gathered (t % 256) calls) else none
  | none => none

section Received
variable {calls : List Segment} {n t : Nat}

theorem latest_concat (calls : List Segment) (s : Segment) (n : Nat) :
    latest n (calls ++ [s]) =
      if s.sequenceNumber.toNat = n then some s.data else latest n calls := by
  rw [latest, List.reverse_concat, List.find?_cons]
  by_cases own : s.sequenceNumber.toNat = n
  · simp [own]
  · simp only [latest, beq_eq_false_iff_ne.mpr own, if_neg own]

theorem expected_concat (calls : List Segment) (s : Segment) :
    expected (calls ++ [s]) =
      if s.moreFollows then expected calls else some (s.sequenceNumber.toNat + 1) := by
  rw [expected, List.reverse_concat, List.find?_cons]
  cases s.moreFollows <;> rfl

theorem mem_numbers : n ∈ numbers calls ↔ ∃ s ∈ calls, s.sequenceNumber.toNat = n := by
  simp [numbers]

theorem numbers_concat (calls : List Segment) (s : Segment) :
    numbers (calls ++ [s]) = insert s.sequenceNumber.toNat (numbers calls) := by
  ext n
  simp [numbers, eq_comm]

theorem latest_isSome_iff : (latest n calls).isSome ↔ n ∈ numbers calls := by
  simp [latest, mem_numbers]

theorem expected_le (total : expected calls = some t) : t ≤ 256 := by
  obtain ⟨s, _, rfl⟩ := Option.map_eq_some_iff.mp total
  exact s.sequenceNumber.toNat_lt

theorem all_received_iff (size : (numbers calls).card = t) :
    (∀ n < t, n ∈ numbers calls) ↔ ∀ n ∈ numbers calls, n < t := by
  have range : ∀ n, n ∈ Finset.range t ↔ n < t := fun n => Finset.mem_range
  constructor
  · intro all n mem
    have part : Finset.range t ⊆ numbers calls := fun m within => all m ((range m).mp within)
    rw [← range, Finset.eq_of_subset_of_card_le part (by rw [size, Finset.card_range])]
    exact mem
  · intro below n within
    have part : numbers calls ⊆ Finset.range t := fun m mem => (range m).mpr (below m mem)
    rw [Finset.eq_of_subset_of_card_le part (by rw [size, Finset.card_range])]
    exact (range n).mpr within

end Received

end Reassembly

namespace SegmentBuffer
open Reassembly

structure Tracks (b : SegmentBuffer) (calls : List Segment) : Prop where
  segments : ∀ n, AList.lookup n b.segments = latest n.toNat calls
  total : b.totalExpected = expected calls
  len : b.segments.len = (numbers calls).card

variable {b : SegmentBuffer} {calls : List Segment}

theorem Tracks.new (invokeId windowSize : UInt8) : Tracks (new invokeId windowSize) [] where
  segments n := AList.lookup_empty n
  total := rfl
  len := rfl

theorem Tracks.reassemble (tracks : b.Tracks calls) (total : Nat) :
    b.reassemble total = gathered (total % 256) calls := by
  rw [SegmentBuffer.reassemble, gathered, UInt8.toNat_ofNat']
  apply List.flatMap_congr
  intro n mem
  have within : n < 256 := Nat.lt_trans (List.mem_range.mp mem) (Nat.mod_lt _ (by decide))
  rw [tracks.segments, UInt8.toNat_ofNat', Nat.mod_eq_of_lt within]

theorem addSegment_state (b : SegmentBuffer) (s : Segment) :
    (b.addSegment s).2 =
      { b with
        segments := AList.insert s.sequenceNumber s.data b.segments
        totalExpected :=
          if s.moreFollows then b.totalExpected else some (s.sequenceNumber.toNat + 1) } := by
  simp only [addSegment]
  split
  · split <;> rfl
  · rfl

theorem Tracks.addSegment (tracks : b.Tracks calls) (s : Segment) :
    (b.addSegment s).2.Tracks (calls ++ [s]) := by
  rw [addSegment_state]
  constructor
  · intro n
    rw [latest_concat]
    by_cases own : s.sequenceNumber.toNat = n.toNat
    · rw [if_pos own, UInt8.toNat_inj.mp own, AList.lookup_insert]
    · have other : n ≠ s.sequenceNumber := fun eq => own (congrArg UInt8.toNat eq.symm)
      rw [if_neg own, AList.lookup_insert_ne other, tracks.segments]
  · rw [expected_concat, ← tracks.total]
  · have held : (latest s.sequenceNumber.toNat calls).isSome ↔ _ := latest_isSome_iff
    rw [numbers_concat, HashMap.len_insert, tracks.segments, tracks.len]
    by_cases mem : s.sequenceNumber.toNat ∈ numbers calls
    · rw [if_pos (held.mpr mem), Finset.insert_eq_of_mem mem, Nat.add_zero]
    · rw [if_neg (fun some => mem (held.mp some)), Finset.card_insert_of_notMem mem]

theorem Tracks.answer (tracks : b.Tracks calls) (s : Segment) :
    (b.addSegment s).1 = answer (calls ++ [s]) := by
  have after := tracks.addSegment s
  have len := after.len
  have total := after.total
  have data := after.reassemble
  rw [addSegment_state] at len total data
  dsimp only at len total
  simp only [SegmentBuffer.addSegment, Reassembly.answer, total]
  cases expected (calls ++ [s]) with
  | none => rfl
  | some t =>
    rw [total] at data
    dsimp only
    rw [len]
    by_cases complete : (numbers (calls ++ [s])).card = t
    · rw [if_pos complete, if_pos complete]
      exact congrArg some (data t)
    · rw [if_neg complete, if_neg complete]

def filled (invokeId windowSize : UInt8) (calls : List Segment) : SegmentBuffer :=
  (runSpec addSegment (new invokeId windowSize) calls).2

theorem filled_tracks (invokeId windowSize : UInt8) (calls : List Segment) :
    (filled invokeId windowSize calls).Tracks calls :=
  runSpec_invariant (I := Tracks) (Tracks.new invokeId windowSize)
    (fun tracks => tracks.addSegment _) calls

end SegmentBuffer

end BacnetSim
