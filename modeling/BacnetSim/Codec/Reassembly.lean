import BacnetSim.Codec.Segmentation
import Mathlib.Data.List.FinRange

/-! When a segment buffer delivers the APDU that was sent. -/
namespace BacnetSim.Reassembly
open Rust SegmentBuffer

variable {calls : List Segment} {t n : Nat}

def joined (t : Nat) (calls : List Segment) : Option Bytes :=
  if ∀ n < t, n ∈ numbers calls then some (gathered t calls) else none

/-- An answer of `b`, which was given `calls`, to one more segment is the latest data of all
segments of its total. -/
def DeliversWhole (b : SegmentBuffer) (calls : List Segment) (s : Segment) : Prop :=
  ∀ apdu t, (b.addSegment s).1 = some apdu → (b.addSegment s).2.totalExpected = some t →
    joined t (calls ++ [s]) = some apdu

/-- As many segments as the total have no number above it, and all are empty if the total
does not fit the loop bound. -/
def Consistent (calls : List Segment) : Prop :=
  ∀ t, expected calls = some t → (numbers calls).card = t →
    (∀ n ∈ numbers calls, n < t) ∧ (t = 256 → ∀ n < 256, latest n calls = some [])

theorem answer_complete (total : expected calls = some t) (size : (numbers calls).card = t) :
    answer calls = some (gathered (t % 256) calls) := by
  simp only [answer, total, if_pos size]

theorem answer_incomplete (total : expected calls = some t) (size : (numbers calls).card ≠ t) :
    answer calls = none := by
  simp only [answer, total, if_neg size]

theorem complete_of_answer {apdu : Bytes} (total : expected calls = some t)
    (answered : answer calls = some apdu) :
    (numbers calls).card = t ∧ apdu = gathered (t % 256) calls := by
  by_cases size : (numbers calls).card = t
  · rw [answer_complete total size] at answered
    exact ⟨size, (Option.some.inj answered).symm⟩
  · rw [answer_incomplete total size] at answered
    cases answered

theorem gathered_eq_nil_iff (all : ∀ n < t, n ∈ numbers calls) :
    gathered t calls = [] ↔ ∀ n < t, latest n calls = some [] := by
  simp only [gathered, List.flatMap_eq_nil_iff, List.mem_range]
  refine forall₂_congr fun n within => ?_
  obtain ⟨data, held⟩ := Option.isSome_iff_exists.mp (latest_isSome_iff.mpr (all n within))
  rw [held, Option.getD_some, Option.some.injEq]

theorem deliversWhole_iff {b : SegmentBuffer} (tracks : b.Tracks calls) (s : Segment) :
    DeliversWhole b calls s ↔ Consistent (calls ++ [s]) := by
  unfold DeliversWhole Consistent
  rw [tracks.answer s, (tracks.addSegment s).total]
  constructor
  · intro whole t total size
    have delivered := whole _ t (answer_complete total size) total
    have all : ∀ n < t, n ∈ numbers (calls ++ [s]) := by
      by_contra missing
      rw [joined, if_neg missing] at delivered
      cases delivered
    rw [joined, if_pos all] at delivered
    refine ⟨(all_received_iff size).mp all, ?_⟩
    rintro rfl
    exact (gathered_eq_nil_iff all).mp (Option.some.inj delivered)
  · intro consistent apdu t answered total
    obtain ⟨size, rfl⟩ := complete_of_answer total answered
    obtain ⟨below, empty⟩ := consistent t total size
    have all := (all_received_iff size).mpr below
    rw [joined, if_pos all]
    rcases Nat.lt_or_eq_of_le (expected_le total) with fits | wide
    · rw [Nat.mod_eq_of_lt fits]
    · subst wide
      exact congrArg some ((gathered_eq_nil_iff all).mpr (empty rfl))

theorem delivers_whole_iff (invokeId windowSize : UInt8) (calls : List Segment) :
    (∀ before s, before ++ [s] <+: calls → DeliversWhole (filled invokeId windowSize before) before s) ↔
      ∀ before s, before ++ [s] <+: calls → Consistent (before ++ [s]) := by
  refine forall₂_congr fun before s => imp_congr_right fun _ => ?_
  exact deliversWhole_iff (filled_tracks invokeId windowSize before) s

/-- A stray segment 5, then segment 1 as the last. -/
theorem strayNumber_delivered : ¬ ∀ before s, DeliversWhole (filled 0 1 before) before s := by
  intro claim
  have delivered := claim [⟨5, true, [1]⟩] ⟨1, false, [2]⟩ [2] 2 (by decide) (by decide)
  exact absurd delivered (by decide)

def segment (parts : List Bytes) (i : Fin parts.length) : Segment where
  sequenceNumber := UInt8.ofNat i
  moreFollows := decide (i + 1 < parts.length)
  data := parts[i]

section Parts
variable {parts : List Bytes} {order : List (Fin parts.length)}

theorem find?_last_agree {α β : Type} {p : α → Bool} {f : α → β} {b : β} {items : List α}
    (some_ : ∃ a ∈ items, p a) (agree : ∀ a ∈ items, p a → f a = b) :
    (items.reverse.find? p).map f = some b := by
  cases found : items.reverse.find? p with
  | none =>
    obtain ⟨a, mem, holds⟩ := some_
    exact absurd holds (List.find?_eq_none.mp found a (List.mem_reverse.mpr mem))
  | some a =>
    have mem := List.mem_reverse.mp (List.mem_of_find?_eq_some found)
    exact congrArg some (agree a mem (List.find?_some found))

theorem expected_segments {i : Fin parts.length} (last : i + 1 = parts.length) (mem : i ∈ order) :
    expected (order.map (segment parts)) = some (i.val % 256 + 1) := by
  refine find?_last_agree ⟨_, List.mem_map_of_mem mem, ?_⟩ ?_
  · simp [segment, last]
  · intro s received ends
    obtain ⟨j, _, rfl⟩ := List.mem_map.mp received
    have final : ¬ j + 1 < parts.length := by simpa [segment] using ends
    have same : j = i := by omega
    rw [same, segment, UInt8.toNat_ofNat']

theorem expected_unfinished (unfinished : ∀ s ∈ calls, s.moreFollows = true) :
    expected calls = none := by
  rw [expected, Option.map_eq_none_iff, List.find?_eq_none]
  intro s mem
  simp [unfinished s (List.mem_reverse.mp mem)]

theorem numbers_segments :
    numbers (order.map (segment parts)) = (order.map fun i => i.val % 256).toFinset := by
  simp [numbers, segment, Function.comp_def]

theorem gathered_segments (short : parts.length ≤ 255) (all : ∀ j, j ∈ order) :
    gathered parts.length (order.map (segment parts)) = parts.flatten := by
  have each : ∀ n (within : n < parts.length),
      latest n (order.map (segment parts)) = some parts[n] := by
    intro n within
    have narrow : ∀ j : Fin parts.length, (segment parts j).sequenceNumber.toNat = j := by
      intro j
      rw [segment, UInt8.toNat_ofNat']
      exact Nat.mod_eq_of_lt (by omega)
    refine find?_last_agree ⟨_, List.mem_map_of_mem (all ⟨n, within⟩), ?_⟩ ?_
    · simp [narrow]
    · intro s received same
      obtain ⟨j, _, rfl⟩ := List.mem_map.mp received
      rw [beq_iff_eq, narrow] at same
      subst same
      rfl
  rw [gathered, List.flatMap_def]
  congr 1
  apply List.ext_getElem (by simp)
  intro n within _
  rw [List.getElem_map, List.getElem_range, each n (by simpa using within), Option.getD_some]

theorem mem_numbers_segments (short : parts.length ≤ 255) (j : Fin parts.length) :
    j.val ∈ numbers (order.map (segment parts)) ↔ j ∈ order := by
  have narrow : ∀ i : Fin parts.length, i.val % 256 = i.val := fun i => Nat.mod_eq_of_lt (by omega)
  simp only [numbers_segments, List.mem_toFinset, List.mem_map, narrow]
  constructor
  · rintro ⟨i, mem, same⟩
    rwa [← Fin.ext same]
  · intro mem
    exact ⟨j, mem, rfl⟩

theorem answer_missing (short : parts.length ≤ 255) {j : Fin parts.length} (missing : j ∉ order) :
    answer (order.map (segment parts)) = none := by
  have positive := j.pos
  by_cases last : ⟨parts.length - 1, by omega⟩ ∈ order
  · have total := expected_segments (Nat.sub_add_cancel positive) last
    refine answer_incomplete total fun size => missing ?_
    rw [Nat.mod_eq_of_lt (by omega), Nat.sub_add_cancel positive] at size
    have below : ∀ n ∈ numbers (order.map (segment parts)), n < parts.length := by
      intro n mem
      rw [numbers_segments, List.mem_toFinset, List.mem_map] at mem
      obtain ⟨i, _, rfl⟩ := mem
      exact Nat.lt_of_le_of_lt (Nat.mod_le _ _) i.isLt
    exact (mem_numbers_segments short j).mp ((all_received_iff size).mpr below j j.isLt)
  · have unfinished : ∀ s ∈ order.map (segment parts), s.moreFollows = true := by
      intro s received
      obtain ⟨i, mem, rfl⟩ := List.mem_map.mp received
      have earlier : i.val ≠ parts.length - 1 := by
        intro same
        have final : i = ⟨parts.length - 1, by omega⟩ := Fin.ext same
        exact last (final ▸ mem)
      exact decide_eq_true (by omega)
    simp only [answer, expected_unfinished unfinished]

theorem answer_all (short : parts.length ≤ 255) (some_ : order ≠ []) (all : ∀ j, j ∈ order) :
    answer (order.map (segment parts)) = some parts.flatten := by
  obtain ⟨i, _⟩ := List.exists_mem_of_ne_nil order some_
  have positive := i.pos
  have total := expected_segments (Nat.sub_add_cancel positive) (all ⟨parts.length - 1, by omega⟩)
  rw [Nat.mod_eq_of_lt (by omega), Nat.sub_add_cancel positive] at total
  have size : (numbers (order.map (segment parts))).card = parts.length := by
    have whole : numbers (order.map (segment parts)) = Finset.range parts.length := by
      ext n
      rw [Finset.mem_range]
      constructor
      · intro mem
        rw [numbers_segments, List.mem_toFinset, List.mem_map] at mem
        obtain ⟨i, _, rfl⟩ := mem
        exact Nat.lt_of_le_of_lt (Nat.mod_le _ _) i.isLt
      · intro within
        exact (mem_numbers_segments short ⟨n, within⟩).mpr (all _)
    rw [whole, Finset.card_range]
  rw [answer_complete total size, Nat.mod_eq_of_lt (by omega), gathered_segments short all]

/-- At most 255 segments in any order, with any repetitions: nothing is delivered before all
have arrived, and with the last of them to arrive the APDU is. -/
theorem reassembles_any_order (invokeId windowSize : UInt8) (short : parts.length ≤ 255)
    (before : List (Fin parts.length)) (i : Fin parts.length) :
    ((∃ j, j ∉ before ++ [i]) →
        ((filled invokeId windowSize (before.map (segment parts))).addSegment (segment parts i)).1 =
          none) ∧
      ((∀ j, j ∈ before ++ [i]) →
        ((filled invokeId windowSize (before.map (segment parts))).addSegment (segment parts i)).1 =
          some parts.flatten) := by
  have tracks := filled_tracks invokeId windowSize (before.map (segment parts))
  have answered := tracks.answer (segment parts i)
  rw [← List.map_singleton, ← List.map_append] at answered
  rw [answered]
  constructor
  · rintro ⟨j, missing⟩
    exact answer_missing short missing
  · intro all
    exact answer_all short (by simp) all

theorem two_segments_reassembled :
    ((filled 7 1 [segment [[1], [2, 3]] 1]).addSegment (segment [[1], [2, 3]] 0)).1 =
      some [1, 2, 3] :=
  (reassembles_any_order 7 1 (show [[1], [2, 3]].length ≤ 255 by decide) [1] 0).2 (by decide)

end Parts

def inOrder (parts : List Bytes) : List Segment := (List.finRange parts.length).map (segment parts)

def answers (invokeId windowSize : UInt8) (calls : List Segment) : List (Option Bytes) :=
  (runSpec addSegment (new invokeId windowSize) calls).1

section Long
variable {parts : List Bytes}

theorem answers_concat (invokeId windowSize : UInt8) (calls : List Segment) (s : Segment) :
    answers invokeId windowSize (calls ++ [s]) =
      answers invokeId windowSize calls ++ [answer (calls ++ [s])] := by
  rw [answers, runSpec_concat, ← (filled_tracks invokeId windowSize calls).answer s]
  rfl

theorem answers_unfinished (invokeId windowSize : UInt8) (calls : List Segment)
    (unfinished : ∀ s ∈ calls, s.moreFollows = true) :
    answers invokeId windowSize calls = List.replicate calls.length none := by
  induction calls using List.reverseRecOn with
  | nil => rfl
  | append_singleton calls s ih =>
    have none_ : answer (calls ++ [s]) = none := by
      simp only [answer, expected_unfinished unfinished]
    rw [answers_concat, ih (fun t mem => unfinished t (List.mem_append_left _ mem)), none_,
      List.length_append, List.length_singleton, List.replicate_succ']

theorem inOrder_split (some_ : parts ≠ []) :
    ∃ first last, inOrder parts = first ++ [last] ∧ first.length = parts.length - 1 ∧
      ∀ s ∈ first, s.moreFollows = true := by
  have length : (inOrder parts).length = parts.length := by simp [inOrder]
  have nonempty : inOrder parts ≠ [] := by
    intro empty
    rw [empty] at length
    exact some_ (List.length_eq_zero_iff.mp length.symm)
  refine ⟨(inOrder parts).dropLast, (inOrder parts).getLast nonempty,
    (List.dropLast_append_getLast nonempty).symm, by rw [List.length_dropLast, length], ?_⟩
  intro s mem
  obtain ⟨k, within, rfl⟩ := List.mem_iff_getElem.mp mem
  rw [List.length_dropLast, length] at within
  simp only [List.getElem_dropLast, inOrder, List.getElem_map, List.getElem_finRange, segment,
    decide_eq_true_eq]
  exact Nat.add_lt_of_lt_sub within

theorem numbers_inOrder (long : 256 ≤ parts.length) : (numbers (inOrder parts)).card = 256 := by
  have whole : numbers (inOrder parts) = Finset.range 256 := by
    ext n
    rw [inOrder, numbers_segments, List.mem_toFinset, List.mem_map, Finset.mem_range]
    constructor
    · rintro ⟨i, _, rfl⟩
      exact Nat.mod_lt _ (by decide)
    · intro within
      exact ⟨⟨n, Nat.lt_of_lt_of_le within long⟩, List.mem_finRange _, Nat.mod_eq_of_lt within⟩
  rw [whole, Finset.card_range]

theorem answer_inOrder_iff (some_ : parts ≠ []) :
    answer (inOrder parts) = some parts.flatten ↔
      parts.length ≤ 255 ∨ 256 ∣ parts.length ∧ parts.flatten = [] := by
  have positive := List.length_pos_iff.mpr some_
  rcases Nat.lt_or_ge 255 parts.length with long | short
  · have total : expected (inOrder parts) = some ((parts.length - 1) % 256 + 1) :=
      expected_segments (i := ⟨parts.length - 1, by omega⟩) (Nat.sub_add_cancel positive)
        (List.mem_finRange _)
    have size := numbers_inOrder long
    by_cases wraps : (parts.length - 1) % 256 + 1 = 256
    · rw [wraps] at total
      rw [answer_complete total size]
      have empty : gathered (256 % 256) (inOrder parts) = [] := rfl
      rw [empty, Option.some.injEq, eq_comm]
      constructor
      · intro nothing
        exact .inr ⟨by omega, nothing⟩
      · rintro (_ | ⟨_, nothing⟩)
        · omega
        · exact nothing
    · rw [answer_incomplete total (by omega)]
      refine iff_of_false nofun ?_
      rintro (_ | ⟨_, _⟩) <;> omega
  · refine iff_of_true (answer_all short ?_ List.mem_finRange) (.inl short)
    intro empty
    have none_ : (List.finRange parts.length).length = 0 := by rw [empty]; rfl
    rw [List.length_finRange] at none_
    omega

theorem answers_inOrder (invokeId windowSize : UInt8) (some_ : parts ≠ []) :
    answers invokeId windowSize (inOrder parts) =
      List.replicate (parts.length - 1) none ++ [answer (inOrder parts)] := by
  obtain ⟨first, last, whole, length, unfinished⟩ := inOrder_split some_
  rw [whole, answers_concat, answers_unfinished invokeId windowSize first unfinished, length]

/-- An APDU of any number of segments, sent in their order, is what the last call answers,
and the first answer, exactly when it has at most 255 segments, or nothing in them and a
multiple of 256. -/
theorem reassembles_in_order_iff (invokeId windowSize : UInt8) (some_ : parts ≠ []) :
    answers invokeId windowSize (inOrder parts) =
        List.replicate (parts.length - 1) none ++ [some parts.flatten] ↔
      parts.length ≤ 255 ∨ 256 ∣ parts.length ∧ parts.flatten = [] := by
  rw [answers_inOrder invokeId windowSize some_, ← answer_inOrder_iff some_]
  simp

theorem two_in_order : answers 7 1 (inOrder [[1], [2, 3]]) = [none, some [1, 2, 3]] :=
  (reassembles_in_order_iff 7 1 (show [[1], [2, 3]] ≠ ([] : List Bytes) by decide)).mpr
    (.inl (by decide))

/-- 256 segments of one octet each: the last call answers with no octets. -/
theorem wideApdu_lost : ¬ ∀ parts : List Bytes, parts ≠ [] →
    answers 0 1 (inOrder parts) = List.replicate (parts.length - 1) none ++ [some parts.flatten] := by
  intro claim
  obtain ⟨parts, length, some_⟩ : ∃ parts : List Bytes, parts.length = 256 ∧ parts.flatten ≠ [] :=
    ⟨List.replicate 256 [0], List.length_replicate, by simp [-List.reduceReplicate]⟩
  have nonempty : parts ≠ [] := by
    rintro rfl
    exact some_ rfl
  have delivered := claim parts nonempty
  rw [answers_inOrder 0 1 nonempty] at delivered
  have last : answer (inOrder parts) = some parts.flatten := by simpa using delivered
  rcases (answer_inOrder_iff nonempty).mp last with short | ⟨_, empty⟩
  · omega
  · exact some_ empty

end Long

end BacnetSim.Reassembly
