import BacnetSim.Encoding.Framing
import BacnetSim.Encoding.RoundTrip
import BacnetSim.Lib.Loop

/-! Arrays and lists on the wire: nothing but their elements, one behind the other. -/
namespace BacnetSim
open Rust Octets Tags

mutual

def leaves : PropertyValue → List PropertyValue
  | .array items | .list items => leavesOf items
  | v => [v]

def leavesOf : List PropertyValue → List PropertyValue
  | [] => []
  | item :: items => leaves item ++ leavesOf items

end

mutual

theorem valueOctets_leaves (v : PropertyValue) : valueOctets v = (leaves v).flatMap valueOctets := by
  cases v with
  | array items => exact encodeItems_leaves items
  | list items => exact encodeItems_leaves items
  | _ => rw [leaves, List.flatMap_singleton] <;> simp

theorem encodeItems_leaves (items : List PropertyValue) :
    (encodeItems items).1 = (leavesOf items).flatMap valueOctets := by
  cases items with
  | nil => rfl
  | cons item items =>
    have head := valueOctets_leaves item
    have tail := encodeItems_leaves items
    have written : encodePropertyValue item = (valueOctets item, .ok ()) :=
      Prod.ext rfl (encodePropertyValue_ok item)
    rw [encodeItems, written, leavesOf, List.flatMap_append, ← head, ← tail]

end

def valueLoop (buf : Bytes) : Loop BacnetError PropertyValue where
  limit := buf.length
  turn pos :=
    if pos ≥ buf.length then .ok (.done pos)
    else do
      let (v, next) ← decodeApplicationValue buf pos
      .ok (.item v next)
  forward {pos v next} read := by
    split at read
    · cases read
    · obtain ⟨r, value, eq⟩ := bind_eq_ok read
      cases eq
      exact ⟨by omega, decodeApplicationValue_advances value⟩

structure Returns (v : PropertyValue) : Prop where
  primitive : v.IsPrimitive
  fits : v.FitsWire
  readsBack : ReadsBack v

theorem valueLoop_turn {v : PropertyValue} {buf rest : Bytes} {pos : Nat} (leaf : Returns v)
    (at_ : Cursor buf pos (valueOctets v ++ rest)) :
    (valueLoop buf).turn pos = .ok (.item v (pos + (valueOctets v).length)) := by
  have notBoolean : ∀ b, v ≠ .boolean b := by
    rintro b rfl
    exact leaf.readsBack
  have octets := valueOctets_eq leaf.primitive
  have positive : 0 < (valueOctets v).length := by
    rw [octets, Layout.octets, field]
    exact Nat.succ_pos _
  have inside : ¬ pos ≥ buf.length := by
    have total := at_.length
    rw [List.length_append] at total
    omega
  rw [octets] at at_ ⊢
  have read := decodeApplicationValue_layout leaf.primitive leaf.fits notBoolean at_
  rw [(received_eq_iff leaf.fits notBoolean).mpr leaf.readsBack] at read
  exact (if_neg inside).trans (by rw [read]; rfl)

theorem valueLoop_end {buf : Bytes} {pos : Nat} (at_ : Cursor buf pos []) :
    (valueLoop buf).turn pos = .ok (.done pos) := by
  have total := at_.length
  rw [List.length_nil, Nat.add_zero] at total
  exact if_pos total.le

/-- Any nesting of arrays and lists parses back to its leaves, in their order. -/
theorem nested_readBack (v : PropertyValue) (each : ∀ leaf ∈ leaves v, Returns leaf) :
    (encodePropertyValue v).2 = .ok () ∧
      (valueLoop (valueOctets v)).run 0 = .ok (leaves v, (valueOctets v).length) := by
  refine ⟨encodePropertyValue_ok v, ?_⟩
  have at_ : Cursor (valueOctets v) 0 ((leaves v).flatMap valueOctets ++ []) := by
    rw [List.append_nil, ← valueOctets_leaves]
    exact .start _
  have read : (valueLoop (valueOctets v)).run 0 =
      .ok ((leaves v).map id, 0 + ((leaves v).flatMap valueOctets).length + 0) :=
    Loop.run_inverts (fun _ => True) [] 0 (fun leaf _ at_ => valueLoop_turn leaf at_)
      trivial trivial valueLoop_end each at_
  rw [← valueOctets_leaves, List.map_id] at read
  simpa using read

theorem nested_two_readBack :
    (encodePropertyValue (.array [.unsigned 7, .list [.null]])).2 = .ok () ∧
      (valueLoop (valueOctets (.array [.unsigned 7, .list [.null]]))).run 0 =
        .ok ([.unsigned 7, .null], (valueOctets (.array [.unsigned 7, .list [.null]])).length) := by
  refine nested_readBack (.array [.unsigned 7, .list [.null]]) fun leaf mem => ?_
  have two : leaf ∈ [PropertyValue.unsigned 7, .null] := mem
  rcases List.mem_pair.mp two with rfl | rfl
  · exact ⟨trivial, trivial, trivial⟩
  · exact ⟨trivial, trivial, trivial⟩

end BacnetSim
