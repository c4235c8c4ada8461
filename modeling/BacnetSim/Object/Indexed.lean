import BacnetSim.Object.Object

/-! Reads of one element of an array property, beside a read of the whole array. Of the object
types only the device has the length at index 0 and an end. -/
namespace BacnetSim

structure IndexedAnswer (items : List PropertyValue) (i : UInt32)
    (answer : Except BacnetError PropertyValue) : Prop where
  length : i = 0 → ∃ n, answer = .ok (.unsigned n) ∧ n.toNat = items.length
  element : ∀ item, 1 ≤ i.toNat → items[i.toNat - 1]? = some item → answer = .ok item
  outside : items.length < i.toNat → answer = .error .valueOutOfRange

variable {now later : Now} {p : PropertyIdentifier} {items : List PropertyValue} {i : UInt32}

theorem DeviceObject.readArray_indexed_iff :
    IndexedAnswer items i (readArray items (some i)) ↔ (i = 0 → items.length < 2 ^ 32) := by
  constructor
  · rintro agrees rfl
    obtain ⟨n, read, count⟩ := agrees.length rfl
    rw [← count]
    exact n.toNat_lt
  · intro fits
    refine ⟨?_, ?_, ?_⟩
    · rintro rfl
      exact ⟨_, rfl, UInt32.toNat_ofNat'.trans (Nat.mod_eq_of_lt (fits rfl))⟩
    · intro item positive here
      have other : i ≠ 0 := by
        rintro rfl
        exact absurd positive (by decide)
      rw [readArray, if_neg other, here]
    · intro beyond
      have other : i ≠ 0 := by
        rintro rfl
        exact absurd beyond (Nat.not_lt_zero _)
      have none : items[i.toNat - 1]? = none := by
        apply List.getElem?_eq_none
        omega
      rw [readArray, if_neg other, none]

theorem DeviceObject.reads_array {o : DeviceObject}
    (whole : o.readProperty now p none = .ok (.array items)) :
    (p = .objectList ∧ items = o.objectList.map .objectId) ∨
      (p = .propertyList ∧ items = propertyNumbers.map .enumerated) := by
  simp only [readProperty] at whole
  split at whole
  case h_16 => exact .inl ⟨rfl, (PropertyValue.array.inj (Except.ok.inj whole)).symm⟩
  case h_25 => exact .inr ⟨rfl, (PropertyValue.array.inj (Except.ok.inj whole)).symm⟩
  all_goals cases whole

theorem DeviceObject.indexed_iff {o : DeviceObject}
    (whole : o.readProperty now p none = .ok (.array items)) :
    IndexedAnswer items i (o.readProperty later p (some i)) ↔
      (p = .objectList → i = 0 → o.objectList.length < 2 ^ 32) := by
  rcases reads_array whole with ⟨rfl, rfl⟩ | ⟨rfl, rfl⟩
  · refine readArray_indexed_iff.trans ?_
    rw [List.length_map]
    exact (imp_iff_right rfl).symm
  · refine readArray_indexed_iff.trans (iff_of_true (fun _ => ?_) nofun)
    decide

theorem AnalogOutput.reads_array {o : AnalogOutput} (whole : o.readProperty p none = .ok (.array items)) :
    p = .priorityArray ∧ items = o.priorityArray.toList.map slotValue := by
  simp only [readProperty] at whole
  split at whole
  case h_10 => exact ⟨rfl, (PropertyValue.array.inj (Except.ok.inj whole)).symm⟩
  all_goals cases whole

theorem slotValue_ne_unsigned (slot : Option Ieee754.F32) (n : UInt32) : slotValue slot ≠ .unsigned n := by
  cases slot <;> nofun

theorem clampSlot_element (slots : Vector (Option Ieee754.F32) numPriorities) {n : Nat}
    (inside : 1 ≤ n ∧ n ≤ numPriorities) :
    (slots.toList.map slotValue)[n - 1]? = some (slotValue (slots.get (clampSlot n))) := by
  have position : (clampSlot n : Nat) = n - 1 := Nat.min_eq_left (Nat.sub_le_sub_right inside.2 1)
  have bound : n - 1 < numPriorities := by omega
  have slot : slots.get (clampSlot n) = slots.toList[(clampSlot n : Nat)] := rfl
  rw [List.getElem?_map, slot]
  simp only [position]
  rw [List.getElem?_eq_getElem, Option.map_some]

theorem AnalogOutput.indexed_iff {o : AnalogOutput} (whole : o.readProperty p none = .ok (.array items)) :
    IndexedAnswer items i (o.readProperty p (some i)) ↔ 1 ≤ i.toNat ∧ i.toNat ≤ numPriorities := by
  obtain ⟨rfl, rfl⟩ := reads_array whole
  have read : o.readProperty .priorityArray (some i) =
    .ok (slotValue (o.priorityArray.get (clampSlot i.toNat))) := rfl
  have total : (o.priorityArray.toList.map slotValue).length = numPriorities := by
    rw [List.length_map, Vector.length_toList]
  rw [read]
  constructor
  · intro agrees
    constructor
    · apply Nat.pos_of_ne_zero
      intro zero
      obtain ⟨n, answer, _⟩ := agrees.length (UInt32.toNat_inj.mp zero)
      exact slotValue_ne_unsigned _ n (Except.ok.inj answer)
    · apply Nat.le_of_not_lt
      intro beyond
      cases agrees.outside (Nat.lt_of_le_of_lt total.le beyond)
  · intro inside
    have position := clampSlot_element o.priorityArray inside
    refine ⟨?_, ?_, ?_⟩
    · rintro rfl
      exact absurd inside.1 (by decide)
    · intro item _ here
      rw [Option.some.inj (position.symm.trans here)]
    · intro beyond
      omega

theorem array_not_mem (items : List PropertyValue) : PropertyValue.array items ∉ items := by
  intro mem
  have smaller := List.sizeOf_lt_of_mem mem
  simp only [PropertyValue.array.sizeOf_spec] at smaller
  omega

/-- The index is not looked at, and no array is its own length or element. -/
theorem not_indexed_whole : ¬ IndexedAnswer items i (.ok (.array items)) := by
  intro agrees
  rcases Nat.eq_zero_or_pos i.toNat with zero | positive
  · obtain ⟨n, read, _⟩ := agrees.length (UInt32.toNat_inj.mp zero)
    cases read
  · rcases Nat.lt_or_ge items.length i.toNat with beyond | within
    · cases agrees.outside beyond
    · have inside : i.toNat - 1 < items.length := by omega
      have same := agrees.element _ positive (List.getElem?_eq_getElem inside)
      have mem := List.getElem_mem inside
      rw [← Except.ok.inj same] at mem
      exact array_not_mem _ mem

theorem Schedule.not_indexed {o : Schedule} (whole : o.readProperty p = .ok (.array items)) :
    ¬ IndexedAnswer items i (o.readProperty p) := by
  rw [whole]
  exact not_indexed_whole

def IndexHonoured : Object → PropertyIdentifier → UInt32 → Prop
  | .device o, p, i => p = .objectList → i = 0 → o.objectList.length < 2 ^ 32
  | .analogOutput _, _, i => 1 ≤ i.toNat ∧ i.toNat ≤ numPriorities
  | .schedule _, _, _ => False
  | _, _, _ => True

theorem indexed_read_iff {o : Object} (whole : BacnetObject.readProperty now o p none = .ok (.array items)) :
    IndexedAnswer items i (BacnetObject.readProperty later o p (some i)) ↔ IndexHonoured o p i := by
  cases o
  case device o => exact DeviceObject.indexed_iff whole
  case analogOutput o => exact AnalogOutput.indexed_iff whole
  case schedule o => exact iff_of_false (Schedule.not_indexed whole) id
  -- the other types have no array property
  case analogInput o =>
    simp only [BacnetObject.readProperty, Object.query, AnalogInput.readProperty] at whole
    split at whole
    case h_12 => cases high : o.highLimit <;> rw [high] at whole <;> cases whole
    case h_13 => cases low : o.lowLimit <;> rw [low] at whole <;> cases whole
    all_goals cases whole
  all_goals
    simp only [BacnetObject.readProperty, Object.query, AnalogValue.readProperty,
      BinaryInput.readProperty, BinaryOutput.readProperty, BinaryValue.readProperty,
      MultiStateInput.readProperty, NotificationClass.readProperty, TrendLog.readProperty] at whole
    split at whole <;> cases whole

theorem firstObject_indexed : IndexedAnswer [.objectId ⟨.device, 7⟩] 1
    (BacnetObject.readProperty ⟨⟨0⟩, ⟨0⟩⟩ (Object.device (.new ⟨7⟩ "controller")) .objectList (some 1)) := by
  have whole : BacnetObject.readProperty ⟨⟨0⟩, ⟨0⟩⟩ (Object.device (.new ⟨7⟩ "controller")) .objectList none =
    .ok (.array [.objectId ⟨.device, 7⟩]) := rfl
  refine (indexed_read_iff whole).mpr fun _ zero => ?_
  exact absurd zero (by decide)

/-- Index 17 of a priority array is answered with its sixteenth slot. -/
theorem seventeenth_slot_answered : ¬ ∀ (now later : Now) (o : Object) (p : PropertyIdentifier)
    (items : List PropertyValue) (i : UInt32),
    BacnetObject.readProperty now o p none = .ok (.array items) →
      IndexedAnswer items i (BacnetObject.readProperty later o p (some i)) := by
  intro claim
  let now : Now := ⟨⟨0⟩, ⟨0⟩⟩
  let output : Object := .analogOutput (.new now ⟨7⟩ 1 "valve" .percent)
  have whole : BacnetObject.readProperty now output .priorityArray none =
    .ok (.array (List.replicate 16 .null)) := rfl
  have inside : 1 ≤ (17 : UInt32).toNat ∧ (17 : UInt32).toNat ≤ numPriorities :=
    (indexed_read_iff whole).mp (claim now now output _ _ 17 whole)
  exact absurd inside.2 (by decide)

end BacnetSim
