import BacnetSim.Lib.Simulation
import BacnetSim.Object.Binary
import Mathlib.Data.List.FinRange

/-! Commanded outputs: what the priority array of an output shows after any sequence of
writes, in terms of the writes that were accepted. -/
namespace BacnetSim
open Rust Ieee754 PropertyValue

structure Write where
  now : Now
  propertyId : PropertyIdentifier
  arrayIndex : Option UInt32
  value : PropertyValue
  priority : Option UInt8

namespace Write

/-- The priority of a command; an absent one counts as 16. -/
def level (w : Write) : Nat := (w.priority.getD 16).toNat

def InRange (w : Write) : Prop := 1 ≤ w.level ∧ w.level ≤ numPriorities

instance (w : Write) : Decidable w.InRange := inferInstanceAs (Decidable (_ ∧ _))

def slot (w : Write) (range : w.InRange) : Fin numPriorities := ⟨w.level - 1, by
  unfold InRange at range
  omega⟩

def applyTo {Obj : Type} [BacnetObject Obj] (o : Obj) (w : Write) : Except BacnetError Unit × Obj :=
  BacnetObject.writeProperty w.now o w.propertyId w.arrayIndex w.value w.priority

end Write

abbrev WriteResult := Write × Except BacnetError Unit

def writeAll {Obj : Type} [BacnetObject Obj] (o : Obj) (writes : List Write) :
    List WriteResult × Obj :=
  runSpec (fun o w => ((w, (w.applyTo o).1), (w.applyTo o).2)) o writes

theorem writeAll_concat {Obj : Type} [BacnetObject Obj] (o : Obj) (writes : List Write) (w : Write) :
    writeAll o (writes ++ [w]) =
      ((writeAll o writes).1 ++ [(w, (w.applyTo (writeAll o writes).2).1)],
        (w.applyTo (writeAll o writes).2).2) := runSpec_concat o writes w

theorem writeAll_writes {Obj : Type} [BacnetObject Obj] (o : Obj) (writes : List Write) :
    (writeAll o writes).1.map Prod.fst = writes := by
  induction writes using List.reverseRecOn with
  | nil => rfl
  | append_singleton writes w ih => rw [writeAll_concat, List.map_append, ih]; rfl

def isNull : PropertyValue → Bool
  | .null => true
  | _ => false

theorem null_or_value (v : PropertyValue) : v = .null ∨ isNull v = false := by
  cases v with
  | null => exact .inl rfl
  | _ => exact .inr rfl

def accepted : WriteResult → Bool
  | (w, .ok ()) => w.propertyId == .presentValue
  | (_, .error _) => false

theorem writeAll_keeps {Obj β : Type} [BacnetObject Obj] {f : Obj → β} {o : Obj}
    (keeps : ∀ {o : Obj} {w : Write}, w.InRange → f (w.applyTo o).2 = f o) {writes : List Write}
    (inRange : ∀ w ∈ writes, w.InRange) : f (writeAll o writes).2 = f o := by
  refine runSpec_history (I := fun left _ => f left = f o) rfl ?_ inRange
  intro o' done w same range
  exact (keeps range).trans same

def lastAccepted (priority : Nat) (done : List WriteResult) : Option PropertyValue :=
  (done.reverse.find? fun r => r.1.level == priority && accepted r).map (·.1.value)

/-- The value that commands: at the smallest priority whose last accepted write is not Null. -/
def commanding (done : List WriteResult) : Option PropertyValue :=
  (List.finRange numPriorities).findSome? fun i =>
    (lastAccepted (i.val + 1) done).filter fun v => !isNull v

theorem accepted_iff {w : Write} {result : Except BacnetError Unit} :
    accepted (w, result) = true ↔ w.propertyId = .presentValue ∧ result = .ok () := by
  cases result with
  | error e => exact iff_of_false nofun (fun h => by cases h.2)
  | ok u => exact beq_iff_eq.trans (and_iff_left rfl).symm

theorem not_ok_of_refused {w : Write} {result : Except BacnetError Unit}
    (refused : accepted (w, result) = false) (present : w.propertyId = .presentValue) :
    result ≠ .ok () := by
  intro ok
  rw [accepted_iff.mpr ⟨present, ok⟩] at refused
  cases refused

theorem lastAccepted_concat (priority : Nat) (done : List WriteResult) (r : WriteResult) :
    lastAccepted priority (done ++ [r]) =
      if r.1.level = priority ∧ accepted r = true then some r.1.value
      else lastAccepted priority done := by
  rw [lastAccepted, List.reverse_concat, List.find?_cons]
  by_cases own : r.1.level = priority ∧ accepted r = true
  · simp [own]
  · have other : (r.1.level == priority && accepted r) = false := by simpa using own
    simp only [other, if_neg own, lastAccepted]

theorem get_set_of_ne {α : Type} {n : Nat} {slots : Vector α n} {i j : Fin n} {a : α}
    (ne : j ≠ i) : (slots.set i a i.isLt).get j = slots.get j :=
  Vector.getElem_set_ne _ _ fun same => ne (Fin.ext same.symm)

section Commandable
variable {Obj α : Type} [BacnetObject Obj]

/-- An object whose accepted `PresentValue` writes set one slot each to what their value is
converted to (`Null` to nothing), and whose other writes set no slot. -/
structure Commandable (slots : Obj → Vector (Option α) numPriorities)
    (convert : PropertyValue → Option α) : Prop where
  null : convert .null = none
  commands : ∀ {o : Obj} {w : Write} (range : w.InRange), w.propertyId = .presentValue →
    (w.applyTo o).1 = .ok () →
    slots (w.applyTo o).2 = (slots o).set (w.slot range) (convert w.value) ∧
      (isNull w.value = false → (convert w.value).isSome)
  keeps : ∀ {o : Obj} {w : Write}, w.InRange → accepted (w, (w.applyTo o).1) = false →
    slots (w.applyTo o).2 = slots o

structure Shows (slots : Vector (Option α) numPriorities) (convert : PropertyValue → Option α)
    (done : List WriteResult) : Prop where
  slot : ∀ i, slots.get i = (lastAccepted (i.val + 1) done).bind convert
  converted : ∀ {p v}, lastAccepted p done = some v → isNull v = false → (convert v).isSome

variable {slots : Obj → Vector (Option α) numPriorities} {convert : PropertyValue → Option α}

theorem Shows.empty : Shows (Vector.replicate numPriorities (none : Option α)) convert [] where
  slot i := Vector.getElem_replicate i.isLt
  converted := nofun

theorem Shows.write {o : Obj} {w : Write} {done : List WriteResult}
    (commandable : Commandable slots convert) (shows_ : Shows (slots o) convert done)
    (range : w.InRange) :
    Shows (slots (w.applyTo o).2) convert (done ++ [(w, (w.applyTo o).1)]) := by
  have position : w.slot range + 1 = w.level := Nat.sub_add_cancel range.1
  cases taken : accepted (w, (w.applyTo o).1) with
  | false =>
    have same : ∀ p, lastAccepted p (done ++ [(w, (w.applyTo o).1)]) = lastAccepted p done := by
      intro p
      rw [lastAccepted_concat, if_neg (by simp [taken])]
    rw [commandable.keeps range taken]
    constructor
    · intro i
      rw [same]
      exact shows_.slot i
    · intro p v last
      rw [same] at last
      exact shows_.converted last
  | true =>
    obtain ⟨present, ok⟩ := accepted_iff.mp taken
    obtain ⟨set, total⟩ := commandable.commands range present ok
    rw [set]
    constructor
    · intro i
      rw [lastAccepted_concat]
      by_cases own : w.slot range = i
      · subst own
        rw [if_pos ⟨position.symm, taken⟩]
        exact Vector.getElem_set_self _
      · have other : ¬ (w.level = i + 1 ∧ accepted (w, (w.applyTo o).1) = true) := by
          rintro ⟨level, _⟩
          exact own (Fin.ext (by omega))
        rw [if_neg other, ← shows_.slot i]
        exact get_set_of_ne (Ne.symm own)
    · intro p v last
      rw [lastAccepted_concat] at last
      split at last
      · cases last
        exact total
      · exact shows_.converted last

theorem shows_writeAll {o : Obj} (commandable : Commandable slots convert)
    (initial : slots o = Vector.replicate numPriorities none) {writes : List Write}
    (inRange : ∀ w ∈ writes, w.InRange) :
    Shows (slots (writeAll o writes).2) convert (writeAll o writes).1 := by
  refine runSpec_history (I := fun o done => Shows (slots o) convert done) ?_ ?_ inRange
  · rw [initial]
    exact .empty
  · intro o done w shows_ range
    exact shows_.write commandable range

theorem findSome?_bind {A B : Type} {f : A → Option B} {g : B → Option α} {items : List A}
    (total : ∀ a b, f a = some b → (g b).isSome) :
    items.findSome? (fun a => (f a).bind g) = (items.findSome? f).bind g := by
  induction items with
  | nil => rfl
  | cons a items ih =>
    rw [List.findSome?_cons, List.findSome?_cons, ih]
    cases found : f a with
    | none => rfl
    | some b =>
      obtain ⟨c, converted⟩ := Option.isSome_iff_exists.mp (total a b found)
      simp only [Option.bind_some, converted]

theorem toList_get {n : Nat} (slots : Vector α n) :
    slots.toList = (List.finRange n).map slots.get := by
  apply List.ext_getElem (by simp)
  intro i _ _
  simp [Vector.get]

theorem Shows.effective {slots : Vector (Option α) numPriorities} {done : List WriteResult}
    (null : convert .null = none) (shows_ : Shows slots convert done) :
    slots.toList.findSome? id = (commanding done).bind convert := by
  rw [toList_get, List.findSome?_map, commanding, ← findSome?_bind]
  · congr 1
    funext i
    rw [Function.comp_apply, id, shows_.slot i]
    cases last : lastAccepted (i.val + 1) done with
    | none => rfl
    | some v =>
      cases v with
      | null => exact null
      | _ => rfl
  · intro i v found
    rw [Option.filter_eq_some_iff] at found
    exact shows_.converted found.1 (by simpa using found.2)

end Commandable

namespace AnalogOutput
variable {o : AnalogOutput} {w : Write} {now : Now} {slot : Fin numPriorities} {v : PropertyValue}

def settled (now : Now) (o : AnalogOutput) (slot : Fin numPriorities) (entry : Option F32) :
    AnalogOutput :=
  let o := { o with priorityArray := o.priorityArray.set slot entry slot.isLt }
  { o with presentValue := o.effectiveValue, lastChanged := now.instant }

theorem command_value (value : isNull v = false) :
    o.command now slot v = assign o v.asF32 fun f => settled now o slot (some f) := by
  cases v with
  | null => cases value
  | _ => rfl

theorem command_ok (ok : (o.command now slot v).1 = .ok ()) :
    (o.command now slot v).2 = settled now o slot v.asF32 ∧
      (isNull v = false → v.asF32.isSome) := by
  rcases null_or_value v with rfl | value
  · exact ⟨rfl, nofun⟩
  · rw [command_value value] at ok ⊢
    obtain ⟨f, converted, left⟩ := assign_ok ok
    exact ⟨by rw [left, converted], fun _ => by rw [converted]; rfl⟩

theorem command_refused (refused : (o.command now slot v).1 ≠ .ok ()) :
    (o.command now slot v).2 = o := by
  rcases null_or_value v with rfl | value
  · exact absurd rfl refused
  · rw [command_value value] at refused ⊢
    exact assign_refused refused

theorem command_keeps {β : Type} {f : AnalogOutput → β}
    (keeps : ∀ entry, f (settled now o slot entry) = f o) :
    f (o.command now slot v).2 = f o := by
  by_cases ok : (o.command now slot v).1 = .ok ()
  · rw [(command_ok ok).1]
    exact keeps v.asF32
  · rw [command_refused ok]

theorem applyTo_present (range : w.InRange) (present : w.propertyId = .presentValue) :
    w.applyTo o = o.command w.now (w.slot range) w.value := by
  have within : 1 ≤ (w.priority.getD 16).toNat ∧ (w.priority.getD 16).toNat ≤ 16 := range
  simp only [Write.applyTo, BacnetObject.writeProperty, writeProperty, present, dif_pos within]
  rfl

theorem applyTo_other (other : w.propertyId ≠ .presentValue) :
    (w.applyTo o).2.priorityArray = o.priorityArray ∧
      (w.applyTo o).2.relinquishDefault = o.relinquishDefault := by
  simp only [Write.applyTo, BacnetObject.writeProperty, writeProperty]
  split
  · rename_i present
    exact absurd present other
  · exact ⟨assign_keeps fun _ => rfl, assign_keeps fun _ => rfl⟩
  · exact ⟨assign_keeps fun _ => rfl, assign_keeps fun _ => rfl⟩
  · exact ⟨rfl, rfl⟩

theorem commandable : Commandable AnalogOutput.priorityArray asF32 where
  null := rfl
  commands range present ok := by
    rw [applyTo_present range present] at ok ⊢
    rw [(command_ok ok).1]
    exact ⟨rfl, (command_ok ok).2⟩
  keeps {o w} range refused := by
    by_cases present : w.propertyId = .presentValue
    · have failed := not_ok_of_refused refused present
      rw [applyTo_present range present] at failed ⊢
      rw [command_refused failed]
    · exact (applyTo_other present).1

theorem applyTo_relinquishDefault (range : w.InRange) :
    (w.applyTo o).2.relinquishDefault = o.relinquishDefault := by
  by_cases present : w.propertyId = .presentValue
  · rw [applyTo_present range present]
    exact command_keeps (f := relinquishDefault) fun _ => rfl
  · exact (applyTo_other present).2

end AnalogOutput

namespace BinaryOutput
variable {o : BinaryOutput} {w : Write}

def commandOf (v : PropertyValue) : Option Bool := (slotOf v).join

theorem applyTo_present (range : w.InRange) (present : w.propertyId = .presentValue) :
    w.applyTo o = assign o (slotOf w.value) fun entry =>
      { o with
        priorityArray := o.priorityArray.set (w.slot range) entry
        lastChanged := w.now.instant } := by
  have within : w.level ≤ 16 := range.2
  have same : clampSlot (w.priority.getD 16).toNat = w.slot range :=
    Fin.ext (Nat.min_eq_left (Nat.sub_le_sub_right within 1))
  simp only [Write.applyTo, BacnetObject.writeProperty, writeProperty, present, same]

theorem applyTo_other (other : w.propertyId ≠ .presentValue) :
    (w.applyTo o).2.priorityArray = o.priorityArray ∧
      (w.applyTo o).2.relinquishDefault = o.relinquishDefault := by
  simp only [Write.applyTo, BacnetObject.writeProperty, writeProperty]
  split
  · rename_i present
    exact absurd present other
  · exact ⟨assign_keeps fun _ => rfl, assign_keeps fun _ => rfl⟩
  · exact ⟨rfl, rfl⟩

theorem slotOf_isSome {v : PropertyValue} {entry : Option Bool} (converted : slotOf v = some entry)
    (command : isNull v = false) : entry.isSome := by
  cases v with
  | null => cases command
  | enumerated v | unsigned v | boolean v =>
    cases converted
    rfl
  | _ => cases converted

theorem commandable : Commandable BinaryOutput.priorityArray commandOf where
  null := rfl
  commands range present ok := by
    rw [applyTo_present range present] at ok ⊢
    obtain ⟨entry, converted, left⟩ := assign_ok ok
    have same : commandOf _ = entry := congrArg Option.join converted
    rw [left, same]
    exact ⟨rfl, slotOf_isSome converted⟩
  keeps {o w} range refused := by
    by_cases present : w.propertyId = .presentValue
    · have failed := not_ok_of_refused refused present
      rw [applyTo_present range present] at failed ⊢
      rw [assign_refused failed]
    · exact (applyTo_other present).1

theorem applyTo_relinquishDefault (range : w.InRange) :
    (w.applyTo o).2.relinquishDefault = o.relinquishDefault := by
  by_cases present : w.propertyId = .presentValue
  · rw [applyTo_present range present]
    exact assign_keeps fun _ => rfl
  · exact (applyTo_other present).2

end BinaryOutput

def Reads {α : Type} (read : Except BacnetError PropertyValue) (convert : PropertyValue → Option α)
    (present : α → PropertyValue) (relinquishDefault : α) (done : List WriteResult) : Prop :=
  match commanding done with
  | some v => ∃ a, convert v = some a ∧ read = .ok (present a)
  | none => read = .ok (present relinquishDefault)

theorem Shows.reads {α : Type} {slots : Vector (Option α) numPriorities} {done : List WriteResult}
    {convert : PropertyValue → Option α} (null : convert .null = none)
    (shows_ : Shows slots convert done) (present : α → PropertyValue) (relinquishDefault : α) :
    Reads (.ok (present ((slots.toList.findSome? id).getD relinquishDefault))) convert present
      relinquishDefault done := by
  rw [shows_.effective null, Reads]
  cases first : commanding done with
  | none => rfl
  | some v =>
    obtain ⟨i, _, found⟩ := List.exists_of_findSome?_eq_some first
    rw [Option.filter_eq_some_iff] at found
    obtain ⟨a, converted⟩ :=
      Option.isSome_iff_exists.mp (shows_.converted found.1 (by simpa using found.2))
    exact ⟨a, converted, by rw [Option.bind_some, converted, Option.getD_some]⟩

/-- After any writes at priorities in range, an output that started with nothing commanded
presents the value that commands, and an analog output shows every priority. -/
theorem command_priority (now : Now) {writes : List Write} (inRange : ∀ w ∈ writes, w.InRange) :
    (∀ o : AnalogOutput, o.priorityArray = Vector.replicate numPriorities none →
      Reads (BacnetObject.readProperty now (writeAll o writes).2 .presentValue none) asF32 .real
          o.relinquishDefault (writeAll o writes).1 ∧
        BacnetObject.readProperty now (writeAll o writes).2 .priorityArray none =
          .ok (.array ((List.finRange numPriorities).map fun i =>
            slotValue ((lastAccepted (i.val + 1) (writeAll o writes).1).bind asF32)))) ∧
      ∀ o : BinaryOutput, o.priorityArray = Vector.replicate numPriorities none →
        Reads (BacnetObject.readProperty now (writeAll o writes).2 .presentValue none)
          BinaryOutput.commandOf (fun b => .enumerated (boolCode b)) (o.relinquishDefault == .active)
          (writeAll o writes).1 := by
  constructor
  · intro o initial
    have shows_ := shows_writeAll AnalogOutput.commandable initial inRange
    have reads := shows_.reads rfl .real o.relinquishDefault
    rw [← writeAll_keeps (o := o) AnalogOutput.applyTo_relinquishDefault inRange] at reads ⊢
    refine ⟨reads, ?_⟩
    have listed : (writeAll o writes).2.priorityArray.toList.map slotValue =
        (List.finRange numPriorities).map fun i =>
          slotValue ((lastAccepted (i.val + 1) (writeAll o writes).1).bind asF32) := by
      rw [toList_get, List.map_map]
      congr 1
      funext i
      exact congrArg slotValue (shows_.slot i)
    rw [← listed]
    rfl
  · intro o initial
    have shows_ := shows_writeAll BinaryOutput.commandable initial inRange
    have reads := shows_.reads rfl (fun b => .enumerated (boolCode b))
      (o.relinquishDefault == .active)
    rw [← writeAll_keeps (o := o) BinaryOutput.applyTo_relinquishDefault inRange] at reads ⊢
    exact reads

def relinquishedWrites : List Write :=
  [⟨⟨⟨0⟩, ⟨0⟩⟩, .presentValue, none, .real ⟨0x42960000⟩, some 8⟩,
    ⟨⟨⟨1⟩, ⟨1⟩⟩, .presentValue, none, .real ⟨0x42480000⟩, some 5⟩,
    ⟨⟨⟨2⟩, ⟨2⟩⟩, .presentValue, none, .null, some 5⟩]

theorem relinquished_priority_reads :
    BacnetObject.readProperty ⟨⟨3⟩, ⟨3⟩⟩
        (writeAll (AnalogOutput.new ⟨⟨0⟩, ⟨0⟩⟩ ⟨1⟩ 1 "AO" .percent) relinquishedWrites).2
        .presentValue none = .ok (.real ⟨0x42960000⟩) := by
  have reads := ((command_priority ⟨⟨3⟩, ⟨3⟩⟩ (show ∀ w ∈ relinquishedWrites, w.InRange by decide)).1
    (AnalogOutput.new ⟨⟨0⟩, ⟨0⟩⟩ ⟨1⟩ 1 "AO" .percent) rfl).1
  obtain ⟨f, converted, read⟩ := reads
  cases converted
  exact read

end BacnetSim
