import BacnetSim.Object.StatusFlags

/-! The present values of input objects: what may change them, and the range of the
multi-state one. -/
namespace BacnetSim
open PropertyValue Transitions

section Calls
variable {Obj : Type} [BacnetObject Obj]

def IsOut (o : Obj) : Prop :=
  ∃ now, BacnetObject.readProperty now o .outOfService none = .ok (.boolean true)

def SamePresent (o o' : Obj) : Prop :=
  ∀ now i, BacnetObject.readProperty now o' .presentValue i =
    BacnetObject.readProperty now o .presentValue i

theorem SamePresent.assign {α : Type} {o : Obj} {v : Option α} {set : α → Obj}
    (keeps : ∀ a, SamePresent o (set a)) : SamePresent o (assign o v set).2 := by
  cases v with
  | none => exact fun _ _ => rfl
  | some a => exact keeps a

def ObjectCall.IsForced : ObjectCall → Prop
  | force .. => True
  | _ => False

/-- A type whose plain calls change the present value out of service alone. -/
structure Guarded (Obj : Type) [BacnetObject Obj] : Prop where
  writes : ∀ {now : Now} {o : Obj} {p : PropertyIdentifier} {i : Option UInt32} {v : PropertyValue}
    {pri : Option UInt8}, ¬ IsOut o → SamePresent o (BacnetObject.writeProperty now o p i v pri).2
  ticks : ∀ {now : Now} {o : Obj} {system : SystemTime} {period : Duration},
    BacnetObject.tick now o system period = o

theorem Guarded.of_service {service : Obj → Bool} {status : Obj → StatusFlags}
    {accepts : PropertyValue → Option Bool} (fields : ServiceStatus service status accepts)
    (writes : ∀ {now : Now} {o : Obj} {p : PropertyIdentifier} {i : Option UInt32}
      {v : PropertyValue} {pri : Option UInt8}, service o = false →
      SamePresent o (BacnetObject.writeProperty now o p i v pri).2) : Guarded Obj where
  writes {now o p i v pri} inService := by
    refine writes (Bool.eq_false_iff.mpr fun out => inService ⟨now, ?_⟩)
    rw [fields.readsService, out]
  ticks := fields.ticks

theorem Guarded.after (guarded : Guarded Obj) {o : Obj} {c : ObjectCall} (plain : ¬ c.IsForced)
    (inService : ¬ IsOut o) : SamePresent o (c.after o) := by
  cases c with
  | write now p i v pri => exact guarded.writes inService
  | force now p v => exact absurd trivial plain
  | tick now system period =>
    intro now' i
    rw [ObjectCall.after, guarded.ticks]

end Calls

theorem AnalogInput.guarded : Guarded AnalogInput := by
  refine .of_service serviceStatus fun {now o p i v pri} inService => ?_
  simp only [BacnetObject.writeProperty, writeProperty, inService, Bool.not_false, if_true]
  split
  · exact .assign fun _ _ _ => rfl
  · exact fun _ _ => rfl
  · exact .assign fun _ _ _ => rfl
  · exact .assign fun _ _ _ => rfl
  · exact fun _ _ => rfl

theorem BinaryInput.guarded : Guarded BinaryInput := by
  refine .of_service serviceStatus fun {now o p i v pri} inService => ?_
  simp only [BacnetObject.writeProperty, writeProperty, inService, Bool.false_eq_true, if_false]
  split
  · exact .assign fun _ _ _ => rfl
  · exact fun _ _ => rfl
  · exact fun _ _ => rfl

theorem MultiStateInput.guarded : Guarded MultiStateInput := by
  refine .of_service serviceStatus fun {now o p i v pri} inService => ?_
  simp only [BacnetObject.writeProperty, writeProperty, inService, Bool.false_eq_true, if_false]
  split
  · exact .assign fun _ _ _ => rfl
  · exact fun _ _ => rfl
  · exact fun _ _ => rfl

structure MultiStateInput.InRange (states : UInt32) (o : MultiStateInput) : Prop where
  number : o.numberOfStates = states
  lowest : 1 ≤ o.presentValue
  highest : o.presentValue ≤ states

theorem MultiStateInput.InRange.write {states : UInt32} {o : MultiStateInput}
    (held : o.InRange states) (now : Now) (p : PropertyIdentifier) (i : Option UInt32)
    (v : PropertyValue) (pri : Option UInt8) :
    (BacnetObject.writeProperty now o p i v pri).2.InRange states := by
  simp only [BacnetObject.writeProperty, writeProperty]
  split
  · cases v.boolean? with
    | none => exact held
    | some b => exact ⟨held.number, held.lowest, held.highest⟩
  · split
    · split
      · rename_i n
        split
        · rename_i within
          exact ⟨held.number, within.1, held.number ▸ within.2⟩
        · exact held
      · exact held
    · exact held
  · exact held

theorem MultiStateInput.InRange.after {states : UInt32} {o : MultiStateInput}
    (held : o.InRange states) (c : ObjectCall) : (c.after o).InRange states := by
  cases c with
  | write now p i v pri => exact held.write now p i v pri
  | force now p v =>
    exact forced_invariant (I := InRange states) (fun o p v held => held.write now p none v none) p v held
  | tick now system period => exact held

inductive FreshInput : (Obj : Type) → BacnetObject Obj → Obj → Prop
  | analogInput (now : Now) (deviceId : DeviceId) (n : UInt32) (name : String)
      (units : EngineeringUnits) :
      FreshInput AnalogInput inferInstance (.new now deviceId n name units)
  | binaryInput (now : Now) (deviceId : DeviceId) (n : UInt32) (name : String) :
      FreshInput BinaryInput inferInstance (.new now deviceId n name)
  | multiStateInput (now : Now) (deviceId : DeviceId) (n : UInt32) (name : String)
      (states : UInt32) (positive : 1 ≤ states) :
      FreshInput MultiStateInput inferInstance (.new now deviceId n name states)

theorem FreshInput.guarded {Obj : Type} [object : BacnetObject Obj] {start : Obj}
    (fresh : FreshInput Obj object start) : Guarded Obj := by
  cases fresh with
  | analogInput => exact AnalogInput.guarded
  | binaryInput => exact BinaryInput.guarded
  | multiStateInput => exact MultiStateInput.guarded

/-- Over any run, also one with forced writes, a call that is not forced changes the present
value of an input out of service alone, and that of a multi-state input is one of its states. -/
theorem inputs_guarded :
    (∀ (Obj : Type) [object : BacnetObject Obj] (start : Obj), FreshInput Obj object start →
      ∀ past : List ObjectCall, EachStep (fun o c => some (ObjectCall.after o c)) start
        (fun _ o c => ¬ c.IsForced → ¬ IsOut o → SamePresent o (c.after o)) past) ∧
      ∀ (now : Now) (deviceId : DeviceId) (n : UInt32) (name : String) (states : UInt32), 1 ≤ states →
        ∀ past : List ObjectCall, Throughout (fun o c => some (ObjectCall.after o c))
          (MultiStateInput.new now deviceId n name states)
          (fun _ o => ∀ now i, ∃ v, BacnetObject.readProperty now o .presentValue i =
            .ok (.unsigned v) ∧ 1 ≤ v ∧ v ≤ states) past := by
  constructor
  · intro Obj object start fresh past
    exact each_of_forall fun c _ _ o plain inService => fresh.guarded.after plain inService
  · intro now deviceId n name states one past earlier o _ run now' i
    have held : o.InRange states :=
      reached_invariant (I := fun _ o => o.InRange states) ⟨rfl, UInt32.le_refl 1, one⟩
        (fun held taken => by cases taken; exact held.after _) run
    exact ⟨o.presentValue, rfl, held.lowest, held.highest⟩

theorem inputs_guarded_forced :
    SamePresent freshInput (takeOut.after freshInput) ∧
      ∃ v, BacnetObject.readProperty ⟨⟨3⟩, ⟨0⟩⟩
        ((ObjectCall.force ⟨⟨2⟩, ⟨0⟩⟩ .presentValue (.unsigned 9)).after
          (MultiStateInput.new ⟨⟨1⟩, ⟨0⟩⟩ ⟨1⟩ 1 "MSI-1" 3)) .presentValue none = .ok (.unsigned v) ∧
        1 ≤ v ∧ v ≤ 3 := by
  have inService : ¬ IsOut freshInput := fun ⟨_, out⟩ => by cases out
  exact ⟨inputs_guarded.1 AnalogInput freshInput (.analogInput ..) [takeOut] takeOut [] _ _
      (List.suffix_refl _) rfl rfl id inService,
    inputs_guarded.2 ⟨⟨1⟩, ⟨0⟩⟩ ⟨1⟩ 1 "MSI-1" 3 (by decide)
      [.force ⟨⟨2⟩, ⟨0⟩⟩ .presentValue (.unsigned 9)] _ _ (List.suffix_refl _) rfl ⟨⟨3⟩, ⟨0⟩⟩ none⟩

end BacnetSim
