import BacnetSim.Object.Identity

/-! What a failed write leaves behind, and what a forced write does to `OutOfService`. -/
namespace BacnetSim
open PropertyValue

theorem ne_ok_of_error {r : Except BacnetError Unit} {e : BacnetError} (failed : r = .error e) :
    r ≠ .ok () := by
  intro ok
  rw [failed] at ok
  cases ok

section Rules
variable {Obj : Type} [BacnetObject Obj]

def UnlessRefused (o : Obj) (r : Except BacnetError Unit × Obj) : Prop := r.1 ≠ .ok () → r.2 = o

omit [BacnetObject Obj] in
theorem unlessRefused_error {o : Obj} {e : BacnetError} : UnlessRefused o (.error e, o) :=
  fun _ => rfl

/-- What the write rules of a type keep to: a refused write leaves the object as it was, and
its `out_of_service`, where it has one, is set by writes to that property alone. -/
structure WriteRules (flag : Obj → Option Bool) : Prop where
  refused : ∀ {now : Now} {o : Obj} {p : PropertyIdentifier} {i : Option UInt32} {v : PropertyValue}
    {pri : Option UInt8}, UnlessRefused o (BacnetObject.writeProperty now o p i v pri)
  keeps : ∀ {now : Now} {o : Obj} {p : PropertyIdentifier} {i : Option UInt32} {v : PropertyValue}
    {pri : Option UInt8}, p ≠ .outOfService →
    flag (BacnetObject.writeProperty now o p i v pri).2 = flag o
  sets : ∀ {now : Now} {o : Obj} (b : Bool),
    flag (BacnetObject.writeProperty now o .outOfService none (.boolean b) none).2 =
      (flag o).map fun _ => b
  reads : ∀ {now : Now} {o : Obj}, flag o = some true →
    BacnetObject.readProperty now o .outOfService none = .ok (.boolean true)
  restores : ∀ {now : Now} {o : Obj}, flag o ≠ some true →
    (BacnetObject.writeProperty now
      (BacnetObject.writeProperty now o .outOfService none (.boolean true) none).2
      .outOfService none (.boolean false) none).2 = o

structure ServiceFlag (get : Obj → Bool) (set : Obj → Bool → Obj) : Prop where
  refused : ∀ {now : Now} {o : Obj} {p : PropertyIdentifier} {i : Option UInt32} {v : PropertyValue}
    {pri : Option UInt8}, UnlessRefused o (BacnetObject.writeProperty now o p i v pri)
  keeps : ∀ {now : Now} {o : Obj} {p : PropertyIdentifier} {i : Option UInt32} {v : PropertyValue}
    {pri : Option UInt8}, p ≠ .outOfService →
    get (BacnetObject.writeProperty now o p i v pri).2 = get o
  writes : ∀ {now : Now} {o : Obj} (b : Bool),
    BacnetObject.writeProperty now o .outOfService none (.boolean b) none = (.ok (), set o b)
  reads : ∀ {now : Now} {o : Obj},
    BacnetObject.readProperty now o .outOfService none = .ok (.boolean (get o))
  get_set : ∀ o b, get (set o b) = b
  set_set : ∀ o a b, set (set o a) b = set o b
  set_get : ∀ o, set o (get o) = o

theorem ServiceFlag.writeRules {get : Obj → Bool} {set : Obj → Bool → Obj}
    (service : ServiceFlag get set) : WriteRules fun o => some (get o) where
  refused := service.refused
  keeps other := congrArg some (service.keeps other)
  sets b := by rw [service.writes, service.get_set, Option.map_some]
  reads flagged := by rw [service.reads, Option.some.inj flagged]
  restores {now o} clear := by
    have off : get o = false := by simpa using clear
    rw [service.writes, service.writes, service.set_set, ← off]
    exact service.set_get o

theorem writeRules_readOnly
    (readOnly : ∀ {now : Now} {o : Obj} {p : PropertyIdentifier} {i : Option UInt32}
      {v : PropertyValue} {pri : Option UInt8},
      BacnetObject.writeProperty now o p i v pri = (.error .writeAccessDenied, o)) :
    WriteRules fun _ : Obj => none where
  refused {now o p i v pri} := by
    rw [readOnly]
    exact unlessRefused_error
  keeps other := rfl
  sets b := rfl
  reads flagged := by cases flagged
  restores service := by rw [readOnly, readOnly]

/-- The second attempt of a forced write, between setting `OutOfService` and clearing it. -/
def retried (now : Now) (o : Obj) (v : PropertyValue) : Except BacnetError Unit × Obj :=
  BacnetObject.writeProperty now
    (BacnetObject.writeProperty now o .outOfService none (.boolean true) none).2
    .presentValue none v none

def cleared (now : Now) (o : Obj) : Obj :=
  (BacnetObject.writeProperty now o .outOfService none (.boolean false) none).2

variable {flag : Obj → Option Bool} (now : Now) (o : Obj) (p : PropertyIdentifier)
  (v : PropertyValue)

/-- A forced write is the plain one, or a failure without an effect, or it is made out of
service. -/
theorem forceWriteProperty_cases (rules : WriteRules flag) :
    (BacnetObject.forceWriteProperty now o p v = BacnetObject.writeProperty now o p none v none ∧
        (BacnetObject.writeProperty now o p none v none).1 = .ok ()) ∨
      BacnetObject.forceWriteProperty now o p v = (.error .writeAccessDenied, o) ∨
      (p = .presentValue ∧ flag o ≠ some true ∧ BacnetObject.forceWriteProperty now o p v =
        ((retried now o v).1, cleared now (retried now o v).2)) := by
  unfold BacnetObject.forceWriteProperty
  rcases plain : BacnetObject.writeProperty now o p none v none with ⟨result, left⟩
  cases result with
  | ok u => exact .inl ⟨rfl, rfl⟩
  | error e =>
    have same : left = o := by
      have kept : UnlessRefused o (BacnetObject.writeProperty now o p none v none) := rules.refused
      rw [plain] at kept
      exact kept (ne_ok_of_error rfl)
    subst same
    by_cases present : p = .presentValue
    · simp only [if_pos present]
      split
      · exact .inr (.inl rfl)
      · rename_i notOos
        have service : flag left ≠ some true := fun flagged => notOos (rules.reads flagged)
        subst present
        exact .inr (.inr ⟨rfl, service, rfl⟩)
    · exact .inr (.inl (if_neg present))

theorem forceWriteProperty_refused (rules : WriteRules flag)
    (refused : (BacnetObject.forceWriteProperty now o p v).1 ≠ .ok ()) :
    (BacnetObject.forceWriteProperty now o p v).2 = o := by
  rcases forceWriteProperty_cases now o p v rules with
    ⟨plain, ok⟩ | failed | ⟨rfl, service, retry⟩
  · rw [plain] at refused
    exact absurd ok refused
  · rw [failed]
  · rw [retry] at refused ⊢
    have kept : (retried now o v).2 = _ := rules.refused refused
    rw [kept]
    exact rules.restores service

theorem forceWriteProperty_keeps (rules : WriteRules flag) (other : p ≠ .outOfService) :
    flag (BacnetObject.forceWriteProperty now o p v).2 = flag o := by
  rcases forceWriteProperty_cases now o p v rules with
    ⟨plain, _⟩ | failed | ⟨rfl, service, retry⟩
  · rw [plain]
    exact rules.keeps other
  · rw [failed]
  · rw [retry]
    have kept : flag (retried now o v).2 = (flag o).map fun _ => true :=
      (rules.keeps other).trans (rules.sets true)
    have left : flag (cleared now (retried now o v).2) = (flag (retried now o v).2).map fun _ => false :=
      rules.sets false
    rw [left, kept]
    cases flagged : flag o with
    | none => rfl
    | some b =>
      cases b with
      | true => exact absurd flagged service
      | false => rfl

end Rules

theorem AnalogInput.serviceFlag :
    ServiceFlag AnalogInput.outOfService fun o b => { o with outOfService := b } where
  refused := (written _ _ _ _ _ _).unchanged
  keeps other := congrArg Prod.fst ((written _ _ _ _ _ _).flag_eq other)
  writes _ := rfl
  reads := rfl
  get_set _ _ := rfl
  set_set _ _ _ := rfl
  set_get _ := rfl

theorem AnalogOutput.serviceFlag :
    ServiceFlag AnalogOutput.outOfService fun o b => { o with outOfService := b } where
  refused := (written _ _ _ _ _ _).unchanged
  keeps other := congrArg Prod.fst ((written _ _ _ _ _ _).flag_eq other)
  writes _ := rfl
  reads := rfl
  get_set _ _ := rfl
  set_set _ _ _ := rfl
  set_get _ := rfl

theorem AnalogValue.serviceFlag :
    ServiceFlag AnalogValue.outOfService fun o b => { o with outOfService := b } where
  refused := (written _ _ _ _ _ _).unchanged
  keeps other := congrArg Prod.fst ((written _ _ _ _ _ _).flag_eq other)
  writes _ := rfl
  reads := rfl
  get_set _ _ := rfl
  set_set _ _ _ := rfl
  set_get _ := rfl

theorem BinaryInput.serviceFlag :
    ServiceFlag BinaryInput.outOfService fun o b => { o with outOfService := b } where
  refused := (written _ _ _ _ _ _).unchanged
  keeps other := congrArg Prod.fst ((written _ _ _ _ _ _).flag_eq other)
  writes _ := rfl
  reads := rfl
  get_set _ _ := rfl
  set_set _ _ _ := rfl
  set_get _ := rfl

theorem BinaryOutput.serviceFlag :
    ServiceFlag BinaryOutput.outOfService fun o b => { o with outOfService := b } where
  refused := (written _ _ _ _ _ _).unchanged
  keeps other := congrArg Prod.fst ((written _ _ _ _ _ _).flag_eq other)
  writes _ := rfl
  reads := rfl
  get_set _ _ := rfl
  set_set _ _ _ := rfl
  set_get _ := rfl

theorem BinaryValue.serviceFlag :
    ServiceFlag BinaryValue.outOfService fun o b => { o with outOfService := b } where
  refused := (written _ _ _ _ _ _).unchanged
  keeps other := congrArg Prod.fst ((written _ _ _ _ _ _).flag_eq other)
  writes _ := rfl
  reads := rfl
  get_set _ _ := rfl
  set_set _ _ _ := rfl
  set_get _ := rfl

theorem MultiStateInput.serviceFlag :
    ServiceFlag MultiStateInput.outOfService fun o b => { o with outOfService := b } where
  refused := (written _ _ _ _ _ _).unchanged
  keeps other := congrArg Prod.fst ((written _ _ _ _ _ _).flag_eq other)
  writes _ := rfl
  reads := rfl
  get_set _ _ := rfl
  set_set _ _ _ := rfl
  set_get _ := rfl

theorem Schedule.serviceFlag :
    ServiceFlag Schedule.outOfService fun o b => { o with outOfService := b } where
  refused := (written _ _ _ _ _ _).unchanged
  keeps := (written _ _ _ _ _ _).flag_eq
  writes _ := rfl
  reads := rfl
  get_set _ _ := rfl
  set_set _ _ _ := rfl
  set_get _ := rfl

theorem TrendLog.serviceFlag :
    ServiceFlag TrendLog.outOfService fun o b => { o with outOfService := b } where
  refused := (written _ _ _ _ _ _).unchanged
  keeps := (written _ _ _ _ _ _).flag_eq
  writes _ := rfl
  reads := rfl
  get_set _ _ := rfl
  set_set _ _ _ := rfl
  set_get _ := rfl

theorem NotificationClass.writeRules : WriteRules fun _ : NotificationClass => none :=
  writeRules_readOnly rfl

theorem DeviceObject.writeRules : WriteRules fun _ : DeviceObject => none :=
  writeRules_readOnly rfl

structure Boxes {Obj Box : Type} [BacnetObject Obj] [BacnetObject Box] (box : Obj → Box) : Prop where
  reads : ∀ {now : Now} {o : Obj} {p : PropertyIdentifier} {i : Option UInt32},
    BacnetObject.readProperty now (box o) p i = BacnetObject.readProperty now o p i
  writes : ∀ {now : Now} {o : Obj} {p : PropertyIdentifier} {i : Option UInt32} {v : PropertyValue}
    {pri : Option UInt8}, BacnetObject.writeProperty now (box o) p i v pri =
      (BacnetObject.writeProperty now o p i v pri).map id box

theorem Boxes.forceWriteProperty {Obj Box : Type} [BacnetObject Obj] [BacnetObject Box]
    {box : Obj → Box} (boxes : Boxes box) (now : Now) (o : Obj) (p : PropertyIdentifier)
    (v : PropertyValue) : BacnetObject.forceWriteProperty now (box o) p v =
      (BacnetObject.forceWriteProperty now o p v).map id box := by
  unfold BacnetObject.forceWriteProperty
  rw [boxes.writes]
  rcases BacnetObject.writeProperty now o p none v none with ⟨result, left⟩
  cases result with
  | ok u => rfl
  | error e =>
    simp only [Prod.map, id_eq, boxes.reads, boxes.writes]
    split
    · split <;> rfl
    · rfl

namespace Object

def outOfService : Object → Option Bool
  | analogInput o => some o.outOfService
  | analogOutput o => some o.outOfService
  | analogValue o => some o.outOfService
  | binaryInput o => some o.outOfService
  | binaryOutput o => some o.outOfService
  | binaryValue o => some o.outOfService
  | multiStateInput o => some o.outOfService
  | notificationClass _ => none
  | schedule o => some o.outOfService
  | trendLog o => some o.outOfService
  | device _ => none

theorem boxed (o : Object) : ∃ (Obj : Type) (_ : BacnetObject Obj) (flag : Obj → Option Bool)
    (box : Obj → Object) (inside : Obj), Boxes box ∧ WriteRules flag ∧
      (∀ inside, (box inside).outOfService = flag inside) ∧ o = box inside := by
  cases o with
  | analogInput o =>
    exact ⟨_, _, _, _, o, ⟨rfl, rfl⟩, AnalogInput.serviceFlag.writeRules, fun _ => rfl, rfl⟩
  | analogOutput o =>
    exact ⟨_, _, _, _, o, ⟨rfl, rfl⟩, AnalogOutput.serviceFlag.writeRules, fun _ => rfl, rfl⟩
  | analogValue o =>
    exact ⟨_, _, _, _, o, ⟨rfl, rfl⟩, AnalogValue.serviceFlag.writeRules, fun _ => rfl, rfl⟩
  | binaryInput o =>
    exact ⟨_, _, _, _, o, ⟨rfl, rfl⟩, BinaryInput.serviceFlag.writeRules, fun _ => rfl, rfl⟩
  | binaryOutput o =>
    exact ⟨_, _, _, _, o, ⟨rfl, rfl⟩, BinaryOutput.serviceFlag.writeRules, fun _ => rfl, rfl⟩
  | binaryValue o =>
    exact ⟨_, _, _, _, o, ⟨rfl, rfl⟩, BinaryValue.serviceFlag.writeRules, fun _ => rfl, rfl⟩
  | multiStateInput o =>
    exact ⟨_, _, _, _, o, ⟨rfl, rfl⟩, MultiStateInput.serviceFlag.writeRules, fun _ => rfl, rfl⟩
  | notificationClass o =>
    exact ⟨_, _, _, _, o, ⟨rfl, rfl⟩, NotificationClass.writeRules, fun _ => rfl, rfl⟩
  | schedule o =>
    exact ⟨_, _, _, _, o, ⟨rfl, rfl⟩, Schedule.serviceFlag.writeRules, fun _ => rfl, rfl⟩
  | trendLog o =>
    exact ⟨_, _, _, _, o, ⟨rfl, rfl⟩, TrendLog.serviceFlag.writeRules, fun _ => rfl, rfl⟩
  | device o =>
    exact ⟨_, _, _, _, o, ⟨rfl, rfl⟩, DeviceObject.writeRules, fun _ => rfl, rfl⟩

/-- A write that fails, forced or not, leaves the whole object as it was, and a forced write
of another property than `OutOfService` leaves that one as it was. -/
theorem failed_writes_change_nothing (now : Now) (o : Object) (p : PropertyIdentifier)
    (i : Option UInt32) (v : PropertyValue) (pri : Option UInt8) :
    (∀ e, (BacnetObject.writeProperty now o p i v pri).1 = .error e →
        (BacnetObject.writeProperty now o p i v pri).2 = o) ∧
      (∀ e, (BacnetObject.forceWriteProperty now o p v).1 = .error e →
        (BacnetObject.forceWriteProperty now o p v).2 = o) ∧
      (p ≠ .outOfService →
        (BacnetObject.forceWriteProperty now o p v).2.outOfService = o.outOfService) := by
  obtain ⟨Obj, _, flag, box, inside, boxes, rules, flagged, rfl⟩ := o.boxed
  rw [boxes.writes, boxes.forceWriteProperty]
  refine ⟨?_, ?_, ?_⟩
  · intro e failed
    exact congrArg box (rules.refused (ne_ok_of_error failed))
  · intro e failed
    exact congrArg box (forceWriteProperty_refused now inside p v rules (ne_ok_of_error failed))
  · intro other
    rw [flagged]
    exact (flagged _).trans (forceWriteProperty_keeps now inside p v rules other)

end Object

end BacnetSim
