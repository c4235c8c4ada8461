import BacnetSim.Lib.Transitions
import BacnetSim.Object.Force

/-! The out-of-service bit of `StatusFlags` beside `OutOfService`: the constructors clear both,
and only the second is ever set. -/
namespace BacnetSim
open PropertyValue Transitions

inductive ObjectCall where
  | write (now : Now) (p : PropertyIdentifier) (i : Option UInt32) (v : PropertyValue)
    (priority : Option UInt8)
  | force (now : Now) (p : PropertyIdentifier) (v : PropertyValue)
  | tick (now : Now) (system : SystemTime) (period : Duration)

section Calls
variable {Obj : Type} [BacnetObject Obj]

def ObjectCall.after (o : Obj) : ObjectCall → Obj
  | write now p i v priority => (BacnetObject.writeProperty now o p i v priority).2
  | force now p v => (BacnetObject.forceWriteProperty now o p v).2
  | tick now system period => BacnetObject.tick now o system period

def ObjectCall.TakesOut (accepts : PropertyValue → Option Bool) : ObjectCall → Prop
  | write _ p _ v _ => p = .outOfService ∧ accepts v = some true
  | force _ p v => p = .outOfService ∧ accepts v = some true
  | tick .. => False

/-- The fourth bit of `StatusFlags` is the Boolean of `OutOfService`, whenever they are read. -/
def Mirrors (o : Obj) : Prop :=
  ∀ now i, ∃ flags b, BacnetObject.readProperty now o .statusFlags i = .ok (.bitString flags) ∧
    BacnetObject.readProperty now o .outOfService i = .ok (.boolean b) ∧ flags.bits[3]? = some b

structure ServiceStatus (service : Obj → Bool) (status : Obj → StatusFlags)
    (accepts : PropertyValue → Option Bool) : Prop where
  readsStatus : ∀ {now : Now} {o : Obj} {i : Option UInt32},
    BacnetObject.readProperty now o .statusFlags i = .ok (.bitString (statusFlagsBits (status o)))
  readsService : ∀ {now : Now} {o : Obj} {i : Option UInt32},
    BacnetObject.readProperty now o .outOfService i = .ok (.boolean (service o))
  setsService : ∀ {now : Now} {o : Obj} {i : Option UInt32} {v : PropertyValue} {pri : Option UInt8},
    service (BacnetObject.writeProperty now o .outOfService i v pri).2 =
        (accepts v).getD (service o) ∧
      status (BacnetObject.writeProperty now o .outOfService i v pri).2 = status o
  keeps : ∀ {now : Now} {o : Obj} {p : PropertyIdentifier} {i : Option UInt32} {v : PropertyValue}
    {pri : Option UInt8}, p ≠ .outOfService →
    (service (BacnetObject.writeProperty now o p i v pri).2,
      status (BacnetObject.writeProperty now o p i v pri).2) = (service o, status o)
  ticks : ∀ {now : Now} {o : Obj} {system : SystemTime} {period : Duration},
    BacnetObject.tick now o system period = o
  rules : WriteRules fun o => some (service o)

namespace ServiceStatus
variable {service : Obj → Bool} {status : Obj → StatusFlags}
  {accepts : PropertyValue → Option Bool}

theorem mirrors_iff (fields : ServiceStatus service status accepts) (o : Obj) :
    Mirrors o ↔ (status o).outOfService = service o := by
  constructor
  · intro mirrors
    obtain ⟨flags, b, bits, flag, same⟩ := mirrors ⟨⟨0⟩, ⟨0⟩⟩ none
    rw [fields.readsStatus] at bits
    rw [fields.readsService] at flag
    cases bits
    cases flag
    exact Option.some.inj same
  · intro same now i
    exact ⟨_, _, fields.readsStatus, fields.readsService, congrArg some same⟩

theorem status_write (fields : ServiceStatus service status accepts) (now : Now) (o : Obj)
    (p : PropertyIdentifier) (i : Option UInt32) (v : PropertyValue) (pri : Option UInt8) :
    status (BacnetObject.writeProperty now o p i v pri).2 = status o := by
  by_cases toService : p = .outOfService
  · subst toService
    exact fields.setsService.2
  · exact congrArg Prod.snd (fields.keeps toService)

theorem status_after (fields : ServiceStatus service status accepts) (o : Obj) (c : ObjectCall) :
    status (c.after o) = status o := by
  cases c with
  | write now p i v pri => exact fields.status_write now o p i v pri
  | force now p v => exact forced_keeps (fun o p v => fields.status_write now o p none v none) o p v
  | tick now system period => exact congrArg status fields.ticks

theorem force_service (now : Now) (o : Obj) (v : PropertyValue) :
    (BacnetObject.forceWriteProperty now o .outOfService v).2 =
      (BacnetObject.writeProperty now o .outOfService none v none).2 := by
  unfold BacnetObject.forceWriteProperty
  rcases BacnetObject.writeProperty now o .outOfService none v none with ⟨_ | _, left⟩
  · rfl
  · rfl

theorem taken_out (fields : ServiceStatus service status accepts) (o : Obj) {c : ObjectCall}
    (out : c.TakesOut accepts) : service (c.after o) = true := by
  cases c with
  | write now p i v pri =>
    obtain ⟨rfl, read⟩ := out
    rw [ObjectCall.after, fields.setsService.1, read, Option.getD_some]
  | force now p v =>
    obtain ⟨rfl, read⟩ := out
    rw [ObjectCall.after, force_service, fields.setsService.1, read, Option.getD_some]
  | tick now system period => exact absurd out id

theorem write_stays_in (fields : ServiceStatus service status accepts) {now : Now} {o : Obj}
    {p : PropertyIdentifier} {i : Option UInt32} {v : PropertyValue} {pri : Option UInt8}
    (inService : service o = false) (notOut : ¬ (p = .outOfService ∧ accepts v = some true)) :
    service (BacnetObject.writeProperty now o p i v pri).2 = false := by
  by_cases toService : p = .outOfService
  · subst toService
    rw [fields.setsService.1, inService]
    cases read : accepts v with
    | none => rfl
    | some b =>
      cases b with
      | false => rfl
      | true => exact absurd ⟨rfl, read⟩ notOut
  · exact (congrArg Prod.fst (fields.keeps toService)).trans inService

theorem stays_in (fields : ServiceStatus service status accepts) {o : Obj} {c : ObjectCall}
    (inService : service o = false) (notOut : ¬ c.TakesOut accepts) :
    service (c.after o) = false := by
  cases c with
  | write now p i v pri => exact fields.write_stays_in inService notOut
  | force now p v =>
    by_cases toService : p = .outOfService
    · subst toService
      rw [ObjectCall.after, force_service]
      exact fields.write_stays_in inService notOut
    · have kept := Option.some.inj (forceWriteProperty_keeps now o p v fields.rules toService)
      exact kept.trans inService
  | tick now system period => rw [ObjectCall.after, fields.ticks, inService]

theorem throughout_iff (fields : ServiceStatus service status accepts) {start : Obj}
    (flags : status start = .default) (inService : service start = false) (past : List ObjectCall) :
    Throughout (fun o c => some (ObjectCall.after o c)) start (fun _ o => Mirrors o) past ↔
      ∀ c ∈ past, ¬ c.TakesOut accepts := by
  have cleared : ∀ {done o}, reached (fun o c => some (ObjectCall.after o c)) start done = some o →
      status o = .default := fun run =>
    reached_invariant (I := fun _ o => status o = .default) flags
      (fun held taken => by cases taken; exact (fields.status_after _ _).trans held) run
  have mirrors : ∀ {done o}, reached (fun o c => some (ObjectCall.after o c)) start done = some o →
      (Mirrors o ↔ service o = false) := by
    intro done o run
    rw [fields.mirrors_iff, cleared run]
    exact eq_comm
  rw [← each_iff_of_total]
  apply Transitions.throughout_iff
  · exact (mirrors (rfl : reached _ start [] = some start)).mpr inService
  · intro done before c after run held notOut taken
    have next : reached (fun o c => some (ObjectCall.after o c)) start (c :: done) = some after := by
      rw [reached, run]
      exact taken
    cases taken
    exact (mirrors next).mpr (fields.stays_in ((mirrors run).mp held) notOut)
  · intro done before c after run taken held out
    have next : reached (fun o c => some (ObjectCall.after o c)) start (c :: done) = some after := by
      rw [reached, run]
      exact taken
    cases taken
    have stayed := (mirrors next).mp held
    rw [fields.taken_out before out] at stayed
    cases stayed

end ServiceStatus
end Calls

theorem AnalogInput.serviceStatus :
    ServiceStatus AnalogInput.outOfService AnalogInput.statusFlags asBool where
  readsStatus := rfl
  readsService := rfl
  setsService {now o i v pri} := by
    simp only [BacnetObject.writeProperty, writeProperty]
    cases v.asBool <;> exact ⟨rfl, rfl⟩
  keeps := (written _ _ _ _ _ _).flag_eq
  ticks := rfl
  rules := serviceFlag.writeRules

theorem AnalogOutput.serviceStatus :
    ServiceStatus AnalogOutput.outOfService AnalogOutput.statusFlags asBool where
  readsStatus := rfl
  readsService := rfl
  setsService {now o i v pri} := by
    simp only [BacnetObject.writeProperty, writeProperty]
    cases v.asBool <;> exact ⟨rfl, rfl⟩
  keeps := (written _ _ _ _ _ _).flag_eq
  ticks := rfl
  rules := serviceFlag.writeRules

theorem AnalogValue.serviceStatus :
    ServiceStatus AnalogValue.outOfService AnalogValue.statusFlags boolean? where
  readsStatus := rfl
  readsService := rfl
  setsService {now o i v pri} := by
    simp only [BacnetObject.writeProperty, writeProperty]
    cases v.boolean? <;> exact ⟨rfl, rfl⟩
  keeps := (written _ _ _ _ _ _).flag_eq
  ticks := rfl
  rules := serviceFlag.writeRules

theorem BinaryInput.serviceStatus :
    ServiceStatus BinaryInput.outOfService BinaryInput.statusFlags asBool where
  readsStatus := rfl
  readsService := rfl
  setsService {now o i v pri} := by
    simp only [BacnetObject.writeProperty, writeProperty]
    cases v.asBool <;> exact ⟨rfl, rfl⟩
  keeps := (written _ _ _ _ _ _).flag_eq
  ticks := rfl
  rules := serviceFlag.writeRules

theorem BinaryOutput.serviceStatus :
    ServiceStatus BinaryOutput.outOfService BinaryOutput.statusFlags boolean? where
  readsStatus := rfl
  readsService := rfl
  setsService {now o i v pri} := by
    simp only [BacnetObject.writeProperty, writeProperty]
    cases v.boolean? <;> exact ⟨rfl, rfl⟩
  keeps := (written _ _ _ _ _ _).flag_eq
  ticks := rfl
  rules := serviceFlag.writeRules

theorem BinaryValue.serviceStatus :
    ServiceStatus BinaryValue.outOfService BinaryValue.statusFlags boolean? where
  readsStatus := rfl
  readsService := rfl
  setsService {now o i v pri} := by
    simp only [BacnetObject.writeProperty, writeProperty]
    cases v.boolean? <;> exact ⟨rfl, rfl⟩
  keeps := (written _ _ _ _ _ _).flag_eq
  ticks := rfl
  rules := serviceFlag.writeRules

theorem MultiStateInput.serviceStatus :
    ServiceStatus MultiStateInput.outOfService MultiStateInput.statusFlags boolean? where
  readsStatus := rfl
  readsService := rfl
  setsService {now o i v pri} := by
    simp only [BacnetObject.writeProperty, writeProperty]
    cases v.boolean? <;> exact ⟨rfl, rfl⟩
  keeps := (written _ _ _ _ _ _).flag_eq
  ticks := rfl
  rules := serviceFlag.writeRules

inductive Constructed : (Obj : Type) → BacnetObject Obj → Obj → (PropertyValue → Option Bool) → Prop
  | analogInput (now : Now) (deviceId : DeviceId) (n : UInt32) (name : String)
      (units : EngineeringUnits) :
      Constructed AnalogInput inferInstance (.new now deviceId n name units) asBool
  | analogOutput (now : Now) (deviceId : DeviceId) (n : UInt32) (name : String)
      (units : EngineeringUnits) :
      Constructed AnalogOutput inferInstance (.new now deviceId n name units) asBool
  | analogValue (now : Now) (deviceId : DeviceId) (n : UInt32) (name : String)
      (units : EngineeringUnits) :
      Constructed AnalogValue inferInstance (.new now deviceId n name units) boolean?
  | binaryInput (now : Now) (deviceId : DeviceId) (n : UInt32) (name : String) :
      Constructed BinaryInput inferInstance (.new now deviceId n name) asBool
  | binaryOutput (now : Now) (deviceId : DeviceId) (n : UInt32) (name : String) :
      Constructed BinaryOutput inferInstance (.new now deviceId n name) boolean?
  | binaryValue (now : Now) (deviceId : DeviceId) (n : UInt32) (name : String) :
      Constructed BinaryValue inferInstance (.new now deviceId n name) boolean?
  | multiStateInput (now : Now) (deviceId : DeviceId) (n : UInt32) (name : String)
      (states : UInt32) :
      Constructed MultiStateInput inferInstance (.new now deviceId n name states) boolean?

/-- All along a run from a constructor, the out-of-service bit of `StatusFlags` is the value of
`OutOfService`, exactly when no call of the run writes a `true` to `OutOfService`. -/
theorem mirrors_throughout_iff {Obj : Type} [object : BacnetObject Obj] {start : Obj}
    {accepts : PropertyValue → Option Bool} (made : Constructed Obj object start accepts)
    (past : List ObjectCall) :
    Throughout (fun o c => some (ObjectCall.after o c)) start (fun _ o => Mirrors o) past ↔
      ∀ c ∈ past, ¬ c.TakesOut accepts := by
  cases made with
  | analogInput => exact AnalogInput.serviceStatus.throughout_iff rfl rfl past
  | analogOutput => exact AnalogOutput.serviceStatus.throughout_iff rfl rfl past
  | analogValue => exact AnalogValue.serviceStatus.throughout_iff rfl rfl past
  | binaryInput => exact BinaryInput.serviceStatus.throughout_iff rfl rfl past
  | binaryOutput => exact BinaryOutput.serviceStatus.throughout_iff rfl rfl past
  | binaryValue => exact BinaryValue.serviceStatus.throughout_iff rfl rfl past
  | multiStateInput => exact MultiStateInput.serviceStatus.throughout_iff rfl rfl past

def freshInput : AnalogInput := .new ⟨⟨0⟩, ⟨0⟩⟩ ⟨1⟩ 1 "AI-1" .noUnits

def takeOut : ObjectCall := .write ⟨⟨1⟩, ⟨0⟩⟩ .outOfService none (.boolean true) none

def keepIn : ObjectCall := .write ⟨⟨1⟩, ⟨0⟩⟩ .outOfService none (.boolean false) none

theorem freshInput_mirrors :
    Throughout (fun o c => some (ObjectCall.after o c)) freshInput (fun _ o => Mirrors o) [keepIn] := by
  refine (mirrors_throughout_iff (.analogInput ⟨⟨0⟩, ⟨0⟩⟩ ⟨1⟩ 1 "AI-1" .noUnits) [keepIn]).mpr
    fun c mem out => ?_
  rw [List.mem_singleton.mp mem] at out
  cases out.2

theorem taken_out_not_mirrored : ¬ ∀ (Obj : Type) (object : BacnetObject Obj) (start : Obj)
    (accepts : PropertyValue → Option Bool), Constructed Obj object start accepts →
      ∀ past : List ObjectCall,
        Throughout (fun o c => some (ObjectCall.after o c)) start (fun _ o => Mirrors o) past := by
  intro claim
  have mirrors := claim AnalogInput inferInstance freshInput asBool (.analogInput ..) [takeOut]
    [takeOut] _ (List.suffix_refl _) rfl
  obtain ⟨flags, b, bits, service, same⟩ := mirrors ⟨⟨2⟩, ⟨0⟩⟩ none
  cases bits
  cases service
  cases same

end BacnetSim
