import BacnetSim.Types.PropertyValue

/-! The interface of an object (`property.rs`). Clock readings are arguments. -/
namespace BacnetSim

structure Instant where
  nanos : Nat
  deriving DecidableEq, Repr

structure SystemTime where
  nanos : Int
  deriving DecidableEq, Repr

structure Duration where
  nanos : Nat
  deriving DecidableEq, Repr

namespace Duration

def fromSecs (secs : Nat) : Duration := ⟨secs * 1000000000⟩

def asSecs (d : Duration) : Nat := d.nanos / 1000000000

end Duration

/-- Zero where `earlier` is the later one. -/
def Instant.durationSince (t earlier : Instant) : Duration := ⟨t.nanos - earlier.nanos⟩

/-- `t.duration_since(UNIX_EPOCH).unwrap_or_default().as_secs()`. -/
def SystemTime.unixSecs (t : SystemTime) : Nat := t.nanos.toNat / 1000000000

/-- What `Instant::now()` and `SystemTime::now()` return during a call. -/
structure Now where
  instant : Instant
  system : SystemTime
  deriving DecidableEq, Repr

abbrev PropertyList := List (PropertyIdentifier × PropertyValue)

/-- The trait every object implements. A method that takes `&mut self` returns the
object it leaves. -/
class BacnetObject (Obj : Type) where
  objectId : Obj → ObjectId
  deviceId : Obj → DeviceId
  readProperty : Now → Obj → PropertyIdentifier → Option UInt32 → Except BacnetError PropertyValue
  writeProperty : Now → Obj → PropertyIdentifier → Option UInt32 → PropertyValue → Option UInt8 →
    Except BacnetError Unit × Obj
  tick : Now → Obj → SystemTime → Duration → Obj
  changedSince : Obj → Instant → List PropertyIdentifier
  allProperties : Obj → PropertyList

namespace BacnetObject
variable {Obj : Type} [BacnetObject Obj]

/-- The trait's default body, which no object overrides. -/
def forceWriteProperty (now : Now) (o : Obj) (propertyId : PropertyIdentifier)
    (value : PropertyValue) : Except BacnetError Unit × Obj :=
  match writeProperty now o propertyId none value none with
  | (.ok (), o) => (.ok (), o)
  | (.error _, o) =>
    if propertyId = .presentValue then
      let wasOos := match readProperty now o .outOfService none with
        | .ok (.boolean true) => true
        | _ => false
      if !wasOos then
        let (_, o) := writeProperty now o .outOfService none (.boolean true) none
        let (result, o) := writeProperty now o propertyId none value none
        let (_, o) := writeProperty now o .outOfService none (.boolean false) none
        (result, o)
      else (.error .writeAccessDenied, o)
    else (.error .writeAccessDenied, o)

end BacnetObject

def statusFlagsBits (sf : StatusFlags) : BitString :=
  ⟨[sf.inAlarm, sf.fault, sf.overridden, sf.outOfService]⟩

/-- `value.as_bool().ok_or(InvalidDataType)?` and the like: on failure `self` is as it was. -/
def assign {α Obj : Type} (o : Obj) (v : Option α) (set : α → Obj) : Except BacnetError Unit × Obj :=
  match v with
  | some v => (.ok (), set v)
  | none => (.error .invalidDataType, o)

section Assign
variable {α β Obj : Type} {o : Obj} {v : Option α} {set : α → Obj}

theorem assign_ok (ok : (assign o v set).1 = .ok ()) :
    ∃ a, v = some a ∧ (assign o v set).2 = set a := by
  cases v with
  | none => cases ok
  | some a => exact ⟨a, rfl, rfl⟩

theorem assign_refused (refused : (assign o v set).1 ≠ .ok ()) : (assign o v set).2 = o := by
  cases v with
  | none => rfl
  | some a => exact absurd rfl refused

theorem assign_refused_iff : (assign o v set).1 ≠ .ok () ↔ v = none := by
  cases v with
  | none => exact iff_of_true nofun rfl
  | some a => exact iff_of_false (fun refused => refused rfl) nofun

theorem assign_keeps {f : Obj → β} (keeps : ∀ a, f (set a) = f o) : f (assign o v set).2 = f o := by
  cases v with
  | none => rfl
  | some a => exact keeps a

end Assign

namespace PropertyValue

-- `if let PropertyValue::X(v) = value`

def boolean? : PropertyValue → Option Bool
  | boolean v => some v
  | _ => none

def unsigned? : PropertyValue → Option UInt32
  | unsigned v => some v
  | _ => none

def real? : PropertyValue → Option Ieee754.F32
  | real v => some v
  | _ => none

def characterString? : PropertyValue → Option String
  | characterString s => some s
  | _ => none

end PropertyValue

end BacnetSim
