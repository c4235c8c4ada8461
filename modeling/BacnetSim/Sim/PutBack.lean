import BacnetSim.Object.Forced
import BacnetSim.Sim.Listing

/-! The management API against itself: a present value that it shows, put back as it was shown. The
number of a state comes back as a real, which no object with states takes. -/
namespace BacnetSim
open Rust Ieee754 PropertyValue

/-- A number holds what it was made of. -/
class LawfulJsonNumber (N : Type) [JsonNumber N] : Prop where
  ofU32 : ∀ n : UInt32, ∃ f, JsonNumber.asF64 (JsonNumber.ofU32 n : N) = some f
  ofF32 : ∀ v : F32, v.isFinite = true →
    ∃ n : N, JsonNumber.ofF32 v = some n ∧ JsonNumber.asF64 n = some (F64.ofF32 v)
  notFinite : ∀ v : F32, v.isFinite = false → (JsonNumber.ofF32 v : Option N) = none

instance : LawfulJsonNumber SerdeNumber where
  ofU32 n := ⟨_, rfl⟩
  ofF32 v finite := ⟨_, if_pos finite, rfl⟩
  notFinite v infinite := if_neg (by rw [infinite]; decide)

theorem isNan_of_isFinite {v : F32} (finite : v.isFinite = true) : v.isNan = false := by
  rw [F32.isFinite, bne_iff_ne] at finite
  rw [F32.isNan, beq_false_of_ne finite, Bool.false_and]

section Json
variable {N : Type} [JsonNumber N] [LawfulJsonNumber N] {text : ApiText N} {w : PropertyValue}

theorem isFinite_of_shown {v : F32} (value : propertyToJson (.real v) ≠ (.null : Json N)) :
    v.isFinite = true := by
  cases finite : v.isFinite with
  | true => rfl
  | false =>
    rw [propertyToJson, LawfulJsonNumber.notFinite v finite] at value
    exact absurd rfl value

theorem json_real {v : F32} (finite : v.isFinite = true) :
    jsonToPropertyValue text (propertyToJson (.real v)) = .ok (.real v) := by
  obtain ⟨n, number, wide⟩ := LawfulJsonNumber.ofF32 (N := N) v finite
  rw [propertyToJson, number, Json.ofFloat, jsonToPropertyValue, wide]
  exact congrArg (fun f => Except.ok (PropertyValue.real f)) (F32.ofF64_ofF32 (isNan_of_isFinite finite))

theorem json_number (text : ApiText N) (n : UInt32) :
    ∃ f, jsonToPropertyValue text (.number (JsonNumber.ofU32 n)) = .ok (.real f) := by
  obtain ⟨wide, number⟩ := LawfulJsonNumber.ofU32 (N := N) n
  exact ⟨F32.ofF64 wide, by rw [jsonToPropertyValue, number]⟩

end Json

def Object.TakesBack : Object → Prop
  | analogInput _ | analogOutput _ | analogValue _ | binaryValue _ => True
  | _ => False

theorem Object.force_refused {now : Now} {o : Object} {p : PropertyIdentifier} {v : PropertyValue}
    (refused : (BacnetObject.forceWriteProperty now o p v).1 ≠ .ok ()) :
    (BacnetObject.forceWriteProperty now o p v).2 = o := by
  obtain ⟨Obj, _, flag, box, inside, boxes, rules, _, rfl⟩ := o.boxed
  rw [boxes.forceWriteProperty] at refused ⊢
  exact congrArg box (forceWriteProperty_refused now inside p v rules refused)

section Back
variable {N : Type} [JsonNumber N] [LawfulJsonNumber N] {text : ApiText N} {now later : Now} {o : Object}
  {v w : PropertyValue}

theorem Forcible.taken {Obj : Type} [BacnetObject Obj]
    {expected : Obj → PropertyValue → Option PropertyValue} {flag : Obj → Option Bool}
    {box : Obj → Object} (forcible : Forcible expected) (rules : WriteRules flag) (boxes : Boxes box)
    {o : Obj} (value : isNull v = false)
    (same : expected o v = some v)
    (ok : (BacnetObject.forceWriteProperty now (box o) .presentValue v).1 = .ok ()) :
    BacnetObject.readProperty later (BacnetObject.forceWriteProperty now (box o) .presentValue v).2
      .presentValue none = .ok v := by
  obtain ⟨x, converted, read⟩ := forcible.boxed rules boxes later value ok
  rwa [← Option.some.inj (same.symm.trans converted)] at read

theorem AnalogInput.force_real (o : AnalogInput) (f : F32) :
    (BacnetObject.forceWriteProperty now o .presentValue (.real f)).1 = .ok () := by
  cases service : o.outOfService <;>
    simp [BacnetObject.forceWriteProperty, BacnetObject.writeProperty, BacnetObject.readProperty,
      writeProperty, readProperty, assign, asF32, asBool, service]

theorem AnalogOutput.override_effectiveValue (o : AnalogOutput) :
    o.override.getD o.effectiveValue = o.effectiveValue := by
  have split : (o.priorityArray.toList.take 15 ++ o.priorityArray.toList.drop 15).findSome? id =
      o.override.or ((o.priorityArray.toList.drop 15).findSome? id) := List.findSome?_append
  rw [List.take_append_drop] at split
  rw [effectiveValue, split]
  cases o.override <;> rfl

/-- What is put back is taken by an analog object and a binary value, and refused by the others;
either way the present value is read as it was. -/
theorem Object.puts_back (now later : Now) (fixed : ¬ o.IsSchedule)
    (read : ∀ now, BacnetObject.readProperty now o .presentValue none = .ok v)
    (value : propertyToJson v ≠ (.null : Json N))
    (back : jsonToPropertyValue text (propertyToJson v) = .ok w) :
    ((BacnetObject.forceWriteProperty now o .presentValue w).1 = .ok () ↔ o.TakesBack) ∧
      BacnetObject.readProperty later (BacnetObject.forceWriteProperty now o .presentValue w).2
        .presentValue none = .ok v := by
  have refused (other : ¬ o.TakesBack)
      (refused : (BacnetObject.forceWriteProperty now o .presentValue w).1 ≠ .ok ()) :
      ((BacnetObject.forceWriteProperty now o .presentValue w).1 = .ok () ↔ o.TakesBack) ∧
        BacnetObject.readProperty later (BacnetObject.forceWriteProperty now o .presentValue w).2
          .presentValue none = .ok v := by
    rw [Object.force_refused refused]
    exact ⟨iff_of_false refused other, read later⟩
  cases o with
  | analogInput o =>
    cases read now
    cases (json_real (isFinite_of_shown value)).symm.trans back
    have boxes : Boxes Object.analogInput := ⟨rfl, rfl⟩
    have ok : (BacnetObject.forceWriteProperty now (Object.analogInput o) .presentValue
        (.real o.presentValue)).1 = .ok () := by
      rw [boxes.forceWriteProperty]
      exact o.force_real o.presentValue
    exact ⟨iff_of_true ok trivial,
      AnalogInput.forcible.taken AnalogInput.serviceFlag.writeRules boxes rfl rfl ok⟩
  | analogOutput o =>
    cases read now
    cases (json_real (isFinite_of_shown value)).symm.trans back
    have same := congrArg (fun f => some (PropertyValue.real f)) o.override_effectiveValue
    exact ⟨iff_of_true rfl trivial,
      AnalogOutput.forcible.taken AnalogOutput.serviceFlag.writeRules ⟨rfl, rfl⟩ rfl same rfl⟩
  | analogValue o =>
    cases read now
    cases (json_real (isFinite_of_shown value)).symm.trans back
    exact ⟨iff_of_true rfl trivial,
      AnalogValue.forcible.taken AnalogValue.serviceFlag.writeRules ⟨rfl, rfl⟩ rfl rfl rfl⟩
  | binaryInput o =>
    cases read now
    obtain ⟨f, number⟩ := json_number text (boolCode o.presentValue)
    cases number.symm.trans back
    refine refused id (forced_refused BinaryInput.serviceFlag.writeRules ⟨rfl, rfl⟩ (fun o => ?_) o)
    cases service : o.outOfService <;>
      simp [BacnetObject.writeProperty, BinaryInput.writeProperty, assign, asBool, service]
  | binaryOutput o =>
    cases read now
    obtain ⟨f, number⟩ := json_number text (boolCode o.effectiveValue)
    cases number.symm.trans back
    refine refused id (forced_refused BinaryOutput.serviceFlag.writeRules ⟨rfl, rfl⟩ (fun o => ?_) o)
    simp [BacnetObject.writeProperty, BinaryOutput.writeProperty, assign, BinaryOutput.slotOf]
  | binaryValue o =>
    cases read now
    cases back
    exact ⟨iff_of_true rfl trivial,
      BinaryValue.forcible.taken BinaryValue.serviceFlag.writeRules ⟨rfl, rfl⟩ rfl rfl rfl⟩
  | multiStateInput o =>
    cases read now
    obtain ⟨f, number⟩ := json_number text o.presentValue
    cases number.symm.trans back
    refine refused id (forced_refused MultiStateInput.serviceFlag.writeRules ⟨rfl, rfl⟩ (fun o => ?_) o)
    cases service : o.outOfService <;>
      simp [BacnetObject.writeProperty, MultiStateInput.writeProperty, service]
  | notificationClass o => cases read now
  | schedule o => exact absurd trivial fixed
  | trendLog o => cases read now
  | device o => cases read now

theorem Object.comes_back (text : ApiText N) (fixed : ¬ o.IsSchedule)
    (read : BacnetObject.readProperty now o .presentValue none = .ok v)
    (value : propertyToJson v ≠ (.null : Json N)) :
    ∃ w, jsonToPropertyValue text (propertyToJson v) = .ok w := by
  cases o with
  | analogInput o | analogOutput o | analogValue o =>
    cases read
    exact ⟨_, json_real (isFinite_of_shown value)⟩
  | binaryInput o | binaryOutput o | multiStateInput o =>
    cases read
    obtain ⟨f, number⟩ := json_number text _
    exact ⟨_, number⟩
  | binaryValue o =>
    cases read
    exact ⟨_, rfl⟩
  | schedule o => exact absurd trivial fixed
  | notificationClass o | trendLog o | device o => cases read

end Back

theorem debugName_presentValue {p : PropertyIdentifier}
    (same : p.debugName = PropertyIdentifier.presentValue.debugName) : p = .presentValue := by
  cases p with
  | unknown v => exact absurd same (debugName_unknown v (by decide))
  | presentValue => rfl
  | _ =>
    revert same
    decide +kernel

theorem Object.listed_iff {o : Object} {v : PropertyValue} (now : Now) :
    (.presentValue, v) ∈ BacnetObject.allProperties o ↔
      BacnetObject.readProperty now o .presentValue none = .ok v := by
  have tables := o.tabulated now
  refine ⟨tables.reads (.presentValue, v), fun read => ?_⟩
  have other : PropertyIdentifier.presentValue ∉ o.unlisted := by cases o <;> simp [unlisted]
  have covered := tables.covers .presentValue v read
  have listed : .presentValue ∈ listed o :=
    (List.mem_append.mp ((List.mem_cons.mp covered).resolve_left nofun)).resolve_right other
  obtain ⟨⟨_, value⟩, mem, rfl⟩ := List.mem_map.mp listed
  cases (tables.reads _ mem).symm.trans read
  exact mem

namespace Rest
variable {N : Type} [JsonNumber N] {hash : Hasher} {text : ApiText N} {now : Now} {api : AppState Object}
  {devId inst : UInt32} {objType prop : String} {t : ObjectType} {o : Object}

theorem shown_presentValue {j : Json N} (o : Object) (now : Now) :
    AList.lookup PropertyIdentifier.presentValue.debugName ((BacnetObject.allProperties o).foldl shown ∅) =
      some j ↔ ∃ v, BacnetObject.readProperty now o .presentValue none = .ok v ∧ propertyToJson v = j := by
  have own : ∀ q : PropertyIdentifier,
      q.debugName = PropertyIdentifier.presentValue.debugName → q = .presentValue :=
    fun _ => debugName_presentValue
  constructor
  · intro found
    by_cases listed : .presentValue ∈ listed o
    · obtain ⟨⟨_, v⟩, mem, rfl⟩ := List.mem_map.mp listed
      rw [lookup_shown (o.tabulated now).nodup mem own] at found
      exact ⟨v, (Object.listed_iff now).mp mem, Option.some.inj found⟩
    · rw [lookup_unlisted listed own] at found
      cases found
  · rintro ⟨v, read, rfl⟩
    exact lookup_shown (o.tabulated now).nodup ((Object.listed_iff now).mpr read) own ∅

theorem writeProperty_found {value : Json N} {p : PropertyIdentifier} {w : PropertyValue}
    (path : parseObjectType text.lowercase objType = .ok t)
    (named : parsePropertyId text.lowercase prop = .ok p)
    (found : api.store.lookup hash ⟨devId⟩ ⟨t, inst⟩ = some o)
    (json : jsonToPropertyValue text value = .ok w) :
    api.writeProperty hash now text devId objType inst prop value =
      ((BacnetObject.forceWriteProperty now o p w).1.mapError fun e =>
          .err ⟨.badRequest, text.debugError e⟩,
        { api with
          store := (shardKey hash ⟨devId⟩ ⟨t, inst⟩).put api.store
            (BacnetObject.forceWriteProperty now o p w).2 }) := by
  have there := ObjectStore.object_shardKey hash found
  have present := ObjectStore.get_of_lookup hash found
  simp only [AppState.writeProperty, path, named, ok_bind, present, okOr_some, json,
    ObjectRef.forceWriteProperty, there]
  cases (BacnetObject.forceWriteProperty now o p w).1 <;> rfl

/-- What a request to put a value back does to the object at `r`: it is taken, or refused without
any effect, and no other object changes. -/
structure PutBack (takes : Prop) (before : AppState Object) (r : ObjectRef)
    (put : Res ApiError Unit × AppState Object) : Prop where
  taken : put.1 = .ok () ↔ takes
  refused : ¬ takes → (∃ message, put.1 = fail ⟨.badRequest, message⟩) ∧ put.2.store.at = before.store.at
  others : ∀ r', r' ≠ r → put.2.store.at r' = before.store.at r'

variable [LawfulJsonNumber N] {detail : ObjectDetail N} {j : Json N}

/-- A present value that `GET` shows can be put back, and is shown again, for analog objects and
binary values. The other objects, a schedule apart, refuse what they showed themselves, and are left
as they were. -/
theorem put_back (now : Now) (named : parsePropertyId text.lowercase prop = .ok .presentValue)
    (got : api.getObject hash text devId objType inst = .ok detail)
    (shows_ : AList.lookup PropertyIdentifier.presentValue.debugName detail.properties = some j)
    (value : j ≠ .null) :
    ∃ t o, parseObjectType text.lowercase objType = .ok t ∧
      api.store.lookup hash ⟨devId⟩ ⟨t, inst⟩ = some o ∧
      (¬ o.IsSchedule →
        PutBack o.TakesBack api (shardKey hash ⟨devId⟩ ⟨t, inst⟩)
          (api.writeProperty hash now text devId objType inst prop j) ∧
        ∃ again, (api.writeProperty hash now text devId objType inst prop j).2.getObject hash text devId
            objType inst = .ok again ∧
          AList.lookup PropertyIdentifier.presentValue.debugName again.properties = some j) := by
  obtain ⟨t, path, _⟩ := bind_eq_ok got
  cases found : api.store.lookup hash ⟨devId⟩ ⟨t, inst⟩ with
  | none =>
    rw [getObject_absent hash path found] at got
    cases got
  | some o =>
    refine ⟨t, o, path, found, fun fixed => ?_⟩
    rw [getObject_found hash path found] at got
    cases got
    obtain ⟨v, read, rfl⟩ := (shown_presentValue o now).mp shows_
    have reads (later : Now) : BacnetObject.readProperty later o .presentValue none = .ok v :=
      (Object.listed_iff later).mp ((Object.listed_iff now).mpr read)
    obtain ⟨w, back⟩ := Object.comes_back text fixed read value
    obtain ⟨taken, kept⟩ := Object.puts_back now now fixed reads value back
    rw [writeProperty_found path named found back]
    refine ⟨⟨?_, fun other => ?_, fun r' away => ?_⟩, _, getObject_found hash path ?_,
      (shown_presentValue _ now).mpr ⟨v, kept, rfl⟩⟩
    · rw [← taken]
      cases (BacnetObject.forceWriteProperty now o .presentValue w).1 with
      | ok u => exact iff_of_true rfl rfl
      | error e => exact iff_of_false nofun nofun
    · have refused := fun ok => other (taken.mp ok)
      rw [Object.force_refused refused]
      constructor
      · cases failed : (BacnetObject.forceWriteProperty now o .presentValue w).1 with
        | ok u => exact absurd failed refused
        | error e => exact ⟨_, rfl⟩
      · rw [ScheduleEngine.at_put]
        exact Function.update_eq_self_iff.mpr found.symm
    · rw [ScheduleEngine.at_put, Function.update_of_ne away]
    · rw [ObjectStore.lookup_put, if_pos rfl]

open Simulator

def lobbyInput : Object := .analogInput (.new midnight ⟨2⟩ 1 "AI-1" .degreesCelsius)

def lobby : AppState Object := .new (ObjectStore.new.insert (fun _ _ => 0) ⟨2⟩ lobbyInput)

theorem lobby_found : lobby.store.lookup (fun _ _ => 0) ⟨2⟩ ⟨.analogInput, 1⟩ = some lobbyInput := by
  rw [lobby, AppState.new, ObjectStore.insert_eq_put, ObjectStore.lookup_put]
  exact if_pos rfl

theorem lobby_put_back : ∃ again : ObjectDetail SerdeNumber,
    (lobby.writeProperty (fun _ _ => 0) midnight serdeText 2 "analog-input" 1 "Present_Value"
      (.number (.float ⟨0⟩))).2.getObject (fun _ _ => 0) serdeText 2 "analog-input" 1 = .ok again ∧
    AList.lookup PropertyIdentifier.presentValue.debugName again.properties =
      some (.number (.float ⟨0⟩)) := by
  have path : parseObjectType serdeText.lowercase "analog-input" = .ok .analogInput := by decide +kernel
  have named : parsePropertyId serdeText.lowercase "Present_Value" = .ok .presentValue := by decide +kernel
  have got := getObject_found (fun _ _ => 0) path lobby_found
  obtain ⟨t, o, path', found, kept⟩ := put_back midnight named got
    ((shown_presentValue lobbyInput midnight).mpr ⟨.real ⟨0⟩, rfl, rfl⟩) nofun
  cases path.symm.trans path'
  cases lobby_found.symm.trans found
  exact (kept id).2

end Rest

end BacnetSim
