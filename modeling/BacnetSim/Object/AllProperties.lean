import BacnetSim.Object.Object

/-! The two tables of an object: what `read_property` answers, and what `all_properties`
lists. -/
namespace BacnetSim

section Tables
variable {Obj : Type} [BacnetObject Obj]

def listed (o : Obj) : List PropertyIdentifier := (BacnetObject.allProperties o).map Prod.fst

def Readable (now : Now) (o : Obj) (p : PropertyIdentifier) : Prop :=
  ∃ v, BacnetObject.readProperty now o p none = .ok v

/-- The list has no property twice and holds what is read. It has all that is read but
`others`, and the `PropertyList` property. -/
structure Tabulated (now : Now) (o : Obj) (others : List PropertyIdentifier) : Prop where
  nodup : (listed o).Nodup
  reads : ∀ entry ∈ BacnetObject.allProperties o,
    BacnetObject.readProperty now o entry.1 none = .ok entry.2
  covers : ∀ p v, BacnetObject.readProperty now o p none = .ok v →
    p ∈ .propertyList :: (listed o ++ others)
  lacks : ∀ p ∈ others, p ≠ .propertyList ∧ p ∉ listed o ∧ Readable now o p

theorem Tabulated.complete_iff {now : Now} {o : Obj} {others : List PropertyIdentifier}
    (tables : Tabulated now o others) (p : PropertyIdentifier) :
    (p ≠ .propertyList → Readable now o p → p ∈ listed o) ↔ p ∉ others := by
  constructor
  · intro complete missing
    obtain ⟨other, unlisted, readable⟩ := tables.lacks p missing
    exact unlisted (complete other readable)
  · rintro covered other ⟨v, read⟩
    rcases List.mem_cons.mp (tables.covers p v read) with same | mem
    · exact absurd same other
    · exact (List.mem_append.mp mem).resolve_right covered

end Tables

theorem AnalogInput.tabulated (now : Now) (o : AnalogInput) :
    Tabulated now o [] where
  nodup := by
    cases high : o.highLimit <;> cases low : o.lowLimit <;>
      simp [listed, BacnetObject.allProperties, allProperties, high, low]
  reads := by
    cases high : o.highLimit <;> cases low : o.lowLimit <;>
      simp [BacnetObject.allProperties, allProperties, BacnetObject.readProperty, readProperty,
        high, low]
  covers p v read := by
    simp only [BacnetObject.readProperty, readProperty] at read
    split at read
    case h_12 =>
      cases high : o.highLimit with
      | none =>
        rw [high] at read
        cases read
      | some hi => simp [listed, BacnetObject.allProperties, allProperties, high]
    case h_13 =>
      cases low : o.lowLimit with
      | none =>
        rw [low] at read
        cases read
      | some lo => simp [listed, BacnetObject.allProperties, allProperties, low]
    all_goals first | cases read; done | simp [listed, BacnetObject.allProperties, allProperties]
  lacks := nofun

theorem AnalogOutput.tabulated (now : Now) (o : AnalogOutput) :
    Tabulated now o [.statusFlags, .eventState, .priorityArray] where
  nodup := by simp [listed, BacnetObject.allProperties, allProperties]
  reads := by
    simp [BacnetObject.allProperties, allProperties, BacnetObject.readProperty, readProperty]
  covers p v read := by
    simp only [BacnetObject.readProperty, readProperty] at read
    split at read
    all_goals first | cases read; done | simp [listed, BacnetObject.allProperties, allProperties]
  lacks := by
    simp [Readable, listed, BacnetObject.allProperties, allProperties,
      BacnetObject.readProperty, readProperty]

theorem AnalogValue.tabulated (now : Now) (o : AnalogValue) :
    Tabulated now o [] where
  nodup := by simp [listed, BacnetObject.allProperties, allProperties]
  reads := by
    simp [BacnetObject.allProperties, allProperties, BacnetObject.readProperty, readProperty]
  covers p v read := by
    simp only [BacnetObject.readProperty, readProperty] at read
    split at read
    all_goals first | cases read; done | simp [listed, BacnetObject.allProperties, allProperties]
  lacks := nofun

theorem BinaryInput.tabulated (now : Now) (o : BinaryInput) :
    Tabulated now o [.statusFlags, .eventState] where
  nodup := by simp [listed, BacnetObject.allProperties, allProperties]
  reads := by
    simp [BacnetObject.allProperties, allProperties, BacnetObject.readProperty, readProperty]
  covers p v read := by
    simp only [BacnetObject.readProperty, readProperty] at read
    split at read
    all_goals first | cases read; done | simp [listed, BacnetObject.allProperties, allProperties]
  lacks := by
    simp [Readable, listed, BacnetObject.allProperties, allProperties,
      BacnetObject.readProperty, readProperty]

theorem BinaryOutput.tabulated (now : Now) (o : BinaryOutput) :
    Tabulated now o [] where
  nodup := by simp [listed, BacnetObject.allProperties, allProperties]
  reads := by
    simp [BacnetObject.allProperties, allProperties, BacnetObject.readProperty, readProperty]
  covers p v read := by
    simp only [BacnetObject.readProperty, readProperty] at read
    split at read
    all_goals first | cases read; done | simp [listed, BacnetObject.allProperties, allProperties]
  lacks := nofun

theorem BinaryValue.tabulated (now : Now) (o : BinaryValue) :
    Tabulated now o [] where
  nodup := by simp [listed, BacnetObject.allProperties, allProperties]
  reads := by
    simp [BacnetObject.allProperties, allProperties, BacnetObject.readProperty, readProperty]
  covers p v read := by
    simp only [BacnetObject.readProperty, readProperty] at read
    split at read
    all_goals first | cases read; done | simp [listed, BacnetObject.allProperties, allProperties]
  lacks := nofun

theorem MultiStateInput.tabulated (now : Now) (o : MultiStateInput) :
    Tabulated now o [] where
  nodup := by simp [listed, BacnetObject.allProperties, allProperties]
  reads := by
    simp [BacnetObject.allProperties, allProperties, BacnetObject.readProperty, readProperty]
  covers p v read := by
    simp only [BacnetObject.readProperty, readProperty] at read
    split at read
    all_goals first | cases read; done | simp [listed, BacnetObject.allProperties, allProperties]
  lacks := nofun

theorem NotificationClass.tabulated (now : Now) (o : NotificationClass) :
    Tabulated now o [] where
  nodup := by simp [listed, BacnetObject.allProperties, allProperties]
  reads := by
    simp [BacnetObject.allProperties, allProperties, BacnetObject.readProperty, readProperty]
  covers p v read := by
    simp only [BacnetObject.readProperty, readProperty] at read
    split at read
    all_goals first | cases read; done | simp [listed, BacnetObject.allProperties, allProperties]
  lacks := nofun

theorem Schedule.tabulated (now : Now) (o : Schedule) :
    Tabulated now o [] where
  nodup := by simp [listed, BacnetObject.allProperties, allProperties]
  reads := by
    simp [BacnetObject.allProperties, allProperties, BacnetObject.readProperty, readProperty]
  covers p v read := by
    simp only [BacnetObject.readProperty, readProperty] at read
    split at read
    all_goals first | cases read; done | simp [listed, BacnetObject.allProperties, allProperties]
  lacks := nofun

theorem TrendLog.tabulated (now : Now) (o : TrendLog) :
    Tabulated now o [] where
  nodup := by simp [listed, BacnetObject.allProperties, allProperties]
  reads := by
    simp [BacnetObject.allProperties, allProperties, BacnetObject.readProperty, readProperty]
  covers p v read := by
    simp only [BacnetObject.readProperty, readProperty] at read
    split at read
    all_goals first | cases read; done | simp [listed, BacnetObject.allProperties, allProperties]
  lacks := nofun

theorem DeviceObject.tabulated (now : Now) (o : DeviceObject) :
    Tabulated now o [.applicationSoftwareVersion, .localDate, .localTime, .utcOffset,
      .daylightSavingsStatus] where
  nodup := by simp [listed, BacnetObject.allProperties, allProperties]
  reads := by
    simp [BacnetObject.allProperties, allProperties, BacnetObject.readProperty, readProperty,
      readArray]
  covers p v read := by
    simp only [BacnetObject.readProperty, readProperty] at read
    split at read
    all_goals first | cases read; done | simp [listed, BacnetObject.allProperties, allProperties]
  lacks := by
    simp [Readable, listed, BacnetObject.allProperties, allProperties,
      BacnetObject.readProperty, readProperty]

namespace Object

/-- What an object answers to `read_property` and leaves out of `all_properties`. -/
def unlisted : Object → List PropertyIdentifier
  | analogOutput _ => [.statusFlags, .eventState, .priorityArray]
  | binaryInput _ => [.statusFlags, .eventState]
  | device _ =>
    [.applicationSoftwareVersion, .localDate, .localTime, .utcOffset, .daylightSavingsStatus]
  | _ => []

theorem tabulated (now : Now) (o : Object) : Tabulated now o o.unlisted := by
  cases o with
  | analogInput o => exact { o.tabulated now with }
  | analogOutput o => exact { o.tabulated now with }
  | analogValue o => exact { o.tabulated now with }
  | binaryInput o => exact { o.tabulated now with }
  | binaryOutput o => exact { o.tabulated now with }
  | binaryValue o => exact { o.tabulated now with }
  | multiStateInput o => exact { o.tabulated now with }
  | notificationClass o => exact { o.tabulated now with }
  | schedule o => exact { o.tabulated now with }
  | trendLog o => exact { o.tabulated now with }
  | device o => exact { o.tabulated now with }

end Object

theorem allProperties_sound (now : Now) (o : Object) :
    (listed o).Nodup ∧
    ∀ entry ∈ BacnetObject.allProperties o,
      BacnetObject.readProperty now o entry.1 none = .ok entry.2 :=
  ⟨(o.tabulated now).nodup, (o.tabulated now).reads⟩

end BacnetSim
