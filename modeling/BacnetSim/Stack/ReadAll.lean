import BacnetSim.Object.AllProperties
import BacnetSim.Stack.Reply

/-! What a ReadPropertyMultiple that asks for ALL reports of an object. -/
namespace BacnetSim
open Rust

def ReportedByAll (o : Object) (p : PropertyIdentifier) : Prop :=
  ∀ (hash : Hasher) (now : Nat → Now) (store : ObjectStore Object) (deviceId : DeviceId)
    (spec : ReadAccessSpec), store.lookup hash deviceId spec.1 = some o →
    .all ∈ spec.2.map Prod.fst →
    ∃ result v, handleSpec hash now spec store deviceId = .ok result ∧
      ⟨p, none, .ok v⟩ ∈ result.propertyResults

theorem handleSpec_all {Obj : Type} [BacnetObject Obj] (hash : Hasher) (now : Nat → Now)
    {store : ObjectStore Obj} {deviceId : DeviceId} {spec : ReadAccessSpec} {o : Obj}
    (stored : store.lookup hash deviceId spec.1 = some o) (all : .all ∈ spec.2.map Prod.fst) :
    handleSpec hash now spec store deviceId =
      .ok ⟨spec.1, (BacnetObject.allProperties o).map fun (p, v) => ⟨p, none, .ok v⟩⟩ := by
  have asked : spec.2.any (·.1 == .all) = true := by
    obtain ⟨prop, mem, eq⟩ := List.mem_map.mp all
    exact List.any_eq_true.mpr ⟨prop, mem, by rw [eq]; rfl⟩
  simp only [handleSpec, ObjectStore.get_of_lookup hash stored, asked, if_true,
    ObjectRef.allProperties, ObjectStore.object_shardKey hash stored, ok_bind]

theorem reportedByAll_of_listed {o : Object} {p : PropertyIdentifier} (mem : p ∈ listed o) :
    ReportedByAll o p := by
  intro hash now store deviceId spec stored all
  obtain ⟨⟨_, v⟩, entry, rfl⟩ := List.mem_map.mp mem
  exact ⟨_, v, handleSpec_all hash now stored all, List.mem_map.mpr ⟨_, entry, rfl⟩⟩

/-- The tables agree on a property exactly when it is none of those that `all_properties`
leaves out. -/
theorem allProperties_complete_iff (now : Now) (o : Object) (p : PropertyIdentifier) :
    (p ≠ .propertyList → Readable now o p → p ∈ listed o ∧ ReportedByAll o p) ↔
      p ∉ o.unlisted := by
  rw [← (o.tabulated now).complete_iff p]
  constructor
  · intro complete other readable
    exact (complete other readable).1
  · intro complete other readable
    have mem := complete other readable
    exact ⟨mem, reportedByAll_of_listed mem⟩

theorem statusFlags_unlisted :
    ¬ ∀ (now : Now) (o : Object) (p : PropertyIdentifier), p ≠ .propertyList →
      Readable now o p → p ∈ listed o ∧ ReportedByAll o p := by
  intro complete
  let now : Now := ⟨⟨0⟩, ⟨0⟩⟩
  let o : Object := .binaryInput (.new now ⟨1⟩ 1 "alarm")
  have mem := (complete now o .statusFlags (by decide) ⟨_, rfl⟩).1
  revert mem
  decide

end BacnetSim
