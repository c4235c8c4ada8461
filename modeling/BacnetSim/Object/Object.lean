import BacnetSim.Object.Binary
import BacnetSim.Object.Device
import BacnetSim.Object.Special

/-! `Box<dyn BacnetObject>` over the object types of the crate. -/
namespace BacnetSim

inductive Object where
  | analogInput (o : AnalogInput)
  | analogOutput (o : AnalogOutput)
  | analogValue (o : AnalogValue)
  | binaryInput (o : BinaryInput)
  | binaryOutput (o : BinaryOutput)
  | binaryValue (o : BinaryValue)
  | multiStateInput (o : MultiStateInput)
  | notificationClass (o : NotificationClass)
  | schedule (o : Schedule)
  | trendLog (o : TrendLog)
  | device (o : DeviceObject)

namespace Object

def query {α : Type} (f : ∀ {Obj : Type} [BacnetObject Obj], Obj → α) : Object → α
  | analogInput o => f o
  | analogOutput o => f o
  | analogValue o => f o
  | binaryInput o => f o
  | binaryOutput o => f o
  | binaryValue o => f o
  | multiStateInput o => f o
  | notificationClass o => f o
  | schedule o => f o
  | trendLog o => f o
  | device o => f o

def update {α : Type} (f : ∀ {Obj : Type} [BacnetObject Obj], Obj → α × Obj) : Object → α × Object
  | analogInput o => (f o).map id analogInput
  | analogOutput o => (f o).map id analogOutput
  | analogValue o => (f o).map id analogValue
  | binaryInput o => (f o).map id binaryInput
  | binaryOutput o => (f o).map id binaryOutput
  | binaryValue o => (f o).map id binaryValue
  | multiStateInput o => (f o).map id multiStateInput
  | notificationClass o => (f o).map id notificationClass
  | schedule o => (f o).map id schedule
  | trendLog o => (f o).map id trendLog
  | device o => (f o).map id device

instance : BacnetObject Object where
  objectId := query BacnetObject.objectId
  deviceId := query BacnetObject.deviceId
  readProperty now o p i := o.query fun o => BacnetObject.readProperty now o p i
  writeProperty now o p i v pri := o.update fun o => BacnetObject.writeProperty now o p i v pri
  tick now o t d := (o.update fun o => ((), BacnetObject.tick now o t d)).2
  changedSince o since := o.query fun o => BacnetObject.changedSince o since
  allProperties := query BacnetObject.allProperties

/-- The present value of an output is commanded, not written. -/
def IsOutput : Object → Prop
  | analogOutput _ | binaryOutput _ => True
  | _ => False

end Object

end BacnetSim
