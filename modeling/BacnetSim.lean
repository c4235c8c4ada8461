import BacnetSim.Codec.Ack
import BacnetSim.Codec.Bvll
import BacnetSim.Codec.Confirmed
import BacnetSim.Codec.Grammar
import BacnetSim.Codec.Mstp
import BacnetSim.Codec.MstpCorruption
import BacnetSim.Codec.Npdu
import BacnetSim.Codec.NpduLayout
import BacnetSim.Codec.PduRoundTrip
import BacnetSim.Codec.Reassembly
import BacnetSim.Codec.RequestSafety
import BacnetSim.Codec.RpmAnswer
import BacnetSim.Codec.RpmGrammar
import BacnetSim.Codec.RpmRequest
import BacnetSim.Codec.Sc
import BacnetSim.Codec.Segmentation
import BacnetSim.Codec.SegmentedRequest
import BacnetSim.Codec.SingleObject
import BacnetSim.Codec.Trailing
import BacnetSim.Codec.Unconfirmed
import BacnetSim.Codec.WriteRequest
import BacnetSim.Encoding.Accepted
import BacnetSim.Encoding.Advance
import BacnetSim.Encoding.Agreement
import BacnetSim.Encoding.Application
import BacnetSim.Encoding.Asn1
import BacnetSim.Encoding.Asn1Decode
import BacnetSim.Encoding.Bits
import BacnetSim.Encoding.ContextUnsigned
import BacnetSim.Encoding.Exact
import BacnetSim.Encoding.Fields
import BacnetSim.Encoding.Flatten
import BacnetSim.Encoding.Framing
import BacnetSim.Encoding.Layout
import BacnetSim.Encoding.RoundTrip
import BacnetSim.Encoding.SelfDelimiting
import BacnetSim.Encoding.Sizes
import BacnetSim.Encoding.Tags
import BacnetSim.Encoding.Unambiguous
import BacnetSim.Engine.Alarm
import BacnetSim.Engine.AlarmRuns
import BacnetSim.Engine.Cov
import BacnetSim.Engine.CovRuns
import BacnetSim.Engine.CovChanges
import BacnetSim.Engine.Driven
import BacnetSim.Engine.Override
import BacnetSim.Engine.Readback
import BacnetSim.Engine.SimEngine
import BacnetSim.Engine.Ticks
import BacnetSim.Engine.Tracking
import BacnetSim.Lib.BigEndian
import BacnetSim.Lib.BoundedLog
import BacnetSim.Lib.ChangeFilter
import BacnetSim.Lib.Crc
import BacnetSim.Lib.DelayGate
import BacnetSim.Lib.Dispatch
import BacnetSim.Lib.Gregorian
import BacnetSim.Lib.HashMap
import BacnetSim.Lib.Ieee754
import BacnetSim.Lib.Loop
import BacnetSim.Lib.PrefixCode
import BacnetSim.Lib.Reader
import BacnetSim.Lib.RealArith
import BacnetSim.Lib.Rust
import BacnetSim.Lib.Sharded
import BacnetSim.Lib.Simulation
import BacnetSim.Lib.Transitions
import BacnetSim.Lib.Utf8
import BacnetSim.Object.Acknowledged
import BacnetSim.Object.AllProperties
import BacnetSim.Object.Analog
import BacnetSim.Object.Binary
import BacnetSim.Object.Calendar
import BacnetSim.Object.Command
import BacnetSim.Object.Device
import BacnetSim.Object.Force
import BacnetSim.Object.Forced
import BacnetSim.Object.Guarded
import BacnetSim.Object.Identity
import BacnetSim.Object.Indexed
import BacnetSim.Object.LogBuffer
import BacnetSim.Object.Object
import BacnetSim.Object.Polling
import BacnetSim.Object.Property
import BacnetSim.Object.Special
import BacnetSim.Object.StatusFlags
import BacnetSim.Object.Store
import BacnetSim.Object.StoreMap
import BacnetSim.Object.WeeklySchedule
import BacnetSim.Sim.Builder
import BacnetSim.Sim.Config
import BacnetSim.Sim.Count
import BacnetSim.Sim.Inventory
import BacnetSim.Sim.Wire
import BacnetSim.Stack.AnswerSize
import BacnetSim.Stack.CommandRange
import BacnetSim.Stack.Discovery
import BacnetSim.Stack.Dispatcher
import BacnetSim.Stack.ErrorCodes
import BacnetSim.Stack.ReadAll
import BacnetSim.Stack.ReadMultiple
import BacnetSim.Stack.Reply
import BacnetSim.Stack.Router
import BacnetSim.Stack.SameObject
import BacnetSim.Stack.Sessions
import BacnetSim.Transport.Ip
import BacnetSim.Transport.MstpRing
import BacnetSim.Transport.MstpRound
import BacnetSim.Transport.MstpToken
import BacnetSim.Transport.ScHub
import BacnetSim.Transport.ScRegistry
import BacnetSim.Transport.ScRouting
import BacnetSim.Types.Basic
import BacnetSim.Types.PropertyId
import BacnetSim.Types.PropertyValue
import BacnetSim.Transport.ScNetwork
import BacnetSim.Engine.Interleaved
import BacnetSim.Engine.Expiry
import BacnetSim.Engine.ScheduleEngine
import BacnetSim.Sim.Listing
import BacnetSim.Sim.Answers
import BacnetSim.Sim.Walk
import BacnetSim.Sim.Lasting
import BacnetSim.Sim.PutBack
import BacnetSim.Engine.AlarmLoop
import BacnetSim.Engine.ValueModels
import BacnetSim.Sim.Changes
