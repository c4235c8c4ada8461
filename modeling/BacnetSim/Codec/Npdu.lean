import BacnetSim.Types.Basic

/-! Network-layer headers (`npdu.rs`). The decoder slices unchecked lengths, so it can panic. -/
namespace BacnetSim
open Rust

structure NpduControl where
  networkMessage : Bool
  destinationSpecifier : Bool
  sourceSpecifier : Bool
  expectingReply : Bool
  priority : UInt8
  deriving DecidableEq, Repr

structure NpduAddress where
  network : UInt16
  mac : Bytes
  deriving DecidableEq, Repr

structure Npdu where
  version : UInt8
  control : NpduControl
  destination : Option NpduAddress
  source : Option NpduAddress
  hopCount : Option UInt8
  apdu : Bytes
  deriving DecidableEq, Repr

namespace Npdu

def encodeLocal (expectingReply : Bool) (apdu : Bytes) : Bytes :=
  [0x01, if expectingReply then 0x04 else 0x00] ++ apdu

def controlOf (ctrlByte : UInt8) : NpduControl where
  networkMessage := ctrlByte &&& 0x80 != 0
  destinationSpecifier := ctrlByte &&& 0x20 != 0
  sourceSpecifier := ctrlByte &&& 0x08 != 0
  expectingReply := ctrlByte &&& 0x04 != 0
  priority := ctrlByte &&& 0x03

def decodeAddress (buf : Bytes) (pos : Nat) (tooShort : String) : Result (NpduAddress × Nat) :=
  if buf.length < pos + 3 then fail (.decodeError tooShort)
  else do
    let hi ← index buf pos
    let lo ← index buf (pos + 1)
    let len ← index buf (pos + 2)
    let mac ← slice buf (pos + 3) (pos + 3 + len.toNat)
    .ok (⟨(hi.toUInt16 <<< 8) ||| lo.toUInt16, mac⟩, pos + 3 + len.toNat)

def decodeOptionalAddress (present : Bool) (buf : Bytes) (pos : Nat) (tooShort : String) :
    Result (Option NpduAddress × Nat) :=
  if present then do
    let (address, pos) ← decodeAddress buf pos tooShort
    .ok (some address, pos)
  else .ok (none, pos)

def decodeHopCount (present : Bool) (buf : Bytes) (pos : Nat) : Result (Option UInt8 × Nat) :=
  if present then
    if buf.length ≤ pos then fail (.decodeError "NPDU too short for hop count")
    else do
      let h ← index buf pos
      .ok (some h, pos + 1)
  else .ok (none, pos)

def decode (buf : Bytes) : Result Npdu :=
  if buf.length < 2 then fail (.decodeError "NPDU too short")
  else do
    let version ← index buf 0
    if version != 0x01 then
      fail (.decodeError s!"unknown NPDU version {hex 2 version}")
    else
      let ctrlByte ← index buf 1
      let control := controlOf ctrlByte
      let (destination, pos) ← decodeOptionalAddress control.destinationSpecifier buf 2
        "NPDU too short for DNET"
      let (source, pos) ← decodeOptionalAddress control.sourceSpecifier buf pos
        "NPDU too short for SNET"
      let (hopCount, pos) ← decodeHopCount control.destinationSpecifier buf pos
      let apdu ← slice buf pos buf.length
      .ok { version, control, destination, source, hopCount, apdu }

theorem encodeLocal_injective {expectingReply : Bool} {apdu apdu' : Bytes}
    (same : encodeLocal expectingReply apdu = encodeLocal expectingReply apdu') : apdu = apdu' :=
  (List.append_inj same rfl).2

theorem decode_encodeLocal (expectingReply : Bool) (apdu : Bytes) :
    decode (encodeLocal expectingReply apdu) =
      .ok
        { version := 1
          control := ⟨false, false, false, expectingReply, 0⟩
          destination := none
          source := none
          hopCount := none
          apdu } := by
  have behind : Cursor (encodeLocal expectingReply apdu) 2 apdu := ⟨_, rfl, rfl⟩
  have rest : (slice (encodeLocal expectingReply apdu) 2 (encodeLocal expectingReply apdu).length :
      Result Bytes) = .ok apdu := behind.sliceRest
  have long : ¬ (encodeLocal expectingReply apdu).length < 2 := by simp [encodeLocal]
  cases expectingReply <;> (rw [decode, if_neg long]; exact congrArg (Except.map _) rest)

end Npdu

end BacnetSim
