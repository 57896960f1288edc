import TrainPP.Z21.LanXReplies

/-!
# Received datasets

The dataset objects of `z21_dataset.h` that the client registers as handlers, and their `unpack`.
Objects live as long as the client, so what an `unpack` does not overwrite is what an earlier
message left behind.
-/

namespace TrainPP

open Checked Words

/-- `Z21_DataSet::DataSet`. -/
inductive DataSet
  | lanGetSerialNumber
  | lanGetCode
  | lanGetHwinfo
  | lanLogoff
  | lanX
  | lanSetBroadcastflags
  | lanGetBroadcastflags
  | lanGetLocomode
  | lanSetLocomode
  | lanGetTurnoutmode
  | lanSetTurnoutmode
  | lanSystemstateDatachanged
  | lanSystemstateGetdata
  deriving DecidableEq, Repr

def DataSet.id : DataSet → UInt16
  | lanGetSerialNumber => 0x10
  | lanGetCode => 0x18
  | lanGetHwinfo => 0x1a
  | lanLogoff => 0x30
  | lanX => 0x40
  | lanSetBroadcastflags => 0x50
  | lanGetBroadcastflags => 0x51
  | lanGetLocomode => 0x60
  | lanSetLocomode => 0x61
  | lanGetTurnoutmode => 0x70
  | lanSetTurnoutmode => 0x71
  | lanSystemstateDatachanged => 0x84
  | lanSystemstateGetdata => 0x85

/-! ## Handlers of fixed-size datasets -/

structure LanGetSerialNumber where
  serialNumber : UInt32
  deriving DecidableEq, Repr

def LanGetSerialNumber.unpack (self : LanGetSerialNumber) (data : List UInt8) :
    Except Fault LanGetSerialNumber := do
  if data.length = 4 then
    let serialNumber :=
      le32 (← readAt data 0) (← readAt data 1) (← readAt data 2) (← readAt data 3)
    return { self with serialNumber }
  else return self

structure LanGetCode where
  code : UInt8
  deriving DecidableEq, Repr

def LanGetCode.unpack (self : LanGetCode) (data : List UInt8) : Except Fault LanGetCode := do
  if data.length = 1 then
    let code ← readAt data 0
    return { self with code }
  else return self

structure LanGetHWInfo where
  hwType : UInt32
  fwVersion : String
  deriving DecidableEq, Repr

def LanGetHWInfo.unpack (self : LanGetHWInfo) (data : List UInt8) :
    Except Fault LanGetHWInfo := do
  if data.length = 8 then
    let hwType := le32 (← readAt data 0) (← readAt data 1) (← readAt data 2) (← readAt data 3)
    let fwVersion ← decodeBcdVersion (← subrange data 4 8) true
    return { self with hwType, fwVersion }
  else return self

structure LanSystemstateDatachanged where
  mainCurrent : Int16
  progCurrent : Int16
  filteredMainCurrent : Int16
  temperature : Int16
  supplyVoltage : UInt16
  vccVoltage : UInt16
  centralState : UInt8
  centralStateEx : UInt8
  capabilities : UInt8
  emergencyStop : Bool
  trackVoltageOff : Bool
  shortCirtcuit : Bool
  programmingMode : Bool
  deriving DecidableEq, Repr

def LanSystemstateDatachanged.unpack (self : LanSystemstateDatachanged) (data : List UInt8) :
    Except Fault LanSystemstateDatachanged := do
  if data.length = 16 then
    let centralState ← readAt data 12
    return { self with
      mainCurrent := (be16 (← readAt data 1) (← readAt data 0)).toInt16
      progCurrent := (be16 (← readAt data 3) (← readAt data 2)).toInt16
      filteredMainCurrent := (be16 (← readAt data 5) (← readAt data 4)).toInt16
      temperature := (be16 (← readAt data 7) (← readAt data 6)).toInt16
      supplyVoltage := be16 (← readAt data 9) (← readAt data 8)
      vccVoltage := be16 (← readAt data 11) (← readAt data 10)
      centralState
      centralStateEx := ← readAt data 13
      capabilities := ← readAt data 15
      emergencyStop := flag centralState 0x01
      trackVoltageOff := flag centralState 0x02
      shortCirtcuit := flag centralState 0x04
      programmingMode := flag centralState 0x20 }
  else return self

/-! ## Handlers without a test of the size -/

structure LanGetBroadcastFlags where
  flags : UInt32
  deriving DecidableEq, Repr

def LanGetBroadcastFlags.unpack (self : LanGetBroadcastFlags) (data : List UInt8) :
    Except Fault LanGetBroadcastFlags := do
  let flags := le32 (← readAt data 0) (← readAt data 1) (← readAt data 2) (← readAt data 3)
  return { self with flags }

/-- `Locomode`: an enumeration over `uint8_t`, which may hold any byte. -/
structure Locomode where
  value : UInt8
  deriving DecidableEq, Repr

namespace Locomode

def unknown : Locomode := ⟨255⟩

end Locomode

/-- The handler of `LAN_GET_LOCOMODE`, and by inheritance of `LAN_GET_TURNOUTMODE`. -/
structure LanGetLocomode where
  address : UInt16
  mode : Locomode
  deriving DecidableEq, Repr

def LanGetLocomode.unpack (self : LanGetLocomode) (data : List UInt8) :
    Except Fault LanGetLocomode := do
  let address := be16 (← readAt data 0) (← readAt data 1)
  let mode := Locomode.mk (← readAt data 2)
  return { self with address, mode }

/-! ## The handler of LAN_X -/

/-- The command objects with fields, and the command that the last accepted body selected. -/
structure LanX where
  turnoutInfo : LanXTurnoutInfo
  extAccessoryInfo : LanXExtAccessoryInfo
  cvResult : LanXCvResult
  locoInfo : LanXLocoInfo
  getFirmwareVersionResponse : LanXGetFirmwareVersionResponse
  mCommand : Option LanXCommands
  deriving DecidableEq, Repr

namespace LanX

/-- The last byte is the checksum of the bytes before it. -/
def checkChecksum (data : List UInt8) : Except Fault Bool := do
  let last ← back data
  return checksum data.dropLast == last

/-- The inner `switch`, on the byte behind the header `0x61`. -/
def broadcastCommand (db0 : UInt8) : Option LanXCommands :=
  if db0 = 0x00 then some .lanXBcTrackPowerOff
  else if db0 = 0x01 then some .lanXBcTrackPowerOn
  else if db0 = 0x02 then some .lanXBcProgrammingMode
  else if db0 = 0x08 then some .lanXBcTrackShortCircuit
  else if db0 = 0x12 then some .lanXCvNackSc
  else if db0 = 0x13 then some .lanXCvNack
  else if db0 = 0x82 then some .lanXUnknownCommand
  else none

/-- The outer `switch`, on the header. -/
def selectCommand (data : List UInt8) : Except Fault (Option LanXCommands) := do
  let header ← readAt data 0
  if header = 0x43 then pure (some .lanXTurnoutInfo)
  else if header = 0x44 then pure (some .lanXExtAccessoryInfo)
  else if header = 0x61 then do
    let db0 ← readAt data 1
    pure (broadcastCommand db0)
  else if header = 0x62 then pure (some .lanXStatusChanged)
  else if header = 0x63 then pure (some .lanXGetVersionResponse)
  else if header = 0x64 then pure (some .lanXCvResult)
  else if header = 0x81 then pure (some .lanXBcStopped)
  else if header = 0xef then pure (some .lanXLocoInfo)
  else if header = 0xf3 then pure (some .lanXGetFirmwareVersionResponse)
  else pure none

/-- `m_command->unpack(data)`. -/
def unpackCommand (self : LanX) (data : List UInt8) : LanXCommands → Except Fault LanX
  | .lanXTurnoutInfo => do
    let turnoutInfo ← self.turnoutInfo.unpack data
    return { self with turnoutInfo }
  | .lanXExtAccessoryInfo => do
    let extAccessoryInfo ← self.extAccessoryInfo.unpack data
    return { self with extAccessoryInfo }
  | .lanXCvResult => do
    let cvResult ← self.cvResult.unpack data
    return { self with cvResult }
  | .lanXLocoInfo => do
    let locoInfo ← self.locoInfo.unpack data
    return { self with locoInfo }
  | .lanXGetFirmwareVersionResponse => do
    let getFirmwareVersionResponse ← self.getFirmwareVersionResponse.unpack data
    return { self with getFirmwareVersionResponse }
  | _ => return self

/-- A body with a bad checksum is dropped, and leaves `mCommand` as it was. -/
def unpack (self : LanX) (data : List UInt8) : Except Fault LanX := do
  if ← checkChecksum data then
    let command ← selectCommand data
    let self := { self with mCommand := command }
    match command with
    | some c => self.unpackCommand data c
    | none => return self
  else return self

end LanX

end TrainPP
