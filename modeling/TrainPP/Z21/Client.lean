import TrainPP.Z21.DataSets

/-!
# The client state and its dataset handler

`Z21Status`, the handler objects of `Z21`, and `Z21::handle_dataset`: a received dataset is unpacked
into the handler registered for its id, and what the handler then holds is copied to the status.
-/

namespace TrainPP

open Checked Words

/-! ## Status -/

/-- `Z21FeatureSet`: an enumeration whose values are the bytes. -/
structure Z21FeatureSet where
  value : UInt8
  deriving DecidableEq, Repr

namespace Z21FeatureSet

def unknown : Z21FeatureSet := ⟨0xff⟩

end Z21FeatureSet

structure Z21Id where
  serialNumber : UInt32
  hwType : UInt32
  fwVersion : String
  featureSet : Z21FeatureSet
  deriving DecidableEq, Repr

structure TrackStatus where
  mainCurrent : Int16
  progCurrent : Int16
  filteredMainCurrent : Int16
  supplyVoltage : UInt16
  vccVoltage : UInt16
  deriving DecidableEq, Repr

structure Mode where
  emergencyStop : Bool
  trackVoltageOff : Bool
  shortCirtcuit : Bool
  programmingMode : Bool
  invalidRequest : Bool
  deriving DecidableEq, Repr

structure Z21Status where
  id : Z21Id
  track : TrackStatus
  temperature : Int16
  centralState : UInt8
  centralStateEx : UInt8
  capabilities : UInt8
  mode : Mode
  deriving DecidableEq, Repr

/-- The status of a new client. -/
def Z21Status.initial : Z21Status where
  id := { serialNumber := 0, hwType := 0, fwVersion := "", featureSet := .unknown }
  track := { mainCurrent := 0, progCurrent := 0, filteredMainCurrent := 0, supplyVoltage := 0,
             vccVoltage := 0 }
  temperature := 0
  centralState := 0
  centralStateEx := 0
  capabilities := 0
  mode := { emergencyStop := false, trackVoltageOff := false, shortCirtcuit := false,
            programmingMode := false, invalidRequest := false }

/-! ## The client -/

/-- The handler objects of `Z21::command_handlers`. -/
structure CommandHandlers where
  lanGetSerialNumber : LanGetSerialNumber
  lanGetCode : LanGetCode
  lanGetHWInfo : LanGetHWInfo
  lanGetBroadcastFlags : LanGetBroadcastFlags
  lanGetLocomode : LanGetLocomode
  lanGetTurnoutmode : LanGetLocomode
  lanSystemstateDatachanged : LanSystemstateDatachanged
  lanX : LanX
  deriving DecidableEq, Repr

/-- The part of `Z21` that `handle_dataset` reads and writes. -/
structure Z21 where
  commandHandlers : CommandHandlers
  status : Z21Status
  deriving DecidableEq, Repr

/-- The values that the members without an initializer happen to hold in a new client. -/
structure Uninitialized where
  serialNumber : UInt32
  hwType : UInt32
  turnoutStatus : TurnoutStatus

/-- A new client. -/
def Z21.fresh (u : Uninitialized) : Z21 where
  commandHandlers := {
    lanGetSerialNumber := { serialNumber := u.serialNumber }
    lanGetCode := { code := 0 }
    lanGetHWInfo := { hwType := u.hwType, fwVersion := "" }
    lanGetBroadcastFlags := { flags := 0 }
    lanGetLocomode := { address := 0, mode := .unknown }
    lanGetTurnoutmode := { address := 0, mode := .unknown }
    lanSystemstateDatachanged := {
      mainCurrent := 0, progCurrent := 0, filteredMainCurrent := 0, temperature := 0,
      supplyVoltage := 0, vccVoltage := 0, centralState := 0, centralStateEx := 0,
      capabilities := 0, emergencyStop := false, trackVoltageOff := false,
      shortCirtcuit := false, programmingMode := false }
    lanX := {
      turnoutInfo := { address := 0, status := u.turnoutStatus }
      extAccessoryInfo := { address := 0, state := 0, dataValid := false }
      cvResult := { cv := 0, value := 0 }
      locoInfo := {
        address := 0, busy := false, speedSteps := .unknown, directionForward := false,
        speed := 0, doubleTraction := false, smartSearch := false,
        functions := Vector.replicate 32 false }
      getFirmwareVersionResponse := { fwVersion := "" }
      mCommand := none } }
  status := .initial

/-! ## Handling a dataset -/

/-- The arguments of `handle_dataset`. -/
structure Dataset where
  size : UInt16
  id : UInt16
  data : List UInt8
  deriving DecidableEq, Repr

/-- The ids that the constructor of `Z21` registers handlers for. -/
def registered : List DataSet :=
  [.lanGetSerialNumber, .lanGetCode, .lanGetHwinfo, .lanGetBroadcastflags, .lanGetLocomode,
    .lanGetTurnoutmode, .lanSystemstateDatachanged, .lanX]

/-- The registered handler of an id. -/
def commandHandler? (id : UInt16) : Option DataSet := registered.find? (·.id == id)

namespace Z21

/-- `Z21::handle_lanx_command`. -/
def handleLanxCommand (z : Z21) : LanXCommands → Z21
  | .lanXBcTrackPowerOff => { z with status.mode.trackVoltageOff := true }
  | .lanXBcTrackPowerOn => { z with status.mode.trackVoltageOff := false }
  | .lanXBcProgrammingMode => { z with status.mode.programmingMode := true }
  | .lanXBcTrackShortCircuit => { z with status.mode.shortCirtcuit := true }
  | .lanXUnknownCommand => { z with status.mode.invalidRequest := true }
  | .lanXBcStopped => { z with status.mode.emergencyStop := true }
  | .lanXGetFirmwareVersionResponse =>
    { z with
      status.id.fwVersion := z.commandHandlers.lanX.getFirmwareVersionResponse.fwVersion }
  | .lanXTurnoutInfo => z
  | .lanXExtAccessoryInfo => z
  | .lanXCvNackSc => z
  | .lanXCvNack => z
  | .lanXStatusChanged => z
  | .lanXGetVersionResponse => z
  | .lanXCvResult => z
  | .lanXLocoInfo => z

/-- The part of the `switch` that copies the handler of the system state to the status. -/
def copySystemstate (z : Z21) : Z21 :=
  let ss := z.commandHandlers.lanSystemstateDatachanged
  { z with
    status.track.mainCurrent := ss.mainCurrent
    status.track.progCurrent := ss.progCurrent
    status.track.filteredMainCurrent := ss.filteredMainCurrent
    status.track.supplyVoltage := ss.supplyVoltage
    status.track.vccVoltage := ss.vccVoltage
    status.temperature := ss.temperature
    status.centralState := ss.centralState
    status.centralStateEx := ss.centralStateEx
    status.capabilities := ss.capabilities
    status.mode.emergencyStop := ss.emergencyStop
    status.mode.trackVoltageOff := ss.trackVoltageOff
    status.mode.shortCirtcuit := ss.shortCirtcuit
    status.mode.programmingMode := ss.programmingMode }

/-- `Z21::handle_dataset`. The size only appears in the signature. -/
def handleDataset (z : Z21) (d : Dataset) : Except Fault Z21 := do
  let h := z.commandHandlers
  match commandHandler? d.id with
  | some .lanGetSerialNumber =>
    let handler ← h.lanGetSerialNumber.unpack d.data
    return { z with
      commandHandlers.lanGetSerialNumber := handler
      status.id.serialNumber := handler.serialNumber }
  | some .lanGetCode =>
    let handler ← h.lanGetCode.unpack d.data
    return { z with
      commandHandlers.lanGetCode := handler
      status.id.featureSet := ⟨handler.code⟩ }
  | some .lanGetHwinfo =>
    let handler ← h.lanGetHWInfo.unpack d.data
    return { z with
      commandHandlers.lanGetHWInfo := handler
      status.id.hwType := handler.hwType
      status.id.fwVersion := handler.fwVersion }
  | some .lanX =>
    let handler ← h.lanX.unpack d.data
    let z := { z with commandHandlers.lanX := handler }
    match handler.mCommand with
    | some command => return z.handleLanxCommand command
    | none => return z
  | some .lanGetBroadcastflags =>
    let handler ← h.lanGetBroadcastFlags.unpack d.data
    return { z with commandHandlers.lanGetBroadcastFlags := handler }
  | some .lanGetLocomode =>
    let handler ← h.lanGetLocomode.unpack d.data
    return { z with commandHandlers.lanGetLocomode := handler }
  | some .lanGetTurnoutmode =>
    let handler ← h.lanGetTurnoutmode.unpack d.data
    return { z with commandHandlers.lanGetTurnoutmode := handler }
  | some .lanSystemstateDatachanged =>
    let handler ← h.lanSystemstateDatachanged.unpack d.data
    return { z with commandHandlers.lanSystemstateDatachanged := handler }.copySystemstate
  | _ => return z

end Z21

end TrainPP
