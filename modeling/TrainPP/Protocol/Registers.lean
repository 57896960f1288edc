import TrainPP.Foundations.LastWriter
import TrainPP.Protocol.Messages

/-!
# The client as a bank of registers

Each field of the status that a dataset handler is copied to forms, with the field of the handler, a
mirrored register; everything else that the client keeps is a plain register. `Registers` arranges
the client in this way, and `Z21.registers` and `Registers.toZ21` are inverse to each other.

A message acts on the registers by an `Effect`, which does not depend on the client:
`Message.effect`. Effects are absorbing (`absorbing_apply`), which is why a datagram that is
delivered twice does no more than one that is delivered once.
-/

namespace TrainPP

open LastWriter

/-! ## Registers -/

/-- The values that only a system state brings. -/
structure Measurements where
  mainCurrent : Int16
  progCurrent : Int16
  filteredMainCurrent : Int16
  temperature : Int16
  supplyVoltage : UInt16
  vccVoltage : UInt16
  centralState : UInt8
  centralStateEx : UInt8
  capabilities : UInt8
  deriving DecidableEq

def LanSystemstateDatachanged.measurements (ss : LanSystemstateDatachanged) : Measurements :=
  { ss with }

def Z21Status.measurements (s : Z21Status) : Measurements := { s, s.track with }

/-- The registers of a client. A pair holds what a handler holds and what the status shows. -/
structure Registers where
  serialNumber : UInt32 × UInt32
  code : UInt8 × UInt8
  hwType : UInt32 × UInt32
  fwVersion : String × String
  measurements : Measurements × Measurements
  emergencyStop : Bool × Bool
  trackVoltageOff : Bool × Bool
  shortCirtcuit : Bool × Bool
  programmingMode : Bool × Bool
  invalidRequest : Bool
  broadcastFlags : LanGetBroadcastFlags
  locomode : LanGetLocomode
  turnoutmode : LanGetLocomode
  turnoutInfo : LanXTurnoutInfo
  extAccessoryInfo : LanXExtAccessoryInfo
  cvResult : LanXCvResult
  locoInfo : LanXLocoInfo
  getFirmwareVersionResponse : LanXGetFirmwareVersionResponse
  mCommand : Option LanXCommands

def Z21.registers (z : Z21) : Registers :=
  let h := z.commandHandlers
  let ss := h.lanSystemstateDatachanged
  let s := z.status
  { serialNumber := (h.lanGetSerialNumber.serialNumber, s.id.serialNumber)
    code := (h.lanGetCode.code, s.id.featureSet.value)
    hwType := (h.lanGetHWInfo.hwType, s.id.hwType)
    fwVersion := (h.lanGetHWInfo.fwVersion, s.id.fwVersion)
    measurements := (ss.measurements, s.measurements)
    emergencyStop := (ss.emergencyStop, s.mode.emergencyStop)
    trackVoltageOff := (ss.trackVoltageOff, s.mode.trackVoltageOff)
    shortCirtcuit := (ss.shortCirtcuit, s.mode.shortCirtcuit)
    programmingMode := (ss.programmingMode, s.mode.programmingMode)
    invalidRequest := s.mode.invalidRequest
    broadcastFlags := h.lanGetBroadcastFlags
    locomode := h.lanGetLocomode
    turnoutmode := h.lanGetTurnoutmode
    turnoutInfo := h.lanX.turnoutInfo
    extAccessoryInfo := h.lanX.extAccessoryInfo
    cvResult := h.lanX.cvResult
    locoInfo := h.lanX.locoInfo
    getFirmwareVersionResponse := h.lanX.getFirmwareVersionResponse
    mCommand := h.lanX.mCommand }

namespace Registers

/-- The status that the registers show. -/
def status (r : Registers) : Z21Status where
  id := {
    serialNumber := r.serialNumber.2
    hwType := r.hwType.2
    fwVersion := r.fwVersion.2
    featureSet := ⟨r.code.2⟩ }
  track := { r.measurements.2 with }
  temperature := r.measurements.2.temperature
  centralState := r.measurements.2.centralState
  centralStateEx := r.measurements.2.centralStateEx
  capabilities := r.measurements.2.capabilities
  mode := {
    emergencyStop := r.emergencyStop.2
    trackVoltageOff := r.trackVoltageOff.2
    shortCirtcuit := r.shortCirtcuit.2
    programmingMode := r.programmingMode.2
    invalidRequest := r.invalidRequest }

/-- The handlers that the registers show. -/
def commandHandlers (r : Registers) : CommandHandlers where
  lanGetSerialNumber := { serialNumber := r.serialNumber.1 }
  lanGetCode := { code := r.code.1 }
  lanGetHWInfo := { hwType := r.hwType.1, fwVersion := r.fwVersion.1 }
  lanGetBroadcastFlags := r.broadcastFlags
  lanGetLocomode := r.locomode
  lanGetTurnoutmode := r.turnoutmode
  lanSystemstateDatachanged := { r.measurements.1 with
    emergencyStop := r.emergencyStop.1
    trackVoltageOff := r.trackVoltageOff.1
    shortCirtcuit := r.shortCirtcuit.1
    programmingMode := r.programmingMode.1 }
  lanX := {
    turnoutInfo := r.turnoutInfo
    extAccessoryInfo := r.extAccessoryInfo
    cvResult := r.cvResult
    locoInfo := r.locoInfo
    getFirmwareVersionResponse := r.getFirmwareVersionResponse
    mCommand := r.mCommand }

def toZ21 (r : Registers) : Z21 where
  commandHandlers := r.commandHandlers
  status := r.status

@[simp] theorem registers_toZ21 (r : Registers) : r.toZ21.registers = r := rfl

@[simp] theorem toZ21_registers (z : Z21) : z.registers.toZ21 = z := rfl

end Registers

/-! ## Effects -/

/-- What an input does to each register. -/
structure Effect where
  serialNumber : Move UInt32 := .keep
  code : Move UInt8 := .keep
  hwType : Move UInt32 := .keep
  fwVersion : Move String := .keep
  measurements : Move Measurements := .keep
  emergencyStop : Move Bool := .keep
  trackVoltageOff : Move Bool := .keep
  shortCirtcuit : Move Bool := .keep
  programmingMode : Move Bool := .keep
  invalidRequest : Option Bool := none
  broadcastFlags : Option LanGetBroadcastFlags := none
  locomode : Option LanGetLocomode := none
  turnoutmode : Option LanGetLocomode := none
  turnoutInfo : Option LanXTurnoutInfo := none
  extAccessoryInfo : Option LanXExtAccessoryInfo := none
  cvResult : Option LanXCvResult := none
  locoInfo : Option LocoUpdate := none
  getFirmwareVersionResponse : Option LanXGetFirmwareVersionResponse := none
  mCommand : Option (Option LanXCommands) := none

/-- The object after an update, if there is one. -/
def storeUpdate (u : Option LocoUpdate) (self : LanXLocoInfo) : LanXLocoInfo :=
  u.elim self (·.store self)

def Effect.apply (e : Effect) (r : Registers) : Registers where
  serialNumber := e.serialNumber.apply r.serialNumber
  code := e.code.apply r.code
  hwType := e.hwType.apply r.hwType
  fwVersion := e.fwVersion.apply r.fwVersion
  measurements := e.measurements.apply r.measurements
  emergencyStop := e.emergencyStop.apply r.emergencyStop
  trackVoltageOff := e.trackVoltageOff.apply r.trackVoltageOff
  shortCirtcuit := e.shortCirtcuit.apply r.shortCirtcuit
  programmingMode := e.programmingMode.apply r.programmingMode
  invalidRequest := e.invalidRequest.getD r.invalidRequest
  broadcastFlags := e.broadcastFlags.getD r.broadcastFlags
  locomode := e.locomode.getD r.locomode
  turnoutmode := e.turnoutmode.getD r.turnoutmode
  turnoutInfo := e.turnoutInfo.getD r.turnoutInfo
  extAccessoryInfo := e.extAccessoryInfo.getD r.extAccessoryInfo
  cvResult := e.cvResult.getD r.cvResult
  locoInfo := storeUpdate e.locoInfo r.locoInfo
  getFirmwareVersionResponse := e.getFirmwareVersionResponse.getD r.getFirmwareVersionResponse
  mCommand := e.mCommand.getD r.mCommand

theorem LocoUpdate.store_store_store (u v : LocoUpdate) (self : LanXLocoInfo) :
    u.store (v.store (u.store self)) = u.store (v.store self) := by
  simp only [store, Fin.getElem_fin, Vector.getElem_ofFn, Fin.eta, getD_absorb]

theorem LocoUpdate.store_store (u : LocoUpdate) (self : LanXLocoInfo) :
    u.store (u.store self) = u.store self := by
  simp only [store, Fin.getElem_fin, Vector.getElem_ofFn, Fin.eta, getD_idem]

theorem storeUpdate_absorb (x y : Option LocoUpdate) (self : LanXLocoInfo) :
    storeUpdate x (storeUpdate y (storeUpdate x self)) = storeUpdate x (storeUpdate y self) := by
  cases x with
  | none => rfl
  | some u =>
    cases y with
    | none => exact u.store_store self
    | some v => exact u.store_store_store v self

theorem storeUpdate_idem (x : Option LocoUpdate) (self : LanXLocoInfo) :
    storeUpdate x (storeUpdate x self) = storeUpdate x self := by
  cases x with
  | none => rfl
  | some u => exact u.store_store self

/-- **Effects are absorbing.** -/
theorem absorbing_apply : Absorbing fun (r : Registers) (e : Effect) => e.apply r where
  absorb r x y := by
    simp only [Effect.apply, Move.absorb, getD_absorb, storeUpdate_absorb]
  idem r x := by
    simp only [Effect.apply, Move.idem, getD_idem, storeUpdate_idem]

end TrainPP
