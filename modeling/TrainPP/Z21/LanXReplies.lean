import TrainPP.Foundations.Words
import TrainPP.Z21.LanXCommandBase

/-!
# LAN_X commands from the command station

The command objects of `lan_x_command.h`, section "Z21 to client", that keep what they decoded, and
their `unpack`. The other ten command objects have no fields and the empty `unpack` of
`LanX_Command`; of them only the identifier matters.
-/

namespace TrainPP

open Checked Words

/-! ## LAN_X_TURNOUT_INFO -/

inductive TurnoutStatus
  | unknown
  | notSwitched
  | switchedP0
  | switchedP1
  deriving DecidableEq, Repr

/-- The status in the two lowest bits of a byte. -/
def TurnoutStatus.ofByte (b : UInt8) : TurnoutStatus :=
  if b &&& 0x03 = 0 then notSwitched
  else if b &&& 0x03 = 1 then switchedP0
  else if b &&& 0x03 = 2 then switchedP1
  else unknown

structure LanXTurnoutInfo where
  address : UInt16
  status : TurnoutStatus
  deriving DecidableEq, Repr

def LanXTurnoutInfo.unpack (self : LanXTurnoutInfo) (data : List UInt8) :
    Except Fault LanXTurnoutInfo := do
  let address := be16 (← readAt data 1) (← readAt data 2)
  let status := TurnoutStatus.ofByte (← readAt data 3)
  return { self with address, status }

/-! ## LAN_X_EXT_ACCESSORY_INFO -/

structure LanXExtAccessoryInfo where
  address : UInt16
  state : UInt8
  dataValid : Bool
  deriving DecidableEq, Repr

def LanXExtAccessoryInfo.unpack (self : LanXExtAccessoryInfo) (data : List UInt8) :
    Except Fault LanXExtAccessoryInfo := do
  let address := be16 (← readAt data 1) (← readAt data 2)
  let state ← readAt data 3
  let dataValid := (← readAt data 4) == 0x00
  return { self with address, state, dataValid }

/-! ## LAN_X_CV_RESULT -/

structure LanXCvResult where
  cv : UInt16
  value : UInt8
  deriving DecidableEq, Repr

def LanXCvResult.unpack (self : LanXCvResult) (data : List UInt8) :
    Except Fault LanXCvResult := do
  let cv := be16 (← readAt data 2) (← readAt data 3) + 1
  let value ← readAt data 4
  return { self with cv, value }

/-! ## LAN_X_LOCO_INFO -/

inductive SpeedSteps
  | unknown
  | dcc14
  | dcc28
  | dcc128
  deriving DecidableEq, Repr

/-- The speed steps in the three lowest bits of a byte. -/
def SpeedSteps.ofByte (b : UInt8) : SpeedSteps :=
  if b &&& 0x07 = 0 then dcc14
  else if b &&& 0x07 = 2 then dcc28
  else if b &&& 0x07 = 4 then dcc128
  else unknown

/-- The constructor of the object resizes `functions` to 32 entries, and nothing resizes it
again. -/
structure LanXLocoInfo where
  address : UInt16
  busy : Bool
  speedSteps : SpeedSteps
  directionForward : Bool
  speed : UInt8
  doubleTraction : Bool
  smartSearch : Bool
  functions : Vector Bool 32
  deriving DecidableEq, Repr

/-- The eight entries from `indexStart` on, from the bits of `data`, the lowest first. -/
def readFunctionValues (functions : Vector Bool 32) (indexStart : Fin 25) (data : UInt8) :
    Vector Bool 32 :=
  functions
    |>.set indexStart (flag data 0x01)
    |>.set (indexStart + 1) (flag data 0x02)
    |>.set (indexStart + 2) (flag data 0x04)
    |>.set (indexStart + 3) (flag data 0x08)
    |>.set (indexStart + 4) (flag data 0x10)
    |>.set (indexStart + 5) (flag data 0x20)
    |>.set (indexStart + 6) (flag data 0x40)
    |>.set (indexStart + 7) (flag data 0x80)

/-- The entries 0 to 4, of which the first has the highest bit. -/
def readFirstFunctions (functions : Vector Bool 32) (data : UInt8) : Vector Bool 32 :=
  functions
    |>.set 0 (flag data 0x10)
    |>.set 4 (flag data 0x08)
    |>.set 3 (flag data 0x04)
    |>.set 2 (flag data 0x02)
    |>.set 1 (flag data 0x01)

/-- The entries 29 to 31. -/
def readLastFunctions (functions : Vector Bool 32) (data : UInt8) : Vector Bool 32 :=
  functions
    |>.set 29 (flag data 0x01)
    |>.set 30 (flag data 0x02)
    |>.set 31 (flag data 0x04)

/-- The entries 29 to 31 are overwritten only by a body of more than 10 bytes. -/
def LanXLocoInfo.unpack (self : LanXLocoInfo) (data : List UInt8) :
    Except Fault LanXLocoInfo := do
  let address := be16 ((← readAt data 1) &&& 0x3f) (← readAt data 2)
  let db2 ← readAt data 3
  let db3 ← readAt data 4
  let db4 ← readAt data 5
  let functions := readFirstFunctions self.functions db4
  let functions := readFunctionValues functions 5 (← readAt data 6)
  let functions := readFunctionValues functions 13 (← readAt data 7)
  let functions := readFunctionValues functions 21 (← readAt data 8)
  let functions ←
    if data.length > 10 then do pure (readLastFunctions functions (← readAt data 9))
    else pure functions
  return { self with
    address
    busy := flag db2 0x8
    speedSteps := SpeedSteps.ofByte db2
    directionForward := flag db3 0x80
    speed := db3 &&& 0x7f
    doubleTraction := flag db4 0x40
    smartSearch := flag db4 0x20
    functions }

/-! ## LAN_X_GET_FIRMWARE_VERSION_RESPONSE -/

structure LanXGetFirmwareVersionResponse where
  fwVersion : String
  deriving DecidableEq, Repr

def LanXGetFirmwareVersionResponse.unpack (self : LanXGetFirmwareVersionResponse)
    (data : List UInt8) : Except Fault LanXGetFirmwareVersionResponse := do
  let fwVersion ← decodeBcdVersion (← subrange data 2 4) false
  return { self with fwVersion }

end TrainPP
