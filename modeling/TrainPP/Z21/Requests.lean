import TrainPP.Foundations.Words
import TrainPP.Z21.DataSets

/-!
# Requests

What the client sends: the `pack` of every LAN_X command of `lan_x_command.cpp`, section "Client to
Z21", and of the datasets of `z21_dataset.cpp`. A command object is built, packed and dropped, so
each `pack` takes the arguments of the object's constructor.
-/

namespace TrainPP

open Words

/-! ## LAN_X commands -/

def LanXGetVersion.pack : List UInt8 := appendChecksum [0x21, 0x21]

def LanXGetStatus.pack : List UInt8 := appendChecksum [0x21, 0x24]

def LanXSetTrackPowerOff.pack : List UInt8 := appendChecksum [0x21, 0x80]

def LanXSetTrackPowerOn.pack : List UInt8 := appendChecksum [0x21, 0x81]

def LanXDccReadRegister.pack (register : UInt8) : List UInt8 :=
  appendChecksum [0x22, 0x11, register]

def LanXCvRead.pack (cv : UInt16) : List UInt8 :=
  let cvAddress := cv - 1
  appendChecksum [0x23, 0x11, (cvAddress >>> 8).toUInt8, (cvAddress &&& 0xff).toUInt8]

def LanXDccWriteRegister.pack (register value : UInt8) : List UInt8 :=
  appendChecksum [0x23, 0x12, register, value]

def LanXCvWrite.pack (cv : UInt16) (value : UInt8) : List UInt8 :=
  let cvAddress := cv - 1
  appendChecksum [0x24, 0x12, (cvAddress >>> 8).toUInt8, (cvAddress &&& 0xff).toUInt8, value]

/-- A register above 78 packs to nothing. -/
def LanXMmWriteByte.pack (register value : UInt8) : List UInt8 :=
  if register ≤ 78 then appendChecksum [0x24, 0xff, 0x00, register, value] else []

def LanXGetTurnoutInfo.pack (address : UInt16) : List UInt8 :=
  appendChecksum [0x43, (address >>> 8).toUInt8, (address &&& 0xff).toUInt8]

def LanXGetExtAccessoryInfo.pack (address : UInt16) : List UInt8 :=
  appendChecksum [0x44, (address >>> 8).toUInt8, (address &&& 0xff).toUInt8, 0x00]

def LanXSetTurnout.pack (address : UInt16) (value : UInt8) : List UInt8 :=
  appendChecksum [0x53, (address >>> 8).toUInt8, (address &&& 0xff).toUInt8, value]

def LanXSetExtAccessory.pack (address : UInt16) (state : UInt8) : List UInt8 :=
  appendChecksum [0x54, (address >>> 8).toUInt8, (address &&& 0xff).toUInt8, state, 0x00]

def LanXSetStop.pack : List UInt8 := appendChecksum [0x80]

/-- The bytes of a loco address: the two highest bits are masked off. -/
def locoAddressBytes (address : UInt16) : List UInt8 :=
  [((address >>> 8) &&& 0x3f).toUInt8, (address &&& 0xff).toUInt8]

def LanXGetLocoInfo.pack (address : UInt16) : List UInt8 :=
  appendChecksum (0xe3 :: 0xf0 :: locoAddressBytes address)

def LanXSetLocoDrive.pack (address : UInt16) (speed : UInt8) (forward : Bool) : List UInt8 :=
  appendChecksum
    (0xe4 :: 0x12 :: locoAddressBytes address ++ [speed + (if forward then 0x80 else 0)])

def LanXSetLocoFunction.pack (address : UInt16) (function : UInt8) : List UInt8 :=
  appendChecksum (0xe4 :: 0xf8 :: locoAddressBytes address ++ [function])

/-- `FunctionGroup`: an enumeration without a fixed type, whose largest enumerator has 7 bits. -/
abbrev FunctionGroup := Fin 128

/-- The enumerators `GROUP_1` to `GROUP_10`. -/
def FunctionGroup.enumerators : List FunctionGroup :=
  [0x20, 0x21, 0x22, 0x23, 0x28, 0x29, 0x2a, 0x2b, 0x50, 0x51]

/-- A group that is no enumerator packs to nothing. -/
def LanXSetLocoFunctionGroup.pack (address : UInt16) (group : FunctionGroup)
    (functions : UInt8) : List UInt8 :=
  if group ∈ FunctionGroup.enumerators then
    appendChecksum (0xe4 :: UInt8.ofNat group :: locoAddressBytes address ++ [functions])
  else []

/-- Bytes 4 and 5 are taken from the loco address; `binaryAddress` is not packed. -/
def LanXSetLocoBinaryState.pack (address : UInt16) (on : Bool) (_binaryAddress : UInt8) :
    List UInt8 :=
  appendChecksum (0xe5 :: 0x5f :: locoAddressBytes address ++
    [(if on then 0x80 else 0) + (address &&& 0x7f).toUInt8, ((address >>> 7) &&& 0xff).toUInt8])

/-- The option and the CV address of a request to program on the main track. -/
def pomCvBytes (option : UInt8) (cv : UInt16) : List UInt8 :=
  let cvAddress := cv - 1
  [option + ((cvAddress >>> 8) &&& 0x03).toUInt8, (cvAddress &&& 0xff).toUInt8]

/-- The bit of a request to write a single bit. -/
def pomBitByte (bitPosition value : UInt8) : UInt8 :=
  (if value ≠ 0 then 0x08 else 0) + (bitPosition &&& (0x07 : UInt8))

def LanXCvPomWriteByte.pack (address cv : UInt16) (value : UInt8) : List UInt8 :=
  appendChecksum (0xe6 :: 0x30 :: locoAddressBytes address ++ pomCvBytes 0xec cv ++ [value])

def LanXCvPomWriteBit.pack (address cv : UInt16) (bitPosition value : UInt8) : List UInt8 :=
  appendChecksum
    (0xe6 :: 0x30 :: locoAddressBytes address ++ pomCvBytes 0xe8 cv ++
      [pomBitByte bitPosition value])

def LanXCvPomReadByte.pack (address cv : UInt16) : List UInt8 :=
  appendChecksum (0xe6 :: 0x30 :: locoAddressBytes address ++ pomCvBytes 0xe4 cv ++ [0x00])

/-- `PomAccessorySelection`: an enumeration without a fixed type, whose largest enumerator has
4 bits. -/
abbrev PomAccessorySelection := Fin 16

namespace PomAccessorySelection

def wholeDecoder : PomAccessorySelection := 0x00
def specificOutput : PomAccessorySelection := 0x08

end PomAccessorySelection

/-- The address, the selection and the output of an accessory. -/
def pomAccessoryBytes (address : UInt16) (selection : PomAccessorySelection) (output : UInt8) :
    List UInt8 :=
  [((address &&& 0x1ff) >>> 4).toUInt8,
    ((address &&& 0x0f) <<< 4).toUInt8 + UInt8.ofNat selection + (output &&& (0x07 : UInt8))]

def LanXCvPomAccessoryWriteByte.pack (address : UInt16) (selection : PomAccessorySelection)
    (output : UInt8) (cv : UInt16) (value : UInt8) : List UInt8 :=
  appendChecksum
    (0xe6 :: 0x31 :: pomAccessoryBytes address selection output ++ pomCvBytes 0xec cv ++ [value])

def LanXCvPomAccessoryWriteBit.pack (address : UInt16) (selection : PomAccessorySelection)
    (output : UInt8) (cv : UInt16) (bitPosition value : UInt8) : List UInt8 :=
  appendChecksum
    (0xe6 :: 0x31 :: pomAccessoryBytes address selection output ++ pomCvBytes 0xe8 cv ++
      [pomBitByte bitPosition value])

def LanXCvPomAccessoryReadByte.pack (address : UInt16) (selection : PomAccessorySelection)
    (output : UInt8) (cv : UInt16) : List UInt8 :=
  appendChecksum
    (0xe6 :: 0x31 :: pomAccessoryBytes address selection output ++ pomCvBytes 0xe4 cv ++ [0x00])

def LanXGetFirmwareVersion.pack : List UInt8 := appendChecksum [0xf1, 0x0a]

/-! ## Datasets -/

/-- `Z21_DataSet::pack`: the total size, the id and the payload. -/
def Z21DataSet.pack (id : UInt16) (data : List UInt8) : List UInt8 :=
  let size := UInt16.ofNat (4 + data.length)
  [(size &&& 0xff).toUInt8, ((size >>> 8) &&& 0xff).toUInt8,
    (id &&& 0xff).toUInt8, ((id >>> 8) &&& 0xff).toUInt8] ++ data

def LanGetSerialNumber.pack : List UInt8 := Z21DataSet.pack DataSet.lanGetSerialNumber.id []

def LanGetCode.pack : List UInt8 := Z21DataSet.pack DataSet.lanGetCode.id []

def LanGetHWInfo.pack : List UInt8 := Z21DataSet.pack DataSet.lanGetHwinfo.id []

def LanLogoff.pack : List UInt8 := Z21DataSet.pack DataSet.lanLogoff.id []

/-- `LanX(&command).pack()`, for the packed command. -/
def LanX.pack (command : List UInt8) : List UInt8 := Z21DataSet.pack DataSet.lanX.id command

def LanSetBroadcastFlags.packData (flags : UInt32) : List UInt8 :=
  [(flags &&& 0xff).toUInt8, ((flags >>> 8) &&& 0xff).toUInt8,
    ((flags >>> 16) &&& 0xff).toUInt8, ((flags >>> 24) &&& 0xff).toUInt8]

def LanSetBroadcastFlags.pack (flags : UInt32) : List UInt8 :=
  Z21DataSet.pack DataSet.lanSetBroadcastflags.id (LanSetBroadcastFlags.packData flags)

def LanGetBroadcastFlags.pack : List UInt8 := Z21DataSet.pack DataSet.lanGetBroadcastflags.id []

def LanGetLocomode.packData (address : UInt16) : List UInt8 :=
  [((address >>> 8) &&& 0xff).toUInt8, (address &&& 0xff).toUInt8]

def LanGetLocomode.pack (address : UInt16) : List UInt8 :=
  Z21DataSet.pack DataSet.lanGetLocomode.id (LanGetLocomode.packData address)

def LanSetLocomode.packData (address : UInt16) (mode : Locomode) : List UInt8 :=
  [((address >>> 8) &&& 0xff).toUInt8, (address &&& 0xff).toUInt8, mode.value]

def LanSetLocomode.pack (address : UInt16) (mode : Locomode) : List UInt8 :=
  Z21DataSet.pack DataSet.lanSetLocomode.id (LanSetLocomode.packData address mode)

def LanGetTurnoutmode.pack (address : UInt16) : List UInt8 :=
  Z21DataSet.pack DataSet.lanGetTurnoutmode.id (LanGetLocomode.packData address)

def LanSetTurnoutmode.pack (address : UInt16) (mode : Locomode) : List UInt8 :=
  Z21DataSet.pack DataSet.lanSetTurnoutmode.id (LanSetLocomode.packData address mode)

def LanSystemstateGetData.pack : List UInt8 := Z21DataSet.pack DataSet.lanSystemstateGetdata.id []

/-! ## All requests -/

/-- The requests that the client can encode, with the arguments of their constructors. -/
inductive Request
  | getSerialNumber
  | getCode
  | getHWInfo
  | logoff
  | lanXGetVersion
  | lanXGetStatus
  | lanXSetTrackPowerOff
  | lanXSetTrackPowerOn
  | lanXDccReadRegister (register : UInt8)
  | lanXCvRead (cv : UInt16)
  | lanXDccWriteRegister (register value : UInt8)
  | lanXCvWrite (cv : UInt16) (value : UInt8)
  | lanXMmWriteByte (register value : UInt8)
  | lanXGetTurnoutInfo (address : UInt16)
  | lanXGetExtAccessoryInfo (address : UInt16)
  | lanXSetTurnout (address : UInt16) (value : UInt8)
  | lanXSetExtAccessory (address : UInt16) (state : UInt8)
  | lanXSetStop
  | lanXGetLocoInfo (address : UInt16)
  | lanXSetLocoDrive (address : UInt16) (speed : UInt8) (forward : Bool)
  | lanXSetLocoFunction (address : UInt16) (function : UInt8)
  | lanXSetLocoFunctionGroup (address : UInt16) (group : FunctionGroup) (functions : UInt8)
  | lanXSetLocoBinaryState (address : UInt16) (on : Bool) (binaryAddress : UInt8)
  | lanXCvPomWriteByte (address cv : UInt16) (value : UInt8)
  | lanXCvPomWriteBit (address cv : UInt16) (bitPosition value : UInt8)
  | lanXCvPomReadByte (address cv : UInt16)
  | lanXCvPomAccessoryWriteByte (address : UInt16) (selection : PomAccessorySelection)
      (output : UInt8) (cv : UInt16) (value : UInt8)
  | lanXCvPomAccessoryWriteBit (address : UInt16) (selection : PomAccessorySelection)
      (output : UInt8) (cv : UInt16) (bitPosition value : UInt8)
  | lanXCvPomAccessoryReadByte (address : UInt16) (selection : PomAccessorySelection)
      (output : UInt8) (cv : UInt16)
  | lanXGetFirmwareVersion
  | setBroadcastFlags (flags : UInt32)
  | getBroadcastFlags
  | getLocomode (address : UInt16)
  | setLocomode (address : UInt16) (mode : Locomode)
  | getTurnoutmode (address : UInt16)
  | setTurnoutmode (address : UInt16) (mode : Locomode)
  | systemstateGetData
  deriving DecidableEq

/-- The datagram of a request. -/
def Request.pack : Request → List UInt8
  | getSerialNumber => LanGetSerialNumber.pack
  | getCode => LanGetCode.pack
  | getHWInfo => LanGetHWInfo.pack
  | logoff => LanLogoff.pack
  | lanXGetVersion => LanX.pack LanXGetVersion.pack
  | lanXGetStatus => LanX.pack LanXGetStatus.pack
  | lanXSetTrackPowerOff => LanX.pack LanXSetTrackPowerOff.pack
  | lanXSetTrackPowerOn => LanX.pack LanXSetTrackPowerOn.pack
  | lanXDccReadRegister register => LanX.pack (LanXDccReadRegister.pack register)
  | lanXCvRead cv => LanX.pack (LanXCvRead.pack cv)
  | lanXDccWriteRegister register value => LanX.pack (LanXDccWriteRegister.pack register value)
  | lanXCvWrite cv value => LanX.pack (LanXCvWrite.pack cv value)
  | lanXMmWriteByte register value => LanX.pack (LanXMmWriteByte.pack register value)
  | lanXGetTurnoutInfo address => LanX.pack (LanXGetTurnoutInfo.pack address)
  | lanXGetExtAccessoryInfo address => LanX.pack (LanXGetExtAccessoryInfo.pack address)
  | lanXSetTurnout address value => LanX.pack (LanXSetTurnout.pack address value)
  | lanXSetExtAccessory address state => LanX.pack (LanXSetExtAccessory.pack address state)
  | lanXSetStop => LanX.pack LanXSetStop.pack
  | lanXGetLocoInfo address => LanX.pack (LanXGetLocoInfo.pack address)
  | lanXSetLocoDrive address speed forward =>
    LanX.pack (LanXSetLocoDrive.pack address speed forward)
  | lanXSetLocoFunction address function => LanX.pack (LanXSetLocoFunction.pack address function)
  | lanXSetLocoFunctionGroup address group functions =>
    LanX.pack (LanXSetLocoFunctionGroup.pack address group functions)
  | lanXSetLocoBinaryState address on binaryAddress =>
    LanX.pack (LanXSetLocoBinaryState.pack address on binaryAddress)
  | lanXCvPomWriteByte address cv value => LanX.pack (LanXCvPomWriteByte.pack address cv value)
  | lanXCvPomWriteBit address cv bitPosition value =>
    LanX.pack (LanXCvPomWriteBit.pack address cv bitPosition value)
  | lanXCvPomReadByte address cv => LanX.pack (LanXCvPomReadByte.pack address cv)
  | lanXCvPomAccessoryWriteByte address selection output cv value =>
    LanX.pack (LanXCvPomAccessoryWriteByte.pack address selection output cv value)
  | lanXCvPomAccessoryWriteBit address selection output cv bitPosition value =>
    LanX.pack (LanXCvPomAccessoryWriteBit.pack address selection output cv bitPosition value)
  | lanXCvPomAccessoryReadByte address selection output cv =>
    LanX.pack (LanXCvPomAccessoryReadByte.pack address selection output cv)
  | lanXGetFirmwareVersion => LanX.pack LanXGetFirmwareVersion.pack
  | setBroadcastFlags flags => LanSetBroadcastFlags.pack flags
  | getBroadcastFlags => LanGetBroadcastFlags.pack
  | getLocomode address => LanGetLocomode.pack address
  | setLocomode address mode => LanSetLocomode.pack address mode
  | getTurnoutmode address => LanGetTurnoutmode.pack address
  | setTurnoutmode address mode => LanSetTurnoutmode.pack address mode
  | systemstateGetData => LanSystemstateGetData.pack

end TrainPP
