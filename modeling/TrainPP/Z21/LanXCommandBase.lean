import TrainPP.Foundations.Checked

/-!
# LAN_X commands: what they share

`lan_x_command_base.h` and `lan_x_command_base.cpp`: the identifiers of the commands that the
command station sends, the version decoder and the checksum of a LAN_X body.
-/

namespace TrainPP

open Checked

/-- The commands that the command station sends to the client. -/
inductive LanXCommands
  | lanXTurnoutInfo
  | lanXExtAccessoryInfo
  | lanXBcTrackPowerOff
  | lanXBcTrackPowerOn
  | lanXBcProgrammingMode
  | lanXBcTrackShortCircuit
  | lanXCvNackSc
  | lanXCvNack
  | lanXUnknownCommand
  | lanXStatusChanged
  | lanXGetVersionResponse
  | lanXCvResult
  | lanXBcStopped
  | lanXLocoInfo
  | lanXGetFirmwareVersionResponse
  deriving DecidableEq, Repr

/-! ## Version strings -/

/-- The decimal value of a BCD byte. -/
def bcdFragment (v : UInt8) : String :=
  let value : UInt8 := (v &&& (0x0f : UInt8)) + (v >>> (4 : UInt8)) * 10
  toString value.toNat

/-- The bytes of `data` in the order in which `decode_bcd_version` visits them. -/
def bcdBytes (data : List UInt8) (littleEndian : Bool) : List UInt8 :=
  List.ofFn fun i : Fin data.length =>
    if littleEndian then data[data.length - i - 1] else data[i]

/-- The version whose components are the non-zero bytes of `data`, joined by dots. The first
component is read without a test that there is one. -/
def decodeBcdVersion (data : List UInt8) (littleEndian : Bool) : Except Fault String := do
  let fragments := ((bcdBytes data littleEndian).filter (· ≠ 0)).map bcdFragment
  let first ← readAt fragments 0
  let rest ← subrange fragments 1 fragments.length
  return rest.foldl (fun a b => a ++ "." ++ b) first

theorem bcdBytes_eq (data : List UInt8) (littleEndian : Bool) :
    bcdBytes data littleEndian = if littleEndian then data.reverse else data := by
  apply List.ext_getElem
  · cases littleEndian <;> simp [bcdBytes]
  · intro i h₁ h₂
    cases littleEndian <;> simp [bcdBytes, List.getElem_reverse]
    congr 1
    omega

/-! ## Checksums -/

/-- The exclusive disjunction of the bytes of `data`. -/
def checksum (data : List UInt8) : UInt8 := data.foldl (fun result c => result ^^^ c) 0

/-- `data` followed by its checksum. -/
def appendChecksum (data : List UInt8) : List UInt8 := data ++ [checksum data]

end TrainPP
