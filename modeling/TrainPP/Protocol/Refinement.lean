import TrainPP.Protocol.Registers

/-!
# Handling a dataset is receiving its message

`Z21.receive` is the total function that says what the client does with a message: it applies the
effect of the message to its registers, except that a corrupted LAN_X body makes it run the command
of the last accepted body once more.

* `Z21.toOption_handleDataset`: handling a dataset leaves the payload when the dataset has no
  message, and otherwise receives the message;
* `Z21.handleDataset_ok_iff`: handling a dataset stays inside the payload exactly when the dataset
  is decodable, and whether it is does not depend on the client. An empty LAN_X payload is not: the
  test of its checksum reads the last byte.
-/

namespace TrainPP

open Checked LastWriter

/-! ## The effect of a message -/

/-- A payload is loaded; a rejected one makes the client copy what the handler holds. -/
def LastWriter.Move.ofPayload {α : Type*} : Option α → Move α
  | some a => .load a
  | none => .copy

def LanXMessage.effect : LanXMessage → Effect
  | turnoutInfo info => { turnoutInfo := some info }
  | extAccessoryInfo info => { extAccessoryInfo := some info }
  | bcTrackPowerOff => { trackVoltageOff := .write true }
  | bcTrackPowerOn => { trackVoltageOff := .write false }
  | bcProgrammingMode => { programmingMode := .write true }
  | bcTrackShortCircuit => { shortCirtcuit := .write true }
  | cvNackSc => {}
  | cvNack => {}
  | unknownCommand => { invalidRequest := some true }
  | statusChanged => {}
  | getVersionResponse => {}
  | cvResult result => { cvResult := some result }
  | bcStopped => { emergencyStop := .write true }
  | locoInfo update => { locoInfo := some update }
  | getFirmwareVersionResponse response =>
    { fwVersion := .write response.fwVersion, getFirmwareVersionResponse := some response }
  | unassigned => {}

def Message.effect : Message → Effect
  | serialNumber payload => { serialNumber := .ofPayload (payload.map (·.serialNumber)) }
  | code payload => { code := .ofPayload (payload.map (·.code)) }
  | hwInfo payload =>
    { hwType := .ofPayload (payload.map (·.hwType))
      fwVersion := .ofPayload (payload.map (·.fwVersion)) }
  | broadcastFlags flags => { broadcastFlags := some flags }
  | locomode mode => { locomode := some mode }
  | turnoutmode mode => { turnoutmode := some mode }
  | systemstate payload =>
    { measurements := .ofPayload (payload.map (·.measurements))
      emergencyStop := .ofPayload (payload.map (·.emergencyStop))
      trackVoltageOff := .ofPayload (payload.map (·.trackVoltageOff))
      shortCirtcuit := .ofPayload (payload.map (·.shortCirtcuit))
      programmingMode := .ofPayload (payload.map (·.programmingMode)) }
  | lanX body => { body.effect with mCommand := some body.command }
  | corrupted => {}
  | unknown => {}

/-! ## Receiving a message -/

namespace Z21

/-- The command of the last accepted LAN_X body, run on the client. -/
def runCommand (z : Z21) : Z21 := z.commandHandlers.lanX.mCommand.elim z z.handleLanxCommand

/-- Commands write the status, and not the handlers. -/
theorem handlers_runCommand (z : Z21) : z.runCommand.commandHandlers = z.commandHandlers := by
  rw [runCommand]
  cases z.commandHandlers.lanX.mCommand with
  | none => rfl
  | some c => cases c <;> rfl

def receive (z : Z21) : Message → Z21
  | .corrupted => z.runCommand
  | m => (m.effect.apply z.registers).toZ21

theorem receive_of_ne {m : Message} (h : m ≠ .corrupted) (z : Z21) :
    z.receive m = (m.effect.apply z.registers).toZ21 := by
  cases m with
  | corrupted => exact absurd rfl h
  | _ => rfl

end Z21

/-- The LAN_X handler after an accepted body. -/
def LanX.store (self : LanX) : LanXMessage → LanX
  | .turnoutInfo turnoutInfo => { self with turnoutInfo }
  | .extAccessoryInfo extAccessoryInfo => { self with extAccessoryInfo }
  | .cvResult cvResult => { self with cvResult }
  | .locoInfo update => { self with locoInfo := update.store self.locoInfo }
  | .getFirmwareVersionResponse getFirmwareVersionResponse =>
    { self with getFirmwareVersionResponse }
  | _ => self

theorem LanX.toOption_unpackCommand (self : LanX) (data : List UInt8) (c : LanXCommands) :
    (self.unpackCommand data c).toOption =
      (LanXMessage.ofCommand data c).map self.store := by
  cases c with
  | lanXTurnoutInfo =>
    rw [unpackCommand, toOption_bind, LanXTurnoutInfo.toOption_unpack, LanXMessage.ofCommand]
    cases LanXTurnoutInfo.decode data <;> rfl
  | lanXExtAccessoryInfo =>
    rw [unpackCommand, toOption_bind, LanXExtAccessoryInfo.toOption_unpack, LanXMessage.ofCommand]
    cases LanXExtAccessoryInfo.decode data <;> rfl
  | lanXCvResult =>
    rw [unpackCommand, toOption_bind, LanXCvResult.toOption_unpack, LanXMessage.ofCommand]
    cases LanXCvResult.decode data <;> rfl
  | lanXLocoInfo =>
    rw [unpackCommand, toOption_bind, LanXLocoInfo.toOption_unpack, LanXMessage.ofCommand]
    cases LanXLocoInfo.decode data <;> rfl
  | lanXGetFirmwareVersionResponse =>
    rw [unpackCommand, toOption_bind, LanXGetFirmwareVersionResponse.toOption_unpack,
      LanXMessage.ofCommand]
    cases LanXGetFirmwareVersionResponse.decode data <;> rfl
  | _ => rfl

theorem LanX.toOption_unpack (self : LanX) {data : List UInt8} (h : data ≠ []) :
    (self.unpack data).toOption =
      if Intact data then
        (LanXMessage.decode data).map fun m => ({ self with mCommand := m.command } : LanX).store m
      else some self := by
  rw [unpack, toOption_bind, toOption_checkChecksum h, Option.bind_some, LanXMessage.decode]
  by_cases hi : Intact data
  · rw [if_pos hi, if_pos (by simpa using hi), toOption_bind, Option.map_bind]
    congr 1
    funext command
    cases command with
    | none => rfl
    | some c =>
      show ((unpackCommand _ data c).toOption) = (LanXMessage.ofCommand data c).map _
      rw [toOption_unpackCommand]
      refine Option.map_congr fun m hm => ?_
      rw [LanXMessage.command_of_ofCommand hm]
  · rw [if_neg hi, if_neg (by simpa using hi), toOption_pure]

theorem Z21.runCommand_store (z : Z21) (m : LanXMessage) :
    ({ z with commandHandlers.lanX :=
        ({ z.commandHandlers.lanX with mCommand := m.command } : LanX).store m } : Z21).runCommand =
      z.receive (.lanX m) := by
  cases m <;> rfl

theorem Z21.toOption_handleLanX (z : Z21) (data : List UInt8) :
    ((z.commandHandlers.lanX.unpack data).toOption.map fun handler =>
        ({ z with commandHandlers.lanX := handler } : Z21).runCommand) =
      (LanX.decode data).map z.receive := by
  unfold LanX.decode
  by_cases h : data = []
  · rw [if_pos h, h]
    rfl
  rw [if_neg h, LanX.toOption_unpack _ h]
  by_cases hi : LanX.Intact data
  · rw [if_pos hi, if_pos hi, Option.map_map, Option.map_map]
    congr 1
    funext m
    exact z.runCommand_store m
  · rw [if_neg hi, if_neg hi]
    rfl

/-- **Refinement**: handling a dataset receives its message, and leaves the payload exactly when
there is none. -/
theorem Z21.toOption_handleDataset (z : Z21) (d : Dataset) :
    (z.handleDataset d).toOption = d.message.map z.receive := by
  rw [handleDataset, Dataset.message]
  rcases commandHandler?_cases d.id with ⟨ds, hds, -, hc⟩ | ⟨-, hc⟩
  · rw [hc]
    simp only [registered, List.mem_cons, List.not_mem_nil, or_false] at hds
    rcases hds with rfl | rfl | rfl | rfl | rfl | rfl | rfl | rfl
    · rw [LanGetSerialNumber.unpack_eq]
      cases LanGetSerialNumber.decode d.data <;> rfl
    · rw [LanGetCode.unpack_eq]
      cases LanGetCode.decode d.data <;> rfl
    · rw [toOption_bind, LanGetHWInfo.toOption_unpack]
      rcases LanGetHWInfo.decode d.data with _ | _ | payload <;> rfl
    · rw [toOption_bind, LanGetBroadcastFlags.toOption_unpack]
      cases LanGetBroadcastFlags.decode d.data <;> rfl
    · rw [toOption_bind, LanGetLocomode.toOption_unpack]
      cases LanGetLocomode.decode d.data <;> rfl
    · rw [toOption_bind, LanGetLocomode.toOption_unpack]
      cases LanGetLocomode.decode d.data <;> rfl
    · rw [LanSystemstateDatachanged.unpack_eq]
      cases LanSystemstateDatachanged.decode d.data <;> rfl
    · show _ = (LanX.decode d.data).map z.receive
      rw [← z.toOption_handleLanX, toOption_bind]
      cases (z.commandHandlers.lanX.unpack d.data).toOption with
      | none => rfl
      | some handler =>
        rcases handler with ⟨_, _, _, _, _, _ | command⟩ <;> rfl
  · rw [hc]
    rfl

theorem Z21.handleDataset_eq_ok_iff {z z' : Z21} {d : Dataset} :
    z.handleDataset d = .ok z' ↔ ∃ m, d.message = some m ∧ z.receive m = z' := by
  rw [← toOption_eq_some_iff, toOption_handleDataset, Option.map_eq_some_iff]

theorem Z21.handleDataset_of_message {d : Dataset} {m : Message} (h : d.message = some m)
    (z : Z21) : z.handleDataset d = .ok (z.receive m) :=
  handleDataset_eq_ok_iff.2 ⟨m, h, rfl⟩

/-- Whether handling a dataset stays inside its payload does not depend on the client. -/
theorem Z21.isSome_handleDataset_iff (z : Z21) (d : Dataset) :
    (z.handleDataset d).toOption.isSome ↔ d.Decodable := by
  rw [z.toOption_handleDataset, Option.isSome_map, Dataset.message_isSome_iff]

/-! ## The bounds of the payloads -/

/-- **Decoder bounds**: in every client state, handling a dataset makes no access outside its
payload, and uses no first element of an empty list, exactly when the dataset is decodable. -/
theorem Z21.handleDataset_ok_iff (z : Z21) (d : Dataset) :
    (∃ z', z.handleDataset d = .ok z') ↔ d.Decodable := by
  rw [exists_eq_ok_iff, z.isSome_handleDataset_iff]

theorem Z21.not_handleDataset_emptyLanX :
    ¬ ∃ z', (Z21.fresh { serialNumber := 0, hwType := 0, turnoutStatus := .unknown }).handleDataset
      { size := 4, id := 0x40, data := [] } = .ok z' := by
  rintro ⟨z', h⟩
  cases h

/-- Among the LAN_X bodies, one byte is enough for a body with a bad checksum. -/
example : Dataset.Decodable { size := 5, id := 0x40, data := [0x43] } := by
  decide

end TrainPP
