import TrainPP.Properties.Replays

/-!
# The handler objects are what the last datasets told them

`HandlerReport` is what a dataset tells the handler objects of the client. A dataset that is dropped
tells them nothing, and a body of `LAN_X_LOCO_INFO` tells nothing of the functions that its length
does not reach.

* `Z21.commandHandlers_runAll`: after every run, each field of each handler object is what the last
  dataset that told something of it told, and what it was before if none did. So a function of a
  loco may come from the body of another loco.
-/

namespace TrainPP

open Checked LastWriter Runs

/-! ## Reports -/

/-- What a dataset tells the handler objects. -/
structure HandlerReport where
  serialNumber : Option LanGetSerialNumber := none
  code : Option LanGetCode := none
  hwInfo : Option LanGetHWInfo := none
  broadcastFlags : Option LanGetBroadcastFlags := none
  locomode : Option LanGetLocomode := none
  turnoutmode : Option LanGetLocomode := none
  systemstate : Option LanSystemstateDatachanged := none
  turnoutInfo : Option LanXTurnoutInfo := none
  extAccessoryInfo : Option LanXExtAccessoryInfo := none
  cvResult : Option LanXCvResult := none
  locoInfo : Option LocoUpdate := none
  getFirmwareVersionResponse : Option LanXGetFirmwareVersionResponse := none
  mCommand : Option (Option LanXCommands) := none

def LanXMessage.handlerReport : LanXMessage → HandlerReport
  | turnoutInfo info => { turnoutInfo := some info }
  | extAccessoryInfo info => { extAccessoryInfo := some info }
  | cvResult result => { cvResult := some result }
  | locoInfo update => { locoInfo := some update }
  | getFirmwareVersionResponse response => { getFirmwareVersionResponse := some response }
  | _ => {}

def Message.handlerReport : Message → HandlerReport
  | serialNumber payload => { serialNumber := payload }
  | code payload => { code := payload }
  | hwInfo payload => { hwInfo := payload }
  | broadcastFlags flags => { broadcastFlags := some flags }
  | locomode mode => { locomode := some mode }
  | turnoutmode mode => { turnoutmode := some mode }
  | systemstate payload => { systemstate := payload }
  | lanX body => { body.handlerReport with mCommand := some body.command }
  | corrupted => {}
  | unknown => {}

def Dataset.handlerReport (d : Dataset) : HandlerReport := d.message.elim {} Message.handlerReport

/-- What a report tells of a function of a loco. -/
def HandlerReport.function (r : HandlerReport) (i : Fin 32) : Option Bool :=
  r.locoInfo.bind (·.functions i)

theorem LanXLocoInfo.ofFn_function (self : LanXLocoInfo) :
    Vector.ofFn self.function = self.functions :=
  Vector.ext fun _ hi => Vector.getElem_ofFn hi

namespace CommandHandlers

/-- The handler objects after a report. -/
def update (h : CommandHandlers) (r : HandlerReport) : CommandHandlers where
  lanGetSerialNumber := r.serialNumber.getD h.lanGetSerialNumber
  lanGetCode := r.code.getD h.lanGetCode
  lanGetHWInfo := r.hwInfo.getD h.lanGetHWInfo
  lanGetBroadcastFlags := r.broadcastFlags.getD h.lanGetBroadcastFlags
  lanGetLocomode := r.locomode.getD h.lanGetLocomode
  lanGetTurnoutmode := r.turnoutmode.getD h.lanGetTurnoutmode
  lanSystemstateDatachanged := r.systemstate.getD h.lanSystemstateDatachanged
  lanX := {
    turnoutInfo := r.turnoutInfo.getD h.lanX.turnoutInfo
    extAccessoryInfo := r.extAccessoryInfo.getD h.lanX.extAccessoryInfo
    cvResult := r.cvResult.getD h.lanX.cvResult
    locoInfo := {
      address := (r.locoInfo.map (·.address)).getD h.lanX.locoInfo.address
      busy := (r.locoInfo.map (·.busy)).getD h.lanX.locoInfo.busy
      speedSteps := (r.locoInfo.map (·.speedSteps)).getD h.lanX.locoInfo.speedSteps
      directionForward :=
        (r.locoInfo.map (·.directionForward)).getD h.lanX.locoInfo.directionForward
      speed := (r.locoInfo.map (·.speed)).getD h.lanX.locoInfo.speed
      doubleTraction := (r.locoInfo.map (·.doubleTraction)).getD h.lanX.locoInfo.doubleTraction
      smartSearch := (r.locoInfo.map (·.smartSearch)).getD h.lanX.locoInfo.smartSearch
      functions := Vector.ofFn fun i => (r.function i).getD (h.lanX.locoInfo.function i) }
    getFirmwareVersionResponse :=
      r.getFirmwareVersionResponse.getD h.lanX.getFirmwareVersionResponse
    mCommand := r.mCommand.getD h.lanX.mCommand }

/-- The handler objects in which every field is what the last dataset that told something of it
told, and what it is in `h` when none did. -/
def lastTold (h : CommandHandlers) (ds : List Dataset) : CommandHandlers where
  lanGetSerialNumber := (lastSome (·.handlerReport.serialNumber) ds).getD h.lanGetSerialNumber
  lanGetCode := (lastSome (·.handlerReport.code) ds).getD h.lanGetCode
  lanGetHWInfo := (lastSome (·.handlerReport.hwInfo) ds).getD h.lanGetHWInfo
  lanGetBroadcastFlags :=
    (lastSome (·.handlerReport.broadcastFlags) ds).getD h.lanGetBroadcastFlags
  lanGetLocomode := (lastSome (·.handlerReport.locomode) ds).getD h.lanGetLocomode
  lanGetTurnoutmode := (lastSome (·.handlerReport.turnoutmode) ds).getD h.lanGetTurnoutmode
  lanSystemstateDatachanged :=
    (lastSome (·.handlerReport.systemstate) ds).getD h.lanSystemstateDatachanged
  lanX := {
    turnoutInfo := (lastSome (·.handlerReport.turnoutInfo) ds).getD h.lanX.turnoutInfo
    extAccessoryInfo :=
      (lastSome (·.handlerReport.extAccessoryInfo) ds).getD h.lanX.extAccessoryInfo
    cvResult := (lastSome (·.handlerReport.cvResult) ds).getD h.lanX.cvResult
    locoInfo := {
      address := (lastSome (·.handlerReport.locoInfo.map (·.address)) ds).getD
        h.lanX.locoInfo.address
      busy := (lastSome (·.handlerReport.locoInfo.map (·.busy)) ds).getD h.lanX.locoInfo.busy
      speedSteps := (lastSome (·.handlerReport.locoInfo.map (·.speedSteps)) ds).getD
        h.lanX.locoInfo.speedSteps
      directionForward := (lastSome (·.handlerReport.locoInfo.map (·.directionForward)) ds).getD
        h.lanX.locoInfo.directionForward
      speed := (lastSome (·.handlerReport.locoInfo.map (·.speed)) ds).getD h.lanX.locoInfo.speed
      doubleTraction := (lastSome (·.handlerReport.locoInfo.map (·.doubleTraction)) ds).getD
        h.lanX.locoInfo.doubleTraction
      smartSearch := (lastSome (·.handlerReport.locoInfo.map (·.smartSearch)) ds).getD
        h.lanX.locoInfo.smartSearch
      functions := Vector.ofFn fun i =>
        (lastSome (·.handlerReport.function i) ds).getD (h.lanX.locoInfo.function i) }
    getFirmwareVersionResponse := (lastSome (·.handlerReport.getFirmwareVersionResponse) ds).getD
      h.lanX.getFirmwareVersionResponse
    mCommand := (lastSome (·.handlerReport.mCommand) ds).getD h.lanX.mCommand }

theorem function_update (h : CommandHandlers) (r : HandlerReport) (i : Fin 32) :
    (h.update r).lanX.locoInfo.function i = (r.function i).getD (h.lanX.locoInfo.function i) :=
  Vector.getElem_ofFn i.isLt

theorem lastTold_nil (h : CommandHandlers) : h.lastTold [] = h :=
  congrArg (fun f => { h with lanX.locoInfo.functions := f }) h.lanX.locoInfo.ofFn_function

theorem foldl_update (h : CommandHandlers) (ds : List Dataset) :
    ds.foldl (fun h d => h.update d.handlerReport) h = h.lastTold ds := by
  induction ds generalizing h with
  | nil => exact h.lastTold_nil.symm
  | cons d ds ih =>
    rw [List.foldl_cons, ih]
    simp only [lastTold, getD_lastSome_cons, function_update]
    rfl

end CommandHandlers

/-! ## Runs -/

/-- A message tells the handler objects what its report says. -/
theorem Z21.commandHandlers_receive (z : Z21) (m : Message) :
    (z.receive m).commandHandlers = z.commandHandlers.update m.handlerReport := by
  -- a message without a loco info leaves the functions as they were
  have hkeep : ∀ h : CommandHandlers,
      h.lanX.locoInfo.functions = z.commandHandlers.lanX.locoInfo.functions →
      h = { h with
        lanX.locoInfo.functions := Vector.ofFn z.commandHandlers.lanX.locoInfo.function } := by
    intro h hh
    rw [LanXLocoInfo.ofFn_function, ← hh]
  cases m with
  | corrupted =>
    rw [z.handlers_receive_of_isDropped rfl]
    exact hkeep _ rfl
  | serialNumber payload => cases payload <;> exact hkeep _ rfl
  | code payload => cases payload <;> exact hkeep _ rfl
  | hwInfo payload => cases payload <;> exact hkeep _ rfl
  | systemstate payload => cases payload <;> exact hkeep _ rfl
  | lanX body =>
    cases body with
    | locoInfo update => rfl
    | _ => exact hkeep _ rfl
  | _ => exact hkeep _ rfl

/-- **The last dataset wins**, for every handler object: after a run, each field is what the last
dataset that told something of it told, or what it was before the run. -/
theorem Z21.commandHandlers_runAll {z z' : Z21} {ds : List Dataset}
    (hrun : runAll handleDataset z ds = .ok z') :
    z'.commandHandlers = z.commandHandlers.lastTold ds := by
  rw [← CommandHandlers.foldl_update]
  refine runAll_simulates (fun d _ z z' hz => ?_) hrun
  obtain ⟨m, hm, rfl⟩ := handleDataset_eq_ok_iff.1 hz
  rw [z.commandHandlers_receive, Dataset.handlerReport, hm]
  rfl

/-- A loco with the functions 29 to 31, and then another loco whose body does not reach them. -/
theorem Z21.commandHandlers_runAll_locoInfo :
    ∃ z', runAll handleDataset (fresh ⟨0, 0, .unknown⟩)
        [⟨15, 0x40, [0xef, 0x00, 0x03, 0x04, 0x80, 0x10, 0, 0, 0, 0x07, 0x7f]⟩,
          ⟨14, 0x40, [0xef, 0x00, 0x04, 0x04, 0x80, 0x10, 0, 0, 0, 0x7f]⟩] = .ok z' ∧
      z'.commandHandlers = (fresh ⟨0, 0, .unknown⟩).commandHandlers.lastTold
        [⟨15, 0x40, [0xef, 0x00, 0x03, 0x04, 0x80, 0x10, 0, 0, 0, 0x07, 0x7f]⟩,
          ⟨14, 0x40, [0xef, 0x00, 0x04, 0x04, 0x80, 0x10, 0, 0, 0, 0x7f]⟩] := by
  obtain ⟨z', hz'⟩ := ((fresh ⟨0, 0, .unknown⟩).exists_runAll_handleDataset_iff
    [⟨15, 0x40, [0xef, 0x00, 0x03, 0x04, 0x80, 0x10, 0, 0, 0, 0x07, 0x7f]⟩,
      ⟨14, 0x40, [0xef, 0x00, 0x04, 0x04, 0x80, 0x10, 0, 0, 0, 0x7f]⟩]).2 (by decide)
  exact ⟨z', hz', Z21.commandHandlers_runAll hz'⟩

end TrainPP
