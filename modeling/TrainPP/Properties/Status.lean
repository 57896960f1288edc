import TrainPP.Foundations.Bits
import TrainPP.Properties.Delivery

/-!
# The status is what the last datasets said

`StatusReport` is what a dataset says about each field of the status. After a run of well-formed
datasets from a new client, every field of the status is what the last dataset that says something
about it said, and its initial value when none did (`Z21.status_runAll_of_wellFormed`). What a body
of LAN_X and a system state say about the modes can be read off their bytes (`Dataset.report_body`,
`Dataset.report_systemstate`).
-/

namespace TrainPP

open Checked LastWriter Runs Words Bits

/-! ## Reports -/

/-- What a dataset says about each field of the status. -/
structure StatusReport where
  serialNumber : Option UInt32 := none
  hwType : Option UInt32 := none
  fwVersion : Option String := none
  featureSet : Option Z21FeatureSet := none
  mainCurrent : Option Int16 := none
  progCurrent : Option Int16 := none
  filteredMainCurrent : Option Int16 := none
  supplyVoltage : Option UInt16 := none
  vccVoltage : Option UInt16 := none
  temperature : Option Int16 := none
  centralState : Option UInt8 := none
  centralStateEx : Option UInt8 := none
  capabilities : Option UInt8 := none
  emergencyStop : Option Bool := none
  trackVoltageOff : Option Bool := none
  shortCirtcuit : Option Bool := none
  programmingMode : Option Bool := none
  invalidRequest : Option Bool := none

def LanXMessage.report : LanXMessage → StatusReport
  | bcTrackPowerOff => { trackVoltageOff := some true }
  | bcTrackPowerOn => { trackVoltageOff := some false }
  | bcProgrammingMode => { programmingMode := some true }
  | bcTrackShortCircuit => { shortCirtcuit := some true }
  | unknownCommand => { invalidRequest := some true }
  | bcStopped => { emergencyStop := some true }
  | getFirmwareVersionResponse response => { fwVersion := some response.fwVersion }
  | _ => {}

def Message.report : Message → StatusReport
  | serialNumber (some payload) => { serialNumber := some payload.serialNumber }
  | code (some payload) => { featureSet := some ⟨payload.code⟩ }
  | hwInfo (some payload) =>
    { hwType := some payload.hwType, fwVersion := some payload.fwVersion }
  | systemstate (some payload) =>
    { mainCurrent := some payload.mainCurrent
      progCurrent := some payload.progCurrent
      filteredMainCurrent := some payload.filteredMainCurrent
      supplyVoltage := some payload.supplyVoltage
      vccVoltage := some payload.vccVoltage
      temperature := some payload.temperature
      centralState := some payload.centralState
      centralStateEx := some payload.centralStateEx
      capabilities := some payload.capabilities
      emergencyStop := some payload.emergencyStop
      trackVoltageOff := some payload.trackVoltageOff
      shortCirtcuit := some payload.shortCirtcuit
      programmingMode := some payload.programmingMode }
  | lanX body => body.report
  | _ => {}

def Dataset.report (d : Dataset) : StatusReport := d.message.elim {} Message.report

theorem Dataset.report_of_decode {d : Dataset} (hid : d.id = DataSet.lanX.id)
    (hi : LanX.Intact d.data) {m : LanXMessage} (hm : LanXMessage.decode d.data = some m) :
    d.report = m.report := by
  have hmessage : d.message = some (.lanX m) := by
    rw [message, hid]
    show LanX.decode d.data = _
    rw [LanX.decode, if_neg (LanX.ne_nil_of_intact hi), if_pos hi, hm]
    rfl
  rw [report, hmessage]
  rfl

/-- What an intact LAN_X body says about the modes, by its first bytes. -/
theorem Dataset.report_body {d : Dataset} (hid : d.id = DataSet.lanX.id) (hi : LanX.Intact d.data)
    (rest : List UInt8) :
    (d.data = 0x61 :: 0x00 :: rest → d.report = { trackVoltageOff := some true }) ∧
      (d.data = 0x61 :: 0x01 :: rest → d.report = { trackVoltageOff := some false }) ∧
      (d.data = 0x61 :: 0x02 :: rest → d.report = { programmingMode := some true }) ∧
      (d.data = 0x61 :: 0x08 :: rest → d.report = { shortCirtcuit := some true }) ∧
      (d.data = 0x61 :: 0x82 :: rest → d.report = { invalidRequest := some true }) ∧
      (d.data = 0x81 :: rest → d.report = { emergencyStop := some true }) := by
  refine ⟨fun h => ?_, fun h => ?_, fun h => ?_, fun h => ?_, fun h => ?_, fun h => ?_⟩
  · exact report_of_decode (m := .bcTrackPowerOff) hid hi (by rw [h]; rfl)
  · exact report_of_decode (m := .bcTrackPowerOn) hid hi (by rw [h]; rfl)
  · exact report_of_decode (m := .bcProgrammingMode) hid hi (by rw [h]; rfl)
  · exact report_of_decode (m := .bcTrackShortCircuit) hid hi (by rw [h]; rfl)
  · exact report_of_decode (m := .unknownCommand) hid hi (by rw [h]; rfl)
  · exact report_of_decode (m := .bcStopped) hid hi (by rw [h]; rfl)

/-- The flags of a system state are the bits of its central state. -/
structure LanSystemstateDatachanged.Consistent (state : LanSystemstateDatachanged) : Prop where
  emergencyStop : state.emergencyStop = flag state.centralState 0x01
  trackVoltageOff : state.trackVoltageOff = flag state.centralState 0x02
  shortCirtcuit : state.shortCirtcuit = flag state.centralState 0x04
  programmingMode : state.programmingMode = flag state.centralState 0x20

theorem LanSystemstateDatachanged.consistent_of_decode {data : List UInt8}
    {self : LanSystemstateDatachanged} (h : decode data = some self) : self.Consistent := by
  unfold decode at h
  split at h
  · cases h
    exact ⟨rfl, rfl, rfl, rfl⟩
  · cases h

theorem LanSystemstateDatachanged.centralState_of_decode {data : List UInt8}
    {self : LanSystemstateDatachanged} (h : decode data = some self) :
    data[12]? = some self.centralState := by
  unfold decode at h
  split at h
  · cases h
    rfl
  · cases h

/-- What a system state says about the modes: bits of its byte 12. -/
theorem Dataset.report_systemstate {d : Dataset} (hid : d.id = DataSet.lanSystemstateDatachanged.id)
    (hlen : d.data.length = 16) :
    d.report.centralState = d.data[12]? ∧
      d.report.emergencyStop = d.data[12]?.map (bit · 0) ∧
      d.report.trackVoltageOff = d.data[12]?.map (bit · 1) ∧
      d.report.shortCirtcuit = d.data[12]?.map (bit · 2) ∧
      d.report.programmingMode = d.data[12]?.map (bit · 5) := by
  obtain ⟨state, hstate⟩ := Option.ne_none_iff_exists'.1
    (mt LanSystemstateDatachanged.decode_eq_none_iff.1 (not_not_intro hlen))
  have hmessage : d.message = some (.systemstate (some state)) := by
    rw [message, hid, ← hstate]
    rfl
  have hflags := LanSystemstateDatachanged.consistent_of_decode hstate
  rw [report, hmessage, LanSystemstateDatachanged.centralState_of_decode hstate]
  refine ⟨rfl, congrArg some ?_, congrArg some ?_, congrArg some ?_, congrArg some ?_⟩
  · exact hflags.emergencyStop.trans (flag_eq_bit _ 0 rfl)
  · exact hflags.trackVoltageOff.trans (flag_eq_bit _ 1 rfl)
  · exact hflags.shortCirtcuit.trans (flag_eq_bit _ 2 rfl)
  · exact hflags.programmingMode.trans (flag_eq_bit _ 5 rfl)

namespace Z21Status

/-- The status after a report. -/
def update (s : Z21Status) (r : StatusReport) : Z21Status where
  id := {
    serialNumber := r.serialNumber.getD s.id.serialNumber
    hwType := r.hwType.getD s.id.hwType
    fwVersion := r.fwVersion.getD s.id.fwVersion
    featureSet := r.featureSet.getD s.id.featureSet }
  track := {
    mainCurrent := r.mainCurrent.getD s.track.mainCurrent
    progCurrent := r.progCurrent.getD s.track.progCurrent
    filteredMainCurrent := r.filteredMainCurrent.getD s.track.filteredMainCurrent
    supplyVoltage := r.supplyVoltage.getD s.track.supplyVoltage
    vccVoltage := r.vccVoltage.getD s.track.vccVoltage }
  temperature := r.temperature.getD s.temperature
  centralState := r.centralState.getD s.centralState
  centralStateEx := r.centralStateEx.getD s.centralStateEx
  capabilities := r.capabilities.getD s.capabilities
  mode := {
    emergencyStop := r.emergencyStop.getD s.mode.emergencyStop
    trackVoltageOff := r.trackVoltageOff.getD s.mode.trackVoltageOff
    shortCirtcuit := r.shortCirtcuit.getD s.mode.shortCirtcuit
    programmingMode := r.programmingMode.getD s.mode.programmingMode
    invalidRequest := r.invalidRequest.getD s.mode.invalidRequest }

/-- The status in which every field is what the last dataset that says something about it says,
and what it is in `s` when none does. -/
def lastReported (s : Z21Status) (ds : List Dataset) : Z21Status where
  id := {
    serialNumber := (lastSome (·.report.serialNumber) ds).getD s.id.serialNumber
    hwType := (lastSome (·.report.hwType) ds).getD s.id.hwType
    fwVersion := (lastSome (·.report.fwVersion) ds).getD s.id.fwVersion
    featureSet := (lastSome (·.report.featureSet) ds).getD s.id.featureSet }
  track := {
    mainCurrent := (lastSome (·.report.mainCurrent) ds).getD s.track.mainCurrent
    progCurrent := (lastSome (·.report.progCurrent) ds).getD s.track.progCurrent
    filteredMainCurrent :=
      (lastSome (·.report.filteredMainCurrent) ds).getD s.track.filteredMainCurrent
    supplyVoltage := (lastSome (·.report.supplyVoltage) ds).getD s.track.supplyVoltage
    vccVoltage := (lastSome (·.report.vccVoltage) ds).getD s.track.vccVoltage }
  temperature := (lastSome (·.report.temperature) ds).getD s.temperature
  centralState := (lastSome (·.report.centralState) ds).getD s.centralState
  centralStateEx := (lastSome (·.report.centralStateEx) ds).getD s.centralStateEx
  capabilities := (lastSome (·.report.capabilities) ds).getD s.capabilities
  mode := {
    emergencyStop := (lastSome (·.report.emergencyStop) ds).getD s.mode.emergencyStop
    trackVoltageOff := (lastSome (·.report.trackVoltageOff) ds).getD s.mode.trackVoltageOff
    shortCirtcuit := (lastSome (·.report.shortCirtcuit) ds).getD s.mode.shortCirtcuit
    programmingMode := (lastSome (·.report.programmingMode) ds).getD s.mode.programmingMode
    invalidRequest := (lastSome (·.report.invalidRequest) ds).getD s.mode.invalidRequest }

theorem foldl_update (s : Z21Status) (ds : List Dataset) :
    ds.foldl (fun s d => s.update d.report) s = s.lastReported ds := by
  induction ds generalizing s with
  | nil => rfl
  | cons d ds ih =>
    rw [List.foldl_cons, ih]
    simp only [lastReported, getD_lastSome_cons, update]

end Z21Status

/-! ## Well-formed datasets -/

/-- A dataset as the command station sends it: of the size that its id requires, and with a LAN_X
body that reaches, before its checksum, as far as its command reads. -/
@[mk_iff] structure Dataset.WellFormed (d : Dataset) : Prop where
  serialNumber : d.id = DataSet.lanGetSerialNumber.id → d.data.length = 4
  code : d.id = DataSet.lanGetCode.id → d.data.length = 1
  hwInfo : d.id = DataSet.lanGetHwinfo.id → d.data.length = 8 ∧ ∃ b ∈ d.data.drop 4, b ≠ 0
  systemstate : d.id = DataSet.lanSystemstateDatachanged.id → d.data.length = 16
  broadcastFlags : d.id = DataSet.lanGetBroadcastflags.id → 4 ≤ d.data.length
  locomode : d.id = DataSet.lanGetLocomode.id → 3 ≤ d.data.length
  turnoutmode : d.id = DataSet.lanGetTurnoutmode.id → 3 ≤ d.data.length
  lanX : d.id = DataSet.lanX.id → LanX.Intact d.data ∧ LanX.Complete d.data.dropLast

instance (d : Dataset) : Decidable d.WellFormed := decidable_of_iff _ d.wellFormed_iff.symm

theorem LanX.one_le_minLength (header : UInt8) : 1 ≤ minLength header := by
  unfold minLength
  split_ifs <;> omega

theorem LanX.Complete.of_dropLast {data : List UInt8} (h : Complete data.dropLast) :
    Complete data := by
  have hlen := h.minLength_le
  have hpos := one_le_minLength (data.dropLast.headD 0)
  match data, h, hlen, hpos with
  | [], h, _, _ => exact h
  | [_], _, hlen, hpos => exact absurd (hpos.trans hlen) (by simp)
  | header :: b :: rest, h, hlen, _ =>
    rw [List.dropLast_cons_cons, complete_cons_iff] at h
    rw [List.length_dropLast, List.length_cons] at h
    refine complete_cons_iff.2 ⟨by rw [List.length_cons]; omega, fun hf => ?_⟩
    subst hf
    obtain ⟨x, hx, hne⟩ := h.2 rfl
    have h4 : 4 ≤ rest.length + 1 := h.1
    refine ⟨x, ?_, hne⟩
    rwa [← List.dropLast_cons_cons, List.dropLast_eq_take, List.take_take,
      Nat.min_eq_left (by simpa using h4)] at hx

theorem Dataset.WellFormed.sound {d : Dataset} (h : d.WellFormed) : d.Sound where
  decodable := {
    hwInfo := fun hid _ => (h.hwInfo hid).2
    broadcastFlags := h.broadcastFlags
    locomode := h.locomode
    turnoutmode := h.turnoutmode
    lanX := fun hid =>
      ⟨LanX.ne_nil_of_intact (h.lanX hid).1, fun _ => (h.lanX hid).2.of_dropLast⟩ }
  intact hid := (h.lanX hid).1

theorem Dataset.WellFormed.not_rejected {d : Dataset} (h : d.WellFormed) : ¬d.Rejected := by
  rintro ⟨ds, n, hid, hn, hne⟩
  cases ds <;> cases hn
  · exact hne (h.serialNumber hid)
  · exact hne (h.code hid)
  · exact hne (h.hwInfo hid).1
  · exact hne (h.systemstate hid)

/-! ## Runs -/

theorem Message.status_apply_effect {m : Message} (h : m.isRejected = false) (r : Registers) :
    (m.effect.apply r).status = r.status.update m.report := by
  cases m with
  | serialNumber payload =>
    cases payload with
    | none => cases h
    | some payload => rfl
  | code payload =>
    cases payload with
    | none => cases h
    | some payload => rfl
  | hwInfo payload =>
    cases payload with
    | none => cases h
    | some payload => rfl
  | systemstate payload =>
    cases payload with
    | none => cases h
    | some payload => rfl
  | lanX body => cases body <;> rfl
  | _ => rfl

theorem Dataset.status_apply_effect {d : Dataset} (h : d.WellFormed) (r : Registers) :
    (d.effect.apply r).status = r.status.update d.report := by
  obtain ⟨m, hm⟩ := Option.isSome_iff_exists.1 (message_isSome_iff.2 h.sound.decodable)
  rw [effect, report, hm]
  refine Message.status_apply_effect ?_ r
  simpa using mt (rejected_iff hm).2 h.not_rejected

/-- **The last dataset wins**: a run of well-formed datasets from a new client succeeds, and every
field of the status is then what the last dataset that carries it says, or its initial value if none
does. -/
theorem Z21.status_runAll_of_wellFormed (u : Uninitialized) {ds : List Dataset}
    (h : ∀ d ∈ ds, d.WellFormed) :
    ∃ z, runAll Z21.handleDataset (Z21.fresh u) ds = .ok z ∧
      z.status = Z21Status.initial.lastReported ds := by
  have hrun := runAll_of_total
    (fun d hd z => Z21.handleDataset_of_sound (h d hd).sound z) (Z21.fresh u)
  refine ⟨_, hrun, ?_⟩
  rw [← Z21Status.foldl_update]
  refine runAll_simulates (fun d hd z z' hz => ?_) hrun
  rw [Z21.handleDataset_of_sound (h d hd).sound] at hz
  cases hz
  exact Dataset.status_apply_effect (h d hd) z.registers

/-- A run of three well-formed datasets: the track power goes off, a system state says that it is
on, and a code follows. -/
theorem Z21.status_runAll_powerOff :
    ∃ z, runAll Z21.handleDataset (Z21.fresh ⟨0, 0, .unknown⟩)
        [⟨7, 0x40, [0x61, 0x00, 0x61]⟩, ⟨20, 0x84, List.replicate 16 0⟩, ⟨5, 0x18, [0x01]⟩] =
          .ok z ∧
      z.status = Z21Status.initial.lastReported
        [⟨7, 0x40, [0x61, 0x00, 0x61]⟩, ⟨20, 0x84, List.replicate 16 0⟩, ⟨5, 0x18, [0x01]⟩] := by
  exact Z21.status_runAll_of_wellFormed ⟨0, 0, .unknown⟩ (by decide)

end TrainPP
