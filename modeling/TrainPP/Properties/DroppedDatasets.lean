import TrainPP.Protocol.Refinement
import TrainPP.Foundations.Runs

/-!
# Datasets that are dropped

A LAN_X body with a bad checksum and a payload of the wrong length are dropped by `unpack`, but
`handle_dataset` goes on behind it: it runs the command of the last accepted LAN_X body again, and
copies the handler to the status again. Neither has an effect on the status exactly when the status
already shows what this brings.

* `Z21.along_corrupted_iff`: in a run, corrupted LAN_X bodies have no effect on the status exactly
  when the command that each of them runs again is harmless where it arrives;
* `Z21.along_rejected_iff`: in a run, rejected payloads have no effect on the status exactly when
  the handler of each of them is mirrored by the status where it arrives.
-/

namespace TrainPP

open Checked LastWriter Runs

/-! ## Dropping a kind of dataset -/

/-- Handling a dataset succeeds and leaves the status as it was. -/
def Z21.KeepsStatus (z : Z21) (d : Dataset) : Prop :=
  ∃ z', z.handleDataset d = .ok z' ∧ z'.status = z.status

/-- A kind `D` of datasets that keep the status in the states in which `H` holds of them, and only
there, and keep the whole client when they keep the status: what this makes of a run. -/
theorem Z21.along_keepsStatus_iff {D : Dataset → Prop} [DecidablePred D] {H : Z21 → Dataset → Prop}
    (hiff : ∀ (z : Z21) d, D d → (z.KeepsStatus d ↔ H z d))
    (hkeep : ∀ (z : Z21) d, D d → z.KeepsStatus d → z.handleDataset d = .ok z) (z : Z21)
    (ds : List Dataset) :
    (Along Z21.handleDataset (fun z d => D d → z.KeepsStatus d) z ds ↔
        Along Z21.handleDataset (fun z d => D d → H z d) z ds) ∧
      (Along Z21.handleDataset (fun z d => D d → H z d) z ds →
        runAll Z21.handleDataset z (ds.filter (¬D ·)) = runAll Z21.handleDataset z ds) := by
  have hcongr : Along Z21.handleDataset _ z ds ↔ Along Z21.handleDataset _ z ds :=
    along_congr (fun z d => forall_congr' fun hd : D d => hiff z d hd) z ds
  refine ⟨hcongr, fun h => runAll_filter_of_along _ ?_⟩
  have hD : ∀ d, decide (¬D d) = false ↔ D d := fun d => by simp
  rw [along_congr fun z d => imp_congr_left (hD d)]
  exact Along.imp (fun z d hd hD => hkeep z d hD (hd hD)) (hcongr.2 h)

/-! ## Corrupted LAN_X bodies -/

namespace Z21

/-- The command of the last accepted LAN_X body writes no field of the status, or the field that
it writes already has the value that it writes. -/
def StaleSafe (z : Z21) : Prop :=
  match z.commandHandlers.lanX.mCommand with
  | some .lanXBcTrackPowerOff => z.status.mode.trackVoltageOff = true
  | some .lanXBcTrackPowerOn => z.status.mode.trackVoltageOff = false
  | some .lanXBcProgrammingMode => z.status.mode.programmingMode = true
  | some .lanXBcTrackShortCircuit => z.status.mode.shortCirtcuit = true
  | some .lanXUnknownCommand => z.status.mode.invalidRequest = true
  | some .lanXBcStopped => z.status.mode.emergencyStop = true
  | some .lanXGetFirmwareVersionResponse =>
    z.status.id.fwVersion = z.commandHandlers.lanX.getFirmwareVersionResponse.fwVersion
  | _ => True

theorem handleDataset_of_corrupted {d : Dataset} (h : d.Corrupted) (z : Z21) :
    z.handleDataset d = .ok z.runCommand :=
  handleDataset_of_message (Dataset.message_eq_corrupted_iff.2 h) z

theorem runCommand_eq_self_of_staleSafe {z : Z21} (h : z.StaleSafe) : z.runCommand = z := by
  rw [StaleSafe] at h
  rw [runCommand]
  rcases hc : z.commandHandlers.lanX.mCommand with _ | command
  · rfl
  rw [hc] at h
  cases command with
  | lanXBcTrackPowerOff =>
    exact congrArg (fun b => { z with status.mode.trackVoltageOff := b }) h.symm
  | lanXBcTrackPowerOn =>
    exact congrArg (fun b => { z with status.mode.trackVoltageOff := b }) h.symm
  | lanXBcProgrammingMode =>
    exact congrArg (fun b => { z with status.mode.programmingMode := b }) h.symm
  | lanXBcTrackShortCircuit =>
    exact congrArg (fun b => { z with status.mode.shortCirtcuit := b }) h.symm
  | lanXUnknownCommand =>
    exact congrArg (fun b => { z with status.mode.invalidRequest := b }) h.symm
  | lanXBcStopped =>
    exact congrArg (fun b => { z with status.mode.emergencyStop := b }) h.symm
  | lanXGetFirmwareVersionResponse =>
    exact congrArg (fun v => { z with status.id.fwVersion := v }) h.symm
  | _ => rfl

theorem staleSafe_of_status_runCommand {z : Z21} (h : z.runCommand.status = z.status) :
    z.StaleSafe := by
  rw [runCommand] at h
  rw [StaleSafe]
  rcases hc : z.commandHandlers.lanX.mCommand with _ | command
  · trivial
  rw [hc] at h
  cases command with
  | lanXBcTrackPowerOff => exact (congrArg (·.mode.trackVoltageOff) h).symm
  | lanXBcTrackPowerOn => exact (congrArg (·.mode.trackVoltageOff) h).symm
  | lanXBcProgrammingMode => exact (congrArg (·.mode.programmingMode) h).symm
  | lanXBcTrackShortCircuit => exact (congrArg (·.mode.shortCirtcuit) h).symm
  | lanXUnknownCommand => exact (congrArg (·.mode.invalidRequest) h).symm
  | lanXBcStopped => exact (congrArg (·.mode.emergencyStop) h).symm
  | lanXGetFirmwareVersionResponse => exact (congrArg (·.id.fwVersion) h).symm
  | _ => trivial

theorem keepsStatus_iff_of_corrupted (z : Z21) (d : Dataset) (h : d.Corrupted) :
    z.KeepsStatus d ↔ z.StaleSafe := by
  constructor
  · rintro ⟨z', hz, hstatus⟩
    rw [handleDataset_of_corrupted h] at hz
    cases hz
    exact staleSafe_of_status_runCommand hstatus
  · intro hs
    refine ⟨z, ?_, rfl⟩
    rw [handleDataset_of_corrupted h, runCommand_eq_self_of_staleSafe hs]

/-- **Corrupted LAN_X bodies**: in a run from a new client, each of them leaves the status as it
was exactly when each arrives in a state in which the command that it runs again is harmless; the
run then ends as it does without them. -/
theorem along_corrupted_iff (u : Uninitialized) (ds : List Dataset) :
    (Along Z21.handleDataset (fun z d => d.Corrupted → z.KeepsStatus d) (Z21.fresh u) ds ↔
        Along Z21.handleDataset (fun z d => d.Corrupted → z.StaleSafe) (Z21.fresh u) ds) ∧
      (Along Z21.handleDataset (fun z d => d.Corrupted → z.StaleSafe) (Z21.fresh u) ds →
        runAll Z21.handleDataset (Z21.fresh u) (ds.filter (¬Dataset.Corrupted ·)) =
          runAll Z21.handleDataset (Z21.fresh u) ds) := by
  refine along_keepsStatus_iff keepsStatus_iff_of_corrupted (fun z d hd hk => ?_) (Z21.fresh u) ds
  rw [handleDataset_of_corrupted hd,
    runCommand_eq_self_of_staleSafe ((keepsStatus_iff_of_corrupted z d hd).1 hk)]

/-- The track power goes off, and a corrupted body follows at once. -/
theorem runAll_powerOff_corrupted :
    runAll Z21.handleDataset (Z21.fresh ⟨0, 0, .unknown⟩)
        ([⟨7, 0x40, [0x61, 0x00, 0x61]⟩, ⟨7, 0x40, [0x61, 0x00, 0x00]⟩].filter
          (¬Dataset.Corrupted ·)) =
      runAll Z21.handleDataset (Z21.fresh ⟨0, 0, .unknown⟩)
        [⟨7, 0x40, [0x61, 0x00, 0x61]⟩, ⟨7, 0x40, [0x61, 0x00, 0x00]⟩] := by
  refine (along_corrupted_iff ⟨0, 0, .unknown⟩ _).2 ⟨fun h => ?_, fun z hz => ⟨fun _ => ?_, ?_⟩⟩
  · exact absurd h (by decide)
  · cases hz
    rfl
  · exact fun _ _ => trivial

/-- The track power goes off and on again, the latter by a system state, and then a corrupted body
turns it off. -/
theorem not_keepsStatus_corrupted :
    ¬∀ (u : Uninitialized) (ds : List Dataset) (z : Z21) (d : Dataset),
      runAll Z21.handleDataset (Z21.fresh u) ds = .ok z → d.Corrupted → z.KeepsStatus d := by
  intro h
  obtain ⟨z', hz, hstatus⟩ := h ⟨0, 0, .unknown⟩
    [⟨7, 0x40, [0x61, 0x00, 0x61]⟩, ⟨20, 0x84, List.replicate 16 0⟩] _
    ⟨7, 0x40, [0x61, 0x00, 0x00]⟩ rfl (by decide)
  cases hz
  exact absurd (congrArg (·.mode.trackVoltageOff) hstatus) (by decide)

/-! ## Rejected payloads -/

/-- The status shows what the handler of an id holds, for the ids that require a length. -/
def Mirrors (z : Z21) : DataSet → Prop
  | .lanGetSerialNumber =>
    z.commandHandlers.lanGetSerialNumber.serialNumber = z.status.id.serialNumber
  | .lanGetCode => z.commandHandlers.lanGetCode.code = z.status.id.featureSet.value
  | .lanGetHwinfo =>
    z.commandHandlers.lanGetHWInfo.hwType = z.status.id.hwType ∧
      z.commandHandlers.lanGetHWInfo.fwVersion = z.status.id.fwVersion
  | .lanSystemstateDatachanged =>
    let ss := z.commandHandlers.lanSystemstateDatachanged
    ss.measurements = z.status.measurements ∧
      ss.emergencyStop = z.status.mode.emergencyStop ∧
      ss.trackVoltageOff = z.status.mode.trackVoltageOff ∧
      ss.shortCirtcuit = z.status.mode.shortCirtcuit ∧
      ss.programmingMode = z.status.mode.programmingMode
  | _ => True

end Z21

/-- The message of a rejected payload of an id. -/
def DataSet.rejection : DataSet → Message
  | lanGetSerialNumber => .serialNumber none
  | lanGetCode => .code none
  | lanGetHwinfo => .hwInfo none
  | lanSystemstateDatachanged => .systemstate none
  | _ => .unknown

theorem Dataset.message_of_rejected {d : Dataset} {ds : DataSet} (hid : d.id = ds.id)
    (h : d.Rejected) : d.message = some ds.rejection := by
  obtain ⟨n, hn, hne⟩ := (rejected_iff_of_id hid).1 h
  rw [message, hid]
  cases ds with
  | lanGetSerialNumber =>
    cases hn
    exact congrArg (some ∘ Message.serialNumber) (LanGetSerialNumber.decode_eq_none_iff.2 hne)
  | lanGetCode =>
    cases hn
    exact congrArg (some ∘ Message.code) (LanGetCode.decode_eq_none_iff.2 hne)
  | lanGetHwinfo =>
    cases hn
    exact congrArg (Option.map Message.hwInfo) (LanGetHWInfo.decode_of_length_ne hne)
  | lanSystemstateDatachanged =>
    cases hn
    exact congrArg (some ∘ Message.systemstate)
      (LanSystemstateDatachanged.decode_eq_none_iff.2 hne)
  | _ => cases hn

namespace Z21

/-- The client with other values in the fields of the status that a system state writes. -/
def withSystemstate (z : Z21) (m : Measurements) (emergencyStop trackVoltageOff shortCirtcuit
    programmingMode : Bool) : Z21 :=
  { z with
    status.track := { m with }
    status.temperature := m.temperature
    status.centralState := m.centralState
    status.centralStateEx := m.centralStateEx
    status.capabilities := m.capabilities
    status.mode.emergencyStop := emergencyStop
    status.mode.trackVoltageOff := trackVoltageOff
    status.mode.shortCirtcuit := shortCirtcuit
    status.mode.programmingMode := programmingMode }

theorem receive_rejection_eq_self {z : Z21} {ds : DataSet} (hds : ds.requiredLength ≠ none)
    (h : z.Mirrors ds) : z.receive ds.rejection = z := by
  cases ds with
  | lanGetSerialNumber =>
    exact congrArg (fun n => { z with status.id.serialNumber := n }) h
  | lanGetCode =>
    exact congrArg (fun c => { z with status.id.featureSet := ⟨c⟩ }) h
  | lanGetHwinfo =>
    exact congrArg₂ (fun t v => { z with status.id.hwType := t, status.id.fwVersion := v }) h.1 h.2
  | lanSystemstateDatachanged =>
    obtain ⟨hm, he, ht, hs, hp⟩ := h
    let ss := z.commandHandlers.lanSystemstateDatachanged
    calc z.receive (.systemstate none)
        = z.withSystemstate ss.measurements ss.emergencyStop ss.trackVoltageOff ss.shortCirtcuit
            ss.programmingMode := rfl
      _ = z.withSystemstate z.status.measurements z.status.mode.emergencyStop
            z.status.mode.trackVoltageOff z.status.mode.shortCirtcuit
            z.status.mode.programmingMode := by rw [hm, he, ht, hs, hp]
      _ = z := rfl
  | _ => exact absurd rfl hds

theorem mirrors_of_status_receive {z : Z21} {ds : DataSet}
    (h : (z.receive ds.rejection).status = z.status) : z.Mirrors ds := by
  cases ds with
  | lanGetSerialNumber => exact congrArg (·.id.serialNumber) h
  | lanGetCode => exact congrArg (·.id.featureSet.value) h
  | lanGetHwinfo => exact ⟨congrArg (·.id.hwType) h, congrArg (·.id.fwVersion) h⟩
  | lanSystemstateDatachanged =>
    exact ⟨congrArg (·.measurements) h, congrArg (·.mode.emergencyStop) h,
      congrArg (·.mode.trackVoltageOff) h, congrArg (·.mode.shortCirtcuit) h,
      congrArg (·.mode.programmingMode) h⟩
  | _ => trivial

theorem handleDataset_of_rejected {d : Dataset} {ds : DataSet} (hid : d.id = ds.id)
    (h : d.Rejected) (z : Z21) : z.handleDataset d = .ok (z.receive ds.rejection) :=
  handleDataset_of_message (Dataset.message_of_rejected hid h) z

/-- The status mirrors the handler that a dataset is for. -/
def MirrorsHandlerOf (z : Z21) (d : Dataset) : Prop := ∀ ds : DataSet, d.id = ds.id → z.Mirrors ds

theorem keepsStatus_iff_of_rejected (z : Z21) (d : Dataset) (h : d.Rejected) :
    z.KeepsStatus d ↔ z.MirrorsHandlerOf d := by
  obtain ⟨ds, n, hid, hn, -⟩ := id h
  constructor
  · rintro ⟨z', hz, hstatus⟩ ds' hid'
    rw [handleDataset_of_rejected hid' h] at hz
    cases hz
    exact mirrors_of_status_receive hstatus
  · intro hm
    refine ⟨z, ?_, rfl⟩
    rw [handleDataset_of_rejected hid h,
      receive_rejection_eq_self (by simp [hn]) (hm ds hid)]

/-- **Rejected payloads**: in a run from a new client, each of them leaves the status as it was
exactly when each arrives in a state in which the status mirrors the handler that it is for; the run
then ends as it does without them. -/
theorem along_rejected_iff (u : Uninitialized) (ds : List Dataset) :
    (Along Z21.handleDataset (fun z d => d.Rejected → z.KeepsStatus d) (Z21.fresh u) ds ↔
        Along Z21.handleDataset (fun z d => d.Rejected → z.MirrorsHandlerOf d) (Z21.fresh u) ds) ∧
      (Along Z21.handleDataset (fun z d => d.Rejected → z.MirrorsHandlerOf d) (Z21.fresh u) ds →
        runAll Z21.handleDataset (Z21.fresh u) (ds.filter (¬Dataset.Rejected ·)) =
          runAll Z21.handleDataset (Z21.fresh u) ds) := by
  refine along_keepsStatus_iff keepsStatus_iff_of_rejected (fun z d hd hk => ?_) (Z21.fresh u) ds
  obtain ⟨ds', n, hid, hn, -⟩ := id hd
  rw [handleDataset_of_rejected hid hd, receive_rejection_eq_self (by simp [hn])
    ((keepsStatus_iff_of_rejected z d hd).1 hk ds' hid)]

/-- A code arrives, and then a code without a payload. -/
theorem runAll_code_rejected :
    runAll Z21.handleDataset (Z21.fresh ⟨0, 0, .unknown⟩)
        ([⟨5, 0x18, [0x01]⟩, ⟨4, 0x18, []⟩].filter (¬Dataset.Rejected ·)) =
      runAll Z21.handleDataset (Z21.fresh ⟨0, 0, .unknown⟩) [⟨5, 0x18, [0x01]⟩, ⟨4, 0x18, []⟩] := by
  refine (along_rejected_iff ⟨0, 0, .unknown⟩ _).2
    ⟨fun h => ?_, fun z hz => ⟨fun _ ds hds => ?_, ?_⟩⟩
  · exact absurd h (by decide)
  · cases hz
    cases ds <;> first | rfl | cases hds
  · exact fun _ _ => trivial

/-- A code without a payload clears the feature set of a new client. -/
theorem not_keepsStatus_rejected :
    ¬∀ (u : Uninitialized) (ds : List Dataset) (z : Z21) (d : Dataset),
      runAll Z21.handleDataset (Z21.fresh u) ds = .ok z → d.Rejected → z.KeepsStatus d := by
  intro h
  obtain ⟨z', hz, hstatus⟩ := h ⟨0, 0, .unknown⟩ [] _ ⟨4, 0x18, []⟩ rfl (by decide)
  cases hz
  exact absurd (congrArg (·.id.featureSet) hstatus) (by decide)

end Z21

end TrainPP
