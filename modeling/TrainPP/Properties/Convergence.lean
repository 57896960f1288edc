import TrainPP.Properties.MirroredFields

/-!
# What the status remembers

The status may keep something of every dataset ever received, and also show what members without an
initializer happened to hold. Both end at known datasets:

* `Z21.status_determined_iff`: two clients that receive the same sound datasets end with the same
  status, whatever they received before, exactly when a dataset of each of the four kinds with a
  required length is accepted, and the reply to an unknown command is among them;
* `Z21.status_initialized_iff`: the status of a new client shows nothing of members without an
  initializer exactly when, for the serial number and the hardware info, a dataset is dropped only
  if one is accepted too.
-/

namespace TrainPP

open Checked LastWriter Runs

/-! ## When two clients agree -/

/-- A client that a new one becomes when it receives some datasets. -/
def Z21.Reachable (z : Z21) : Prop :=
  ∃ u past, runAll Z21.handleDataset (Z21.fresh u) past = .ok z

/-- A dataset of a kind is accepted. -/
def Accepts (ds : List Dataset) (k : DataSet) : Prop := ∃ d ∈ ds, d.kind = some k ∧ ¬d.Dropped

instance (ds : List Dataset) (k : DataSet) : Decidable (Accepts ds k) :=
  inferInstanceAs (Decidable (∃ d ∈ ds, d.kind = some k ∧ ¬d.Dropped))

/-- The flag of an invalid request is set by the reply to an unknown command, and never cleared. -/
theorem Z21.invalidRequest_runAll {ds : List Dataset} {z z' : Z21}
    (h : runAll handleDataset z ds = .ok z') (hs : ∀ d ∈ ds, d.Sound) :
    z'.status.mode.invalidRequest = true ↔
      z.status.mode.invalidRequest = true ∨
        ∃ d ∈ ds, d.message = some (.lanX .unknownCommand) := by
  induction ds generalizing z with
  | nil =>
    cases h
    simp
  | cons d ds ih =>
    obtain ⟨z₁, h₁, h₂⟩ := runAll_cons_eq_ok_iff.1 h
    rw [List.forall_mem_cons] at hs
    obtain ⟨m, hm, rfl⟩ := handleDataset_eq_ok_iff.1 h₁
    have hne : m ≠ .corrupted := by
      rintro rfl
      have hc := Dataset.message_eq_corrupted_iff.1 hm
      exact hc.not_intact (hs.1.intact hc.id_eq)
    have hstep : (z.receive m).status.mode.invalidRequest = true ↔
        z.status.mode.invalidRequest = true ∨ m = .lanX .unknownCommand := by
      rw [receive_of_ne hne]
      cases m with
      | lanX body => cases body <;> simp [Message.effect, LanXMessage.effect, Effect.apply,
          Registers.toZ21, Registers.status, registers]
      | _ => simp [Message.effect, Effect.apply, Registers.toZ21, Registers.status, registers]
    rw [ih h₂ hs.2, hstep, List.exists_mem_cons_iff, hm, Option.some_inj, or_assoc]

/-- Two clients agree on the status after datasets. -/
def AgreeAfter (ds : List Dataset) (z₁ z₂ : Z21) : Prop :=
  ∀ z₁' z₂', runAll Z21.handleDataset z₁ ds = .ok z₁' → runAll Z21.handleDataset z₂ ds = .ok z₂' →
    z₁'.status = z₂'.status

/-- The status is made of the fields. -/
theorem Z21.status_eq_of_pairs {z₁ z₂ : Z21}
    (hserial : Mirror.serialNumber.pair z₁ = Mirror.serialNumber.pair z₂)
    (hcode : Mirror.code.pair z₁ = Mirror.code.pair z₂)
    (htype : Mirror.hwType.pair z₁ = Mirror.hwType.pair z₂)
    (hversion : Mirror.fwVersion.pair z₁ = Mirror.fwVersion.pair z₂)
    (hmeasurements : Mirror.measurements.pair z₁ = Mirror.measurements.pair z₂)
    (hstop : Mirror.emergencyStop.pair z₁ = Mirror.emergencyStop.pair z₂)
    (hoff : Mirror.trackVoltageOff.pair z₁ = Mirror.trackVoltageOff.pair z₂)
    (hshort : Mirror.shortCirtcuit.pair z₁ = Mirror.shortCirtcuit.pair z₂)
    (hprog : Mirror.programmingMode.pair z₁ = Mirror.programmingMode.pair z₂)
    (hinvalid : z₁.status.mode.invalidRequest = z₂.status.mode.invalidRequest) :
    z₁.status = z₂.status := by
  have hregisters : ∀ z : Z21, z.status = z.registers.status := fun _ => rfl
  rw [hregisters, hregisters, Registers.status, Registers.status]
  have h₁ : z₁.registers.serialNumber = z₂.registers.serialNumber := hserial
  have h₂ : z₁.registers.code = z₂.registers.code := hcode
  have h₃ : z₁.registers.hwType = z₂.registers.hwType := htype
  have h₄ : z₁.registers.fwVersion = z₂.registers.fwVersion := hversion
  have h₅ : z₁.registers.measurements = z₂.registers.measurements := hmeasurements
  have h₆ : z₁.registers.emergencyStop = z₂.registers.emergencyStop := hstop
  have h₇ : z₁.registers.trackVoltageOff = z₂.registers.trackVoltageOff := hoff
  have h₈ : z₁.registers.shortCirtcuit = z₂.registers.shortCirtcuit := hshort
  have h₉ : z₁.registers.programmingMode = z₂.registers.programmingMode := hprog
  have h₁₀ : z₁.registers.invalidRequest = z₂.registers.invalidRequest := hinvalid
  rw [h₁, h₂, h₃, h₄, h₅, h₆, h₇, h₈, h₉, h₁₀]

/-- Clients whose handlers hold different values of a field never agree without an accepted
dataset. -/
theorem Mirror.Exclusive.accepts_of_agreeAfter {α : Type} {M : Mirror α} (hM : M.Exclusive)
    (hk : M.kind ≠ .lanX) (shown : Z21Status → α) (hshown : ∀ z, (M.pair z).2 = shown z.status)
    {ds : List Dataset} (hs : ∀ d ∈ ds, d.Decodable) {z₁ z₂ : Z21} {a b : α} (hab : a ≠ b)
    (h₁ : M.pair z₁ = (a, a)) (h₂ : M.pair z₂ = (b, b)) (hagree : AgreeAfter ds z₁ z₂) :
    Accepts ds M.kind := by
  by_contra hacc
  obtain ⟨z₁', hz₁⟩ := (z₁.exists_runAll_handleDataset_iff ds).2 hs
  obtain ⟨z₂', hz₂⟩ := (z₂.exists_runAll_handleDataset_iff ds).2 hs
  have hpair₁ := hM.pair_eq_of_not_accepted hk hacc hz₁ h₁
  have hpair₂ := hM.pair_eq_of_not_accepted hk hacc hz₂ h₂
  refine hab ?_
  calc a = shown z₁'.status := by rw [← hshown, hpair₁]
    _ = shown z₂'.status := by rw [hagree z₁' z₂' hz₁ hz₂]
    _ = b := by rw [← hshown, hpair₂]

/-- A new client that receives one dataset. -/
theorem Mirror.Exclusive.exists_reachable {α : Type} {M : Mirror α} (hM : M.Exclusive)
    (hk : M.kind ≠ .lanX) {d : Dataset} (hdec : d.Decodable) {a : α}
    (hd : M.moveOf d = .load a) : ∃ z : Z21, z.Reachable ∧ M.pair z = (a, a) := by
  obtain ⟨z, hz⟩ := ((Z21.fresh ⟨0, 0, .unknown⟩).exists_runAll_handleDataset_iff [d]).2
    (by simpa using hdec)
  refine ⟨z, ⟨_, _, hz⟩, ?_⟩
  rw [hM.pair_runAll hk hz, List.map_singleton, hd]
  rfl

/-- Two datasets of a kind that load different values tell clients apart, so a run that determines
the status has an accepted dataset of the kind. -/
theorem Mirror.Exclusive.accepts_of_determined {α : Type} {M : Mirror α} (hM : M.Exclusive)
    (hk : M.kind ≠ .lanX) (shown : Z21Status → α) (hshown : ∀ z, (M.pair z).2 = shown z.status)
    {ds : List Dataset} (hs : ∀ d ∈ ds, d.Decodable)
    (h : ∀ z₁ z₂ : Z21, z₁.Reachable → z₂.Reachable → AgreeAfter ds z₁ z₂)
    {d e : Dataset} (hdec₁ : d.Decodable) (hdec₂ : e.Decodable) {a b : α}
    (hd : M.moveOf d = .load a) (he : M.moveOf e = .load b) (hab : a ≠ b) :
    Accepts ds M.kind := by
  obtain ⟨z₁, hr₁, h₁⟩ := hM.exists_reachable hk hdec₁ hd
  obtain ⟨z₂, hr₂, h₂⟩ := hM.exists_reachable hk hdec₂ he
  exact hM.accepts_of_agreeAfter hk shown hshown hs hab h₁ h₂ (h z₁ z₂ hr₁ hr₂)

/-- A client that was told of an unknown command shows the flag for good, and a new one does not, so
a run that determines the status has such a reply. -/
theorem Z21.unknownCommand_of_determined {ds : List Dataset} (hs : ∀ d ∈ ds, d.Sound)
    (h : ∀ z₁ z₂ : Z21, z₁.Reachable → z₂.Reachable → AgreeAfter ds z₁ z₂) :
    ∃ d ∈ ds, d.message = some (.lanX .unknownCommand) := by
  have hdec : ∀ d ∈ ds, d.Decodable := fun d hd => (hs d hd).decodable
  obtain ⟨z, hz⟩ := ((fresh ⟨0, 0, .unknown⟩).exists_runAll_handleDataset_iff
    [⟨7, 0x40, [0x61, 0x82, 0xe3]⟩]).2 (by decide)
  obtain ⟨z₁', hz₁⟩ := ((fresh ⟨0, 0, .unknown⟩).exists_runAll_handleDataset_iff ds).2 hdec
  obtain ⟨z₂', hz₂⟩ := (z.exists_runAll_handleDataset_iff ds).2 hdec
  have hagree := h _ z ⟨_, [], rfl⟩ ⟨_, _, hz⟩ z₁' z₂' hz₁ hz₂
  have hset : z.status.mode.invalidRequest = true := by
    cases hz
    rfl
  have hset₁ := (invalidRequest_runAll hz₂ hs).2 (.inl hset)
  rw [← hagree, invalidRequest_runAll hz₁ hs] at hset₁
  exact hset₁.resolve_left (by decide)

/-- **What the status forgets**: two clients that receive the same sound datasets end with the same
status, whatever they received before, exactly when a dataset of each kind with a required length is
accepted, and the reply to an unknown command is among them. -/
theorem Z21.status_determined_iff {ds : List Dataset} (hs : ∀ d ∈ ds, d.Sound) :
    (∀ z₁ z₂ : Z21, z₁.Reachable → z₂.Reachable → AgreeAfter ds z₁ z₂) ↔
      Accepts ds .lanGetSerialNumber ∧ Accepts ds .lanGetCode ∧ Accepts ds .lanGetHwinfo ∧
        Accepts ds .lanSystemstateDatachanged ∧
        ∃ d ∈ ds, d.message = some (.lanX .unknownCommand) := by
  have hdec : ∀ d ∈ ds, d.Decodable := fun d hd => (hs d hd).decodable
  constructor
  · intro h
    refine ⟨?_, ?_, ?_, ?_, unknownCommand_of_determined hs h⟩
    · exact Mirror.exclusive_serialNumber.accepts_of_determined (by decide) (·.id.serialNumber)
        (fun _ => rfl) hdec h (d := ⟨8, 0x10, [0, 0, 0, 0]⟩) (e := ⟨8, 0x10, [1, 0, 0, 0]⟩)
        (by decide) (by decide) rfl rfl (by decide)
    · exact Mirror.exclusive_code.accepts_of_determined (by decide) (·.id.featureSet.value)
        (fun _ => rfl) hdec h (d := ⟨5, 0x18, [0]⟩) (e := ⟨5, 0x18, [1]⟩)
        (by decide) (by decide) rfl rfl (by decide)
    · exact Mirror.exclusive_hwType.accepts_of_determined (by decide) (·.id.hwType)
        (fun _ => rfl) hdec h (d := ⟨12, 0x1a, [0, 0, 0, 0, 1, 0, 0, 0]⟩)
        (e := ⟨12, 0x1a, [1, 0, 0, 0, 1, 0, 0, 0]⟩) (by decide) (by decide) rfl rfl (by decide)
    · exact Mirror.exclusive_measurements.accepts_of_determined (by decide) (·.measurements)
        (fun _ => rfl) hdec h (d := ⟨20, 0x84, List.replicate 16 0⟩)
        (e := ⟨20, 0x84, List.replicate 16 1⟩) (by decide) (by decide) rfl rfl (by decide)
  · rintro ⟨hserial, hcode, hhw, hss, hunknown⟩ z₁ z₂ - - z₁' z₂' h₁ h₂
    refine status_eq_of_pairs ?_ ?_ ?_ ?_ ?_ ?_ ?_ ?_ ?_ ?_
    · exact Mirror.exclusive_serialNumber.pair_eq_of_accepted hs hserial h₁ h₂
    · exact Mirror.exclusive_code.pair_eq_of_accepted hs hcode h₁ h₂
    · exact Mirror.exclusive_hwType.pair_eq_of_accepted hs hhw h₁ h₂
    · exact Mirror.faithful_fwVersion.pair_eq_of_accepted hs hhw h₁ h₂
    · exact Mirror.exclusive_measurements.pair_eq_of_accepted hs hss h₁ h₂
    · exact Mirror.faithful_emergencyStop.pair_eq_of_accepted hs hss h₁ h₂
    · exact Mirror.faithful_trackVoltageOff.pair_eq_of_accepted hs hss h₁ h₂
    · exact Mirror.faithful_shortCirtcuit.pair_eq_of_accepted hs hss h₁ h₂
    · exact Mirror.faithful_programmingMode.pair_eq_of_accepted hs hss h₁ h₂
    · rw [(invalidRequest_runAll h₁ hs).2 (.inr hunknown),
        (invalidRequest_runAll h₂ hs).2 (.inr hunknown)]

/-- A reply of each kind, and the reply to an unknown command. -/
theorem Z21.status_determined_replies :
    AgreeAfter [⟨8, 0x10, [1, 2, 3, 4]⟩, ⟨5, 0x18, [2]⟩, ⟨12, 0x1a, [1, 0, 0, 0, 1, 0, 0, 0]⟩,
      ⟨20, 0x84, List.replicate 16 0⟩, ⟨7, 0x40, [0x61, 0x82, 0xe3]⟩]
      (fresh ⟨0, 0, .unknown⟩) (fresh ⟨1, 1, .unknown⟩) := by
  refine (status_determined_iff ?_).2 ⟨by decide, by decide, by decide, by decide, ?_⟩ _ _
    ⟨_, [], rfl⟩ ⟨_, [], rfl⟩
  · have hwf : ∀ d ∈ ([⟨8, 0x10, [1, 2, 3, 4]⟩, ⟨5, 0x18, [2]⟩,
        ⟨12, 0x1a, [1, 0, 0, 0, 1, 0, 0, 0]⟩, ⟨20, 0x84, List.replicate 16 0⟩,
        ⟨7, 0x40, [0x61, 0x82, 0xe3]⟩] : List Dataset), d.WellFormed := by decide
    exact fun d hd => (hwf d hd).sound
  · exact ⟨⟨7, 0x40, [0x61, 0x82, 0xe3]⟩, by simp, rfl⟩

/-! ## Members without an initializer -/

/-- A dataset of a kind is dropped. -/
def Drops (ds : List Dataset) (k : DataSet) : Prop := ∃ d ∈ ds, d.kind = some k ∧ d.Dropped

instance (ds : List Dataset) (k : DataSet) : Decidable (Drops ds k) :=
  inferInstanceAs (Decidable (∃ d ∈ ds, d.kind = some k ∧ d.Dropped))

/-- The registers without those that hold a member without an initializer in a new client. -/
def Registers.initialized (r : Registers) : Registers :=
  { r with serialNumber := (0, 0), hwType := (0, 0), turnoutInfo := ⟨0, .unknown⟩ }

/-- What a message does to the other registers is independent of these. -/
theorem Z21.initialized_receive (z : Z21) (m : Message) :
    (z.receive m).registers.initialized =
      (z.registers.initialized.toZ21.receive m).registers.initialized := by
  by_cases hc : m = .corrupted
  · subst hc
    show z.runCommand.registers.initialized =
      z.registers.initialized.toZ21.runCommand.registers.initialized
    have hcommand : z.registers.initialized.toZ21.commandHandlers.lanX.mCommand =
        z.commandHandlers.lanX.mCommand := rfl
    rw [runCommand, runCommand, hcommand]
    rcases z.commandHandlers.lanX.mCommand with _ | c
    · rfl
    · cases c <;> rfl
  · rw [receive_of_ne hc, receive_of_ne hc]
    rfl

theorem Z21.initialized_runAll {ds : List Dataset} {u₁ u₂ : Uninitialized} {z₁ z₂ : Z21}
    (h₁ : runAll handleDataset (fresh u₁) ds = .ok z₁)
    (h₂ : runAll handleDataset (fresh u₂) ds = .ok z₂) :
    z₁.registers.initialized = z₂.registers.initialized := by
  have hstep : ∀ d ∈ ds, ∀ z z' : Z21, z.handleDataset d = .ok z' →
      z'.registers.initialized = d.message.elim z.registers.initialized
        fun m => (z.registers.initialized.toZ21.receive m).registers.initialized := by
    intro d _ z z' hz
    obtain ⟨m, hm, rfl⟩ := handleDataset_eq_ok_iff.1 hz
    rw [hm]
    exact z.initialized_receive m
  have hrun₁ := runAll_simulates (φ := fun z : Z21 => z.registers.initialized)
    (g := fun r d => d.message.elim r fun m => (r.toZ21.receive m).registers.initialized) hstep h₁
  have hrun₂ := runAll_simulates (φ := fun z : Z21 => z.registers.initialized)
    (g := fun r d => d.message.elim r fun m => (r.toZ21.receive m).registers.initialized) hstep h₂
  exact hrun₁.trans hrun₂.symm

namespace Mirror.Exclusive

variable {α : Type} {M : Mirror α} (hM : M.Exclusive) (hk : M.kind ≠ .lanX) {ds : List Dataset}
include hM hk

/-- What the status shows of a field that is dropped only if it is accepted too. -/
theorem snd_pair_eq {z₁ z₂ z₁' z₂' : Z21} (h₁ : runAll Z21.handleDataset z₁ ds = .ok z₁')
    (h₂ : runAll Z21.handleDataset z₂ ds = .ok z₂') (hshown : (M.pair z₁).2 = (M.pair z₂).2)
    (h : Drops ds M.kind → Accepts ds M.kind) : (M.pair z₁').2 = (M.pair z₂').2 := by
  rw [hM.pair_runAll hk h₁, hM.pair_runAll hk h₂]
  by_cases hacc : Accepts ds M.kind
  · obtain ⟨d, hd, hkind, hdrop⟩ := hacc
    have hdec := ((z₁.exists_runAll_handleDataset_iff ds).1 ⟨z₁', h₁⟩) d hd
    obtain ⟨a, ha⟩ := hM.exists_moveOf hdec hkind hdrop
    exact congrArg Prod.snd (Move.run_of_load (List.mem_map.2 ⟨d, hd, ha⟩) _ _)
  · have hkeep : ∀ m ∈ ds.map M.moveOf, m = .keep := by
      rw [List.forall_mem_map]
      intro d hd
      refine hM.moveOf_of_ne fun hkind => ?_
      by_cases hdrop : d.Dropped
      · exact hacc (h ⟨d, hd, hkind, hdrop⟩)
      · exact hacc ⟨d, hd, hkind, hdrop⟩
    rw [Move.run_of_keep hkeep, Move.run_of_keep hkeep, hshown]

/-- A dropped dataset shows what the handler holds. -/
theorem snd_pair_of_dropped {z z' : Z21} (h : runAll Z21.handleDataset z ds = .ok z')
    (hdrop : Drops ds M.kind) (hacc : ¬Accepts ds M.kind) : (M.pair z').2 = (M.pair z).1 := by
  rw [hM.pair_runAll hk h]
  obtain ⟨d, hd, hkind, hdrop⟩ := hdrop
  have hheld : ∀ m ∈ ds.map M.moveOf, m = .keep ∨ m = .copy := by
    rw [List.forall_mem_map]
    exact fun d hd => hM.moveOf_of_not_accepted fun h => hacc ⟨d, hd, h⟩
  have hcopy : .copy ∈ ds.map M.moveOf :=
    List.mem_map.2 ⟨d, hd, hM.moveOf_of_dropped hkind hdrop⟩
  exact congrArg Prod.snd (Move.run_of_copy hheld hcopy (M.pair z).1 (M.pair z).2)

end Mirror.Exclusive

/-- **What the status shows of members without an initializer**: nothing, over a run of a new
client, exactly when, for the serial number and for the hardware info, a dataset is dropped only if
one is accepted too. -/
theorem Z21.status_initialized_iff {ds : List Dataset} (hdec : ∀ d ∈ ds, d.Decodable) :
    (∀ u₁ u₂, AgreeAfter ds (fresh u₁) (fresh u₂)) ↔
      (Drops ds .lanGetSerialNumber → Accepts ds .lanGetSerialNumber) ∧
        (Drops ds .lanGetHwinfo → Accepts ds .lanGetHwinfo) := by
  constructor
  · intro h
    obtain ⟨z₁, h₁⟩ := ((fresh ⟨0, 0, .unknown⟩).exists_runAll_handleDataset_iff ds).2 hdec
    obtain ⟨z₂, h₂⟩ := ((fresh ⟨1, 1, .unknown⟩).exists_runAll_handleDataset_iff ds).2 hdec
    have hstatus := h _ _ z₁ z₂ h₁ h₂
    refine ⟨fun hdrop => by_contra fun hacc => ?_, fun hdrop => by_contra fun hacc => ?_⟩
    · have hs₁ := Mirror.exclusive_serialNumber.snd_pair_of_dropped (by decide) h₁ hdrop hacc
      have hs₂ := Mirror.exclusive_serialNumber.snd_pair_of_dropped (by decide) h₂ hdrop hacc
      have hne : (0 : UInt32) = 1 :=
        hs₁.symm.trans ((congrArg (·.id.serialNumber) hstatus).trans hs₂)
      exact absurd hne (by decide)
    · have hs₁ := Mirror.exclusive_hwType.snd_pair_of_dropped (by decide) h₁ hdrop hacc
      have hs₂ := Mirror.exclusive_hwType.snd_pair_of_dropped (by decide) h₂ hdrop hacc
      have hne : (0 : UInt32) = 1 := hs₁.symm.trans ((congrArg (·.id.hwType) hstatus).trans hs₂)
      exact absurd hne (by decide)
  · rintro ⟨hserial, hhw⟩ u₁ u₂ z₁ z₂ h₁ h₂
    have hs := Mirror.exclusive_serialNumber.snd_pair_eq (by decide) h₁ h₂ rfl hserial
    have ht := Mirror.exclusive_hwType.snd_pair_eq (by decide) h₁ h₂ rfl hhw
    have hinit := congrArg Registers.status (initialized_runAll h₁ h₂)
    -- the other fields of the status are those of the registers with an initializer
    have hrest : ∀ z : Z21, z.status = { z.registers.initialized.status with
        id := { z.registers.initialized.status.id with
          serialNumber := (Mirror.serialNumber.pair z).2
          hwType := (Mirror.hwType.pair z).2 } } := fun _ => rfl
    rw [hrest z₁, hrest z₂, hinit, hs, ht]

/-- A serial number without a payload, and then one with a payload. -/
theorem Z21.status_initialized_serialNumber :
    AgreeAfter [⟨4, 0x10, []⟩, ⟨8, 0x10, [1, 2, 3, 4]⟩]
      (fresh ⟨0, 0, .unknown⟩) (fresh ⟨1, 1, .unknown⟩) :=
  (Z21.status_initialized_iff (by decide)).2 ⟨by decide, by decide⟩ _ _

end TrainPP
